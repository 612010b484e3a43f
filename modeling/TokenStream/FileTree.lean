import TokenStream.Path
import TokenStream.Text.Quoted

/-!
Trees of files, as a program with a working directory sees them. A path leads from the working
directory, or from the root, one name after the other; two dots lead back to the directory above.
-/
namespace TokenStream

/-- Why a path cannot be used. -/
inductive FileError.Cause where
  | notFound | notDirectory | isDirectory | nameTooLong
deriving DecidableEq, Repr

structure FileError where
  cause : FileError.Cause
  path : Path
deriving DecidableEq, Repr

namespace FileError

/-- The number that the system gives to a cause. -/
def Cause.number : Cause → Nat
  | notFound => 2
  | notDirectory => 20
  | isDirectory => 21
  | nameTooLong => 36

def Cause.text : Cause → String
  | notFound => "No such file or directory"
  | notDirectory => "Not a directory"
  | isDirectory => "Is a directory"
  | nameTooLong => "File name too long"

def message (e : FileError) : String :=
  s!"[Errno {e.cause.number}] {e.cause.text}: {quoted e.path.render}"

end FileError

/-- What stops an access to a file: an error of the system, or a path that cannot be a path. -/
inductive AccessError where
  | system (error : FileError)
  | nulInPath
deriving DecidableEq, Repr

def AccessError.message : AccessError → String
  | system error => error.message
  | nulInPath => "embedded null byte"

inductive Node where
  | directory
  | file (content : ByteArray)

structure FileTree where
  /-- The names that lead from the root to the working directory. -/
  home : List String
  /-- Directories and files by the names that lead to them from the root, which is not listed. -/
  entries : List (List String × Node)

namespace FileTree

def node? (tree : FileTree) (names : List String) : Option Node :=
  if names = [] then some .directory else tree.entries.lookup names

def file? (tree : FileTree) (names : List String) : Option ByteArray :=
  match tree.node? names with
  | some (.file content) => some content
  | _ => none

def put (tree : FileTree) (names : List String) (node : Node) : FileTree :=
  { tree with entries := (names, node) :: tree.entries.filter fun entry => entry.1 != names }

/-- The tree with a directory and the directories that lead to it. -/
def makeDirectory (tree : FileTree) (names : List String) : FileTree :=
  (List.range names.length).foldl
    (fun tree n =>
      let leading := names.take (n + 1)
      if (tree.node? leading).isNone then tree.put leading .directory else tree)
    tree

/-- The tree with a file and the directories that lead to it. -/
def makeFile (tree : FileTree) (names : List String) (content : ByteArray) : FileTree :=
  (tree.makeDirectory names.dropLast).put names (.file content)

/-- The tree that holds a working directory and nothing else. -/
def bare (home : List String) : FileTree := makeDirectory ⟨home, []⟩ home

/-- Where a path leads. -/
inductive Target where
  | directory (names : List String)
  | file (names : List String) (content : ByteArray)
  | absent (names : List String)

/-- Names are limited to this many bytes. -/
def maxNameSize : Nat := 255

/-- Paths are limited to fewer bytes than this. -/
def maxPathSize : Nat := 4096

/-- One name further along a path. -/
def enter (tree : FileTree) (target : Target) (name : String) : Except FileError.Cause Target :=
  match target with
  | .file .. => .error .notDirectory
  | .absent _ => .error .notFound
  | .directory names =>
    if name = ".." then .ok (.directory names.dropLast)
    else if maxNameSize < name.utf8ByteSize then .error .nameTooLong
    else
      match tree.node? (names ++ [name]) with
      | some .directory => .ok (.directory (names ++ [name]))
      | some (.file content) => .ok (.file (names ++ [name]) content)
      | none => .ok (.absent (names ++ [name]))

def resolve (tree : FileTree) (path : Path) : Except FileError.Cause Target :=
  if maxPathSize ≤ path.render.utf8ByteSize then .error .nameTooLong
  else path.parts.foldlM tree.enter (.directory (if path.root = "" then tree.home else []))

def hasNul (path : Path) : Bool := path.render.toList.contains '\u0000'

/-- Where a path leads that is about to be opened. -/
def locate (tree : FileTree) (path : Path) : Except AccessError Target :=
  if hasNul path then .error .nulInPath
  else (tree.resolve path).mapError fun cause => .system ⟨cause, path⟩

/-- Whether a path leads to a file. Only a name that is too long for the system is an error. -/
def isFile (tree : FileTree) (path : Path) : Except FileError Bool :=
  if hasNul path then .ok false
  else
    match tree.resolve path with
    | .ok (.file ..) => .ok true
    | .error .nameTooLong => .error ⟨.nameTooLong, path⟩
    | _ => .ok false

def read (tree : FileTree) (path : Path) : Except AccessError ByteArray :=
  match tree.locate path with
  | .error e => .error e
  | .ok (.file _ content) => .ok content
  | .ok (.directory _) => .error (.system ⟨.isDirectory, path⟩)
  | .ok (.absent _) => .error (.system ⟨.notFound, path⟩)

/-- The tree after a file was written. -/
def write (tree : FileTree) (path : Path) (content : ByteArray) : Except AccessError FileTree :=
  match tree.locate path with
  | .error e => .error e
  | .ok (.file names _) | .ok (.absent names) => .ok (tree.put names (.file content))
  | .ok (.directory _) => .error (.system ⟨.isDirectory, path⟩)

end FileTree
end TokenStream
