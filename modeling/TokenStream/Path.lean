/-!
Paths as they are written, read into their parts. Repeated slashes, parts of one dot and a trailing
slash say nothing and are dropped; parts of two dots stay.
-/
namespace TokenStream

structure Path where
  /-- One or two slashes for a path from the root, nothing for one from the working directory. -/
  root : String
  parts : List String
deriving DecidableEq, Repr

namespace Path

/-- The pieces of a text between its slashes. -/
def pieces : List Char → List (List Char)
  | [] => [[]]
  | c :: rest =>
    if c = '/' then [] :: pieces rest
    else
      match pieces rest with
      | [] => [[c]]
      | piece :: more => (c :: piece) :: more

/-- Exactly two leading slashes are kept apart from one; three or more count as one. -/
def rootOf (text : List Char) : String :=
  match (text.takeWhile (· == '/')).length with
  | 0 => ""
  | 2 => "//"
  | _ => "/"

def ofString (text : String) : Path :=
  ⟨rootOf text.toList,
    ((pieces text.toList).map String.ofList).filter fun part => part != "" && part != "."⟩

/-- The working directory. -/
def here : Path := ⟨"", []⟩

def render (path : Path) : String :=
  if path.root = "" ∧ path.parts = [] then "."
  else path.root ++ "/".intercalate path.parts

/-- The directory that a path is in. The root and the working directory are their own parents. -/
def parent (path : Path) : Path := { path with parts := path.parts.dropLast }

def join (path : Path) (name : String) : Path := { path with parts := path.parts ++ [name] }

end Path
end TokenStream
