import TokenStream.Program

/-! The command line: the program run on the files of the system. -/
namespace TokenStream

/-- The tree with what the system has along a path. -/
def lookUp (tree : FileTree) (path : Path) : IO FileTree := do
  let here ← IO.currentDir
  let mut tree := tree
  let mut names := if path.root = "" then tree.home else []
  for n in List.range path.parts.length do
    let part := path.parts.getD n ""
    let found := here / ({ path with parts := path.parts.take (n + 1) } : Path).render
    names := if part = ".." then names.dropLast else names ++ [part]
    if ← found.isDir then
      tree := tree.makeDirectory names
    else if ← found.pathExists then
      tree := tree.makeFile names (← IO.FS.readBinFile found)
  return tree

/-- The paths that a run with the arguments may use. -/
def pathsOf (args : CommandLine.Arguments) : List Path :=
  Options.configPath args :: ((Options.inputOf args).toList ++ (Options.outputOf args).toList)

/-- What the program finds on the system. -/
def findWorld (words : List String) : IO World := do
  let home := (Path.ofString (← IO.currentDir).toString).parts
  let mut tree := FileTree.bare home
  let mut stdin := ByteArray.empty
  if let .ok args := CommandLine.Arguments.read words then
    for path in pathsOf args do
      tree ← lookUp tree path
    if (Options.inputOf args).isNone then
      stdin ← (← IO.getStdin).readBinToEnd
  return ⟨tree, stdin⟩

/-- Writes the files that a run created or changed. -/
def keepChanges (before after : FileTree) : IO Unit := do
  for (names, node) in after.entries do
    if let .file content := node then
      if before.file? names != some content then
        IO.FS.writeBinFile ("/" ++ "/".intercalate names) content

end TokenStream

open TokenStream in
def main (words : List String) : IO UInt32 := do
  let world ← findWorld words
  let outcome := Program.run world words
  IO.print outcome.stdout
  IO.eprint outcome.stderr
  keepChanges world.tree outcome.tree
  match outcome.ending with
  | .exit code | .halt code => return UInt32.ofNat code
  | .crash crash =>
    IO.eprintln crash.message
    return 1
