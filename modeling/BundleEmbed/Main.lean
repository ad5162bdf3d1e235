import BundleEmbed.Command.Run

/-!
The program at a terminal.

What the run may ask about is looked up on disk first: the path that the arguments name,
and the files of the dependencies of a descriptor there. Then the run itself is a value,
whose output is printed and whose files are written.
-/

namespace BundleEmbed

/-- The tree with what stands on disk on the way of a path, with contents if they are
asked for. -/
def observe (withContent : Bool) (tree : FileTree) (path : Path) : IO FileTree := do
  let here ← IO.currentDir
  let mut tree := tree
  let mut place := tree.startOf path.anchor
  for segment in path.segments do
    let some name := segment.text.name? | return tree
    place := if name = ".." then place.dropLast else place ++ [name]
    let onDisk := here / ("/" ++ "/".intercalate place)
    if ← onDisk.isDir then
      tree := tree.put place .directory
    else if ← onDisk.pathExists then
      let content ← if withContent then IO.FS.readBinFile onDisk else pure ByteArray.empty
      tree := tree.put place (.file content)
  return tree

/-- The files of the dependencies of a descriptor, if it can be loaded. -/
def dependencyPaths (tree : FileTree) (path : Path) : List Path :=
  match Descriptor.load tree path with
  | .ok (_, dependencies) => dependencies.filterMap (·.file)
  | .error _ => []

/-- The variables that the program reads. -/
def readEnvironment : IO Environment := do
  return {
    embedDirectory := ← IO.getEnv embedDirectoryVariable
    logLevel := ← IO.getEnv logLevelVariable
    logFormat := ← IO.getEnv logFormatVariable }

end BundleEmbed

open BundleEmbed in
/-- Runs the program on its arguments. -/
def main (arguments : List String) : IO UInt32 := do
  let environment ← readEnvironment
  let here := (← IO.currentDir).toString
  let current := (Path.ofText here).segments.filterMap (·.text.name?)
  let named := namedPaths arguments
  let tree ← named.foldlM (observe true) (FileTree.emptyIn current)
  let tree ← (named.flatMap (dependencyPaths tree)).foldlM (observe false) tree
  let run := runProgram tree environment arguments
  let result := run.result
  for record in run.records do
    IO.eprintln (record.text run.format)
  for line in result.errors do
    IO.eprintln line
  if let some crash := result.crash then IO.eprintln crash.message.shown
  IO.print result.output
  for (place, entry) in result.files.entries do
    if let .file content := entry then
      unless tree.entries.contains (place, entry) do
        IO.FS.writeBinFile ("/" ++ "/".intercalate place) content
  return UInt32.ofNat result.exitCode
