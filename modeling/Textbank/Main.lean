import Textbank.Console.Session
/-!
# The program

Reads the working directory into a file tree, lets `Console.execute` decide, and brings about what
it decided: the text on both outputs, the files that are new or changed, and the exit code.
-/

namespace Textbank.Program

open Console

/-- Read what lies below a directory into a tree, at a path. -/
partial def readBelow (t : FileTree) (place : Path) (dir : String) : IO FileTree := do
  let mut t := (t.makeDirectories place).getD t
  for entry in ← (System.mkFilePath [dir]).readDir do
    let here := place ++ [entry.fileName]
    if ← entry.path.isDir then t ← readBelow t here entry.path.toString
    else t := (t.writeFile here (← IO.FS.readBinFile entry.path)).getD t
  return t

/-- Read a directory, if it is there, and so are the directories that its name goes through. -/
def readTree (root : String) : IO FileTree := do
  let path := System.mkFilePath [root]
  let place := FileTree.pathOf root
  let names := FileTree.parts root
  if ← path.isDir then readBelow ((∅ : FileTree).makeWay [] names).2 place root
  else if ← path.pathExists then
    let tree := ((∅ : FileTree).makeWay [] names.dropLast).2
    return (tree.writeFile place (← IO.FS.readBinFile path)).getD tree
  else return ∅

/-- The name of a path of a tree in the file system. -/
def realPath (root : String) (p : Path) : String :=
  (p.drop (FileTree.pathOf root).length).foldl FileTree.joinPath root

/-- A name that no other file has. -/
def temporaryName : IO String := do
  let bytes ← IO.getRandomBytes 16
  return ".scripted-" ++ .join (bytes.toList.map fun b => Numeral.decimal b.toNat) ++ ".tmp"

/-- Write a file by way of a temporary one, so that it is never seen half written. -/
def writeThrough (dir path : String) (content : ByteArray) : IO Unit := do
  let temporary := FileTree.joinPath dir (← temporaryName)
  IO.FS.writeBinFile temporary content
  IO.FS.rename temporary path

/-- Bring about the nodes that were not in a tree before. -/
def writeChanges (root : String) (before after : FileTree) : IO Unit := do
  for (p, node) in after.nodes.entries do
    unless before.node? p = some node do
      match node with
      | .directory => IO.FS.createDirAll (realPath root p)
      | .file content => writeThrough (realPath root p.dropLast) (realPath root p) content

/-- Leave the temporary files of writes that failed. -/
def writeLeftovers (root : String) (leftovers : List (Path × String)) : IO Unit := do
  for (dir, text) in leftovers do
    IO.FS.writeFile (FileTree.joinPath (realPath root dir) (← temporaryName)) text

/-- What the environment says. -/
def surroundings : IO Surroundings := do
  return {
    home := ← IO.getEnv "SCRIPTED_HOME"
    dataHome := userData? (← IO.getEnv "XDG_DATA_HOME") (← IO.getEnv "HOME")
    colored := isColored (← IO.getEnv "CLICOLOR_FORCE") (← IO.getEnv "NO_COLOR")
      (← IO.getEnv "CLICOLOR") (← (← IO.getStdout).isTty) }

/-- One run in the file system. -/
def run (args : List String) : IO UInt32 := do
  let s ← surroundings
  let root := workingDirectory? s args
  let tree ← root.elim (pure ∅) readTree
  let outcome := execute s tree args
  if let some root := root then
    writeChanges root tree outcome.tree
    writeLeftovers root outcome.leftovers
  IO.print outcome.stdout
  IO.eprint outcome.stderr
  return outcome.exitCode

end Textbank.Program

/-- The program; a failure of the file system itself is reported like any other. -/
def main (args : List String) : IO UInt32 := do
  try Textbank.Program.run args
  catch e =>
    IO.eprintln ("Error: IO error: " ++ toString e)
    return 1
