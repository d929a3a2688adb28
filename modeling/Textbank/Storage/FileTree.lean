import Textbank.AscMap
import Textbank.Text.Cut
/-!
# File trees

A file tree is what a file system holds below one place: directories, and files with their bytes,
each under the path of names that leads to it.  Every node lies in a directory
(`FileTree.closed`), and a tree only grows or has files replaced.  Main definitions:

* `FileTree.node?` : what lies at a path;
* `FileTree.locate` : the path that a written path leads to, going through directories only;
* `FileTree.makeDirectories`, `FileTree.writeFile` : create directories, write a file;
* `FileTree.makeWay` : create the directories that a written path goes through.
-/

namespace Textbank

/-- The names on the way down from the top. -/
abbrev Path := List String

/-- What can lie at a path. -/
inductive Node where
  | directory
  | file (content : ByteArray)

instance : DecidableEq Node
  | .directory, .directory => .isTrue rfl
  | .directory, .file _ => .isFalse nofun
  | .file _, .directory => .isFalse nofun
  | .file a, .file b =>
    match ByteArray.instDecidableEq a b with
    | .isTrue h => .isTrue (h ▸ rfl)
    | .isFalse h => .isFalse fun e => h (Node.file.inj e)

/-- The nodes below the top, which is a directory itself. -/
structure FileTree where
  nodes : AscMap Path Node
  /-- Every node lies in a directory. -/
  closed : ∀ (p : Path) (name : String), nodes.contains (p ++ [name]) = true →
    p = [] ∨ nodes.find? p = some .directory

namespace FileTree

/-- The tree with nothing below the top. -/
def empty : FileTree := ⟨∅, fun _ _ h => by simp [AscMap.contains] at h⟩

instance : EmptyCollection FileTree := ⟨empty⟩

instance : Inhabited FileTree := ⟨empty⟩

/-- What lies at a path. -/
def node? (t : FileTree) (p : Path) : Option Node :=
  if p = [] then some .directory else t.nodes.find? p

/-- Whether a directory lies at a path. -/
def isDirectory (t : FileTree) (p : Path) : Bool := t.node? p = some .directory

/-- The bytes of the file at a path. -/
def file? (t : FileTree) (p : Path) : Option ByteArray :=
  match t.node? p with
  | some (.file content) => some content
  | _ => none

/-- Whether a file lies at a path. -/
def isFile (t : FileTree) (p : Path) : Bool := (t.file? p).isSome

/-- The names inside a directory that are names of files, ascending. -/
def fileNames (t : FileTree) (dir : Path) : List String :=
  t.nodes.entries.filterMap fun (p, node) =>
    match node, p.getLast? with
    | .file _, some name => if p = dir ++ [name] then some name else none
    | _, _ => none

/-! ### Written paths -/

/-- The parts of a written path between its slashes. -/
def splitPath : List Char → List (List Char)
  | [] => [[]]
  | c :: cs =>
    if c = '/' then [] :: splitPath cs
    else
      match splitPath cs with
      | [] => [[c]]
      | p :: ps => (c :: p) :: ps

/-- The parts of a written path, as strings. -/
def parts (path : String) : List String := (splitPath path.toList).map .ofList

/-- Whether a written path starts at the top. -/
def isAbsolute (path : String) : Bool := path.toList.head? = some '/'

/-- Where one part leads from a directory. -/
def stepInto (dir : Path) (part : String) : Path :=
  if part = "" ∨ part = "." then dir
  else if part = ".." then dir.dropLast
  else dir ++ [part]

/-- Where the parts of a path lead; every part but the last has to lead to a directory. -/
def walk (t : FileTree) (dir : Path) : List String → Option Path
  | [] => some dir
  | part :: rest => if t.isDirectory dir then t.walk (stepInto dir part) rest else none

/-- The bytes that a written path may have. -/
def maxPathBytes : Nat := 4095

/-- Where a written path leads, unless it is too long. -/
def locate (t : FileTree) (path : String) : Option Path :=
  if path.utf8ByteSize ≤ maxPathBytes then t.walk [] (parts path) else none

/-- A written path as a path from the top, whatever lies on the way. -/
def pathOf (path : String) : Path := (parts path).foldl stepInto []

/-- One written path below another. -/
def joinPath (dir path : String) : String :=
  if isAbsolute path || dir = "" then path
  else if dir.toList.getLast? = some '/' then dir ++ path
  else dir ++ "/" ++ path

/-! ### Growth -/

/-- Whether a name can be given to a node: it is not too long and holds no NUL. -/
def validName (name : String) : Bool := name.utf8ByteSize ≤ 255 && !name.toList.contains '\x00'

theorem append_singleton_ne_self (p : Path) (name : String) : p ≠ p ++ [name] := fun h => by
  have := congrArg List.length h
  simp at this

/-- Put a node into a directory, where no other directory is in its place. -/
def put (t : FileTree) (dir : Path) (name : String) (node : Node)
    (hdir : t.isDirectory dir = true) (hfree : t.isDirectory (dir ++ [name]) = false) :
    FileTree where
  nodes := t.nodes.insert (dir ++ [name]) node
  closed p n h := by
    by_cases hp : p = []
    · exact Or.inl hp
    · refine Or.inr ?_
      have hold : t.nodes.find? p = some .directory := by
        by_cases hq : p ++ [n] = dir ++ [name]
        · obtain ⟨rfl, -⟩ := List.append_inj' hq rfl
          simpa [isDirectory, node?, hp] using hdir
        · have : t.nodes.contains (p ++ [n]) = true := by
            rw [AscMap.contains, AscMap.find?_insert_of_ne _ _ hq] at h
            exact h
          exact (t.closed p n this).resolve_left hp
      rw [AscMap.find?_insert_of_ne _ _ ?_]
      · exact hold
      · rintro rfl
        simp [isDirectory, node?, hold] at hfree

/-- Create the directories of a path that are not there, unless a file or an unfit name is on the
way.  `dir` is the part of the path that is there already. -/
def makeBelow (t : FileTree) (dir : Path) : List String → Option FileTree
  | [] => some t
  | name :: rest =>
    if t.isDirectory (dir ++ [name]) then t.makeBelow (dir ++ [name]) rest
    else if t.isFile (dir ++ [name]) || !validName name then none
    else if h : t.isDirectory dir = true ∧ t.isDirectory (dir ++ [name]) = false then
      (t.put dir name .directory h.1 h.2).makeBelow (dir ++ [name]) rest
    else none

/-- Create the directories of a path that are not there. -/
def makeDirectories (t : FileTree) (p : Path) : Option FileTree := t.makeBelow [] p

/-- Create the directories that the parts of a path go through, and say whether all of them are
there in the end.  Where something is in the way, what has been created so far stays. -/
def makeWay (t : FileTree) (dir : Path) : List String → Bool × FileTree
  | [] => (true, t)
  | part :: rest =>
    match t.makeDirectories (stepInto dir part) with
    | some t => t.makeWay (stepInto dir part) rest
    | none => (false, t)

/-- Write a file in a directory, unless a directory has its name. -/
def writeFile (t : FileTree) (p : Path) (content : ByteArray) : Option FileTree :=
  match p.getLast? with
  | none => none
  | some name =>
    if h : t.isDirectory p.dropLast = true ∧ t.isDirectory (p.dropLast ++ [name]) = false then
      if validName name then some (t.put p.dropLast name (.file content) h.1 h.2) else none
    else none

end FileTree

end Textbank
