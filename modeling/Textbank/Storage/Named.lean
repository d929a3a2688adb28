import Textbank.Storage.Directory
/-!
# Directories by their names

A directory is named by a written path, which leads to it only if all is there that the path goes
through: while there is no directory `a`, the path `a/../b` leads nowhere, whatever `b` holds.  A
`NamedDirectory` finds nothing as long as its name leads nowhere.  Writing creates the directories
that the name goes through, and from then on it finds what is in the directory.

`DirectoryStore` is the directory itself, whose name is taken to lead there.
-/

namespace Textbank

/-- A directory of a file tree as a store that finds the directory by its name. -/
structure NamedDirectory where
  store : DirectoryStore

namespace NamedDirectory

/-- Whether the name of a directory leads to a place in a tree. -/
def leads (t : FileTree) (root : String) : Bool := (t.locate root).isSome

/-- Whether the name of the directory leads to its place. -/
def isFound (s : NamedDirectory) : Bool := leads s.store.tree s.store.root

/-- The store of a directory with the configuration that is found in it. -/
def load (t : FileTree) (root : String) : Except Failure NamedDirectory :=
  if leads t root then (DirectoryStore.load t root).map mk
  else .ok ⟨{ config := .standard, root := root, tree := t }⟩

/-- Write something, the directories that the name goes through being created first. -/
def reach {α : Type} (s : NamedDirectory)
    (write : DirectoryStore → Except Failure α × DirectoryStore) :
    Except Failure α × NamedDirectory :=
  let (ready, tree) := s.store.tree.makeWay [] (FileTree.parts s.store.root)
  let store := { s.store with tree := tree }
  if ready then
    let (result, store) := write store
    (result, ⟨store⟩)
  else (.error .io, ⟨store⟩)

instance : Storage NamedDirectory where
  config s := Storage.config s.store
  contains s id := s.isFound && Storage.contains s.store id
  document? s id := if s.isFound then Storage.document? s.store id else .ok none
  resource? s name := Storage.resource? s.store name
  location s id := Storage.location s.store id
  bankIds s := if s.isFound then Storage.bankIds s.store else .ok []
  putDocument s id text := s.reach (Storage.putDocument · id text)
  putOutput s name text := s.reach (Storage.putOutput · name text)

end NamedDirectory

end Textbank
