import Textbank.Storage.Basic
import Textbank.Storage.FileTree
import Textbank.Text.Utf8
/-!
# Storage in a directory

A store that keeps each document in a file of its own, named for the bank, inside one directory of
a file tree.  Resources are files below the same directory, and outputs go into a folder of it.
Writing goes through a temporary file, so a failed write leaves no half-written document; what it
may leave is the temporary file (`leftovers`).

`DirectoryStore.load` opens a directory with the configuration that lies in it.
-/

namespace Textbank

/-- A directory of a file tree as a store. -/
structure DirectoryStore where
  config : Config
  /-- The directory as it was named. -/
  root : String
  tree : FileTree
  /-- Temporary files that were not renamed: the directory they lie in, and their text. -/
  leftovers : List (Path × String) := []

namespace DirectoryStore

/-- The path of the directory. -/
def base (s : DirectoryStore) : Path := FileTree.pathOf s.root

/-! ### Configuration files -/

/-- The name of the file that keeps the configuration. -/
def configName : String := "config.json"

/-- The text of a file, if it is a file of UTF-8 text. -/
def readText (t : FileTree) (p : Path) : Except Failure String :=
  match (t.file? p).bind String.fromUTF8? with
  | some text => .ok text
  | none => .error .io

/-- The configuration of the directory at a path: the standard one unless a file says otherwise. -/
def loadConfig (t : FileTree) (dir : Path) : Except Failure Config :=
  match t.node? (dir ++ [configName]) with
  | none => .ok .standard
  | some _ => (readText t (dir ++ [configName])).map .ofText

/-- Keep a configuration in the directory at a path, which is created if need be. -/
def saveConfig (t : FileTree) (dir : Path) (c : Config) : Except Failure FileTree :=
  match (t.makeDirectories dir).bind (·.writeFile (dir ++ [configName]) c.toText.toUTF8) with
  | some t => .ok t
  | none => .error .io

/-- The store of a directory with the configuration that lies in it. -/
def load (t : FileTree) (root : String) : Except Failure DirectoryStore :=
  (loadConfig t (FileTree.pathOf root)).map fun c => { config := c, root := root, tree := t }

/-! ### Documents -/

/-- The file name of a bank. -/
def documentName (c : Config) (id : BankId) : String := .ofList (c.stemChars id ++ Config.extension)

/-- The path of the document of a bank. -/
def documentPath (s : DirectoryStore) (id : BankId) : Path := s.base ++ [documentName s.config id]

/-- The bank that a file name belongs to. -/
def bankOfName? (c : Config) (name : String) : Option BankId := do
  let stem ← beforeEnd? Config.extension name.toList
  let token ← afterStart? [c.letter] stem
  (Numeral.decodeChars c.base token).toOption

/-- Write a text in a directory, which is created if need be: first to a temporary file, which
then replaces what lies at the target. -/
def replace (s : DirectoryStore) (dir : Path) (target : FileTree → Option Path) (text : String) :
    Except Failure Unit × DirectoryStore :=
  match s.tree.makeDirectories dir with
  | none => (.error .io, s)
  | some tree =>
    match (target tree).bind (tree.writeFile · text.toUTF8) with
    | some tree => (.ok (), { s with tree := tree })
    -- the temporary file is there by now, and stays
    | none => (.error .io, { s with tree := tree, leftovers := s.leftovers ++ [(dir, text)] })

/-! ### Resources -/

/-- Whether a resource name stays inside the directory: it is no empty and no absolute name, and
no part of it climbs. -/
def staysInside (name : String) : Bool :=
  name ≠ "" && !FileTree.isAbsolute name && !(FileTree.parts name).contains ".."

instance : Storage DirectoryStore where
  config s := s.config
  contains s id := s.tree.isFile (s.documentPath id)
  document? s id :=
    if s.tree.isFile (s.documentPath id) then (readText s.tree (s.documentPath id)).map some
    else .ok none
  resource? s name :=
    if staysInside name then
      .ok (((s.tree.locate (FileTree.joinPath s.root name)).bind s.tree.file?).map
        Utf8.decodeLossy)
    else .error (.badResourceName name)
  location s id := FileTree.joinPath s.root (documentName s.config id)
  bankIds s :=
    if s.tree.isDirectory s.base then
      -- two file names can be names of one bank
      let ids := (s.tree.fileNames s.base).filterMap (bankOfName? s.config)
      .ok (AscMap.ofList (ids.map (·, ()))).keys
    else if s.tree.isFile s.base then .error .io
    else .ok []
  putDocument s id text := s.replace s.base (fun _ => some (s.documentPath id)) text
  putOutput s name text :=
    let path := FileTree.joinPath (FileTree.joinPath s.root outputFolder) name
    let (result, s') := s.replace (s.base ++ [outputFolder]) (·.locate path) text
    (result.map fun _ => path, s')

end DirectoryStore

end Textbank
