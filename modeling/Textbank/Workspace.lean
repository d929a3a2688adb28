import Textbank.Storage.Basic
import Textbank.Document.Printer
/-!
# Workspaces

A workspace is the set of banks that are loaded from one store.  A bank is read when it is first
needed and stays loaded; a failed load is not remembered.  Changes stay in memory until a bank is
saved.  Main definitions:

* `Workspace.fetch` : load a bank unless it is loaded;
* `Workspace.openBank` : the same, but a bank without a document is created;
* `Workspace.insert`, `Workspace.delete` : change a loaded bank;
* `Workspace.save` : write a loaded bank back;
* `Action` : steps that change a workspace and can fail.
-/

namespace Textbank

/-- A bank in memory. -/
structure Loaded where
  bank : Bank
  /-- Where its document lies. -/
  source : String
  /-- Whether it was changed since it was read or saved. -/
  unsaved : Bool
deriving DecidableEq

/-- One read of the store. -/
inductive Access where
  | document (bank : BankId)
  | resource (name : String)
deriving DecidableEq, Repr

/-- The loaded banks of a store. -/
structure Workspace (σ : Type) where
  store : σ
  loaded : AscMap BankId Loaded := ∅
  /-- What was read from the store so far, the last read first. -/
  reads : List Access := []

/-- A step that changes a workspace. -/
abbrev Run (σ : Type) := StateM (Workspace σ)

/-- A step that changes a workspace and can fail. -/
abbrev Action (σ : Type) := ExceptT Failure (Run σ)

namespace Workspace

variable {σ : Type}

/-! ### What is loaded -/

/-- Whether a bank is loaded. -/
def isLoaded (ws : Workspace σ) (id : BankId) : Bool := ws.loaded.contains id

/-- A loaded bank. -/
def bank? (ws : Workspace σ) (id : BankId) : Option Bank := (ws.loaded.find? id).map (·.bank)

/-- The loaded banks, ascending. -/
def banks (ws : Workspace σ) : List Bank := ws.loaded.values.map (·.bank)

/-- Where the document of a loaded bank lies. -/
def source? (ws : Workspace σ) (id : BankId) : Option String :=
  (ws.loaded.find? id).map (·.source)

/-- Whether a loaded bank has changes that are not saved. -/
def isUnsaved (ws : Workspace σ) (id : BankId) : Bool :=
  ((ws.loaded.find? id).map (·.unsaved)).getD false

/-- The banks with changes that are not saved, ascending. -/
def unsavedIds (ws : Workspace σ) : List BankId := ws.loaded.keys.filter ws.isUnsaved

/-- The value of a cell of a loaded bank. -/
def value? (ws : Workspace σ) (cell : Cell) : Option String :=
  (ws.bank? cell.bank).bind (·.get? cell.register cell.address)

/-- How many documents were read. -/
def documentReads (ws : Workspace σ) : Nat :=
  ws.reads.countP fun
    | .document _ => true
    | .resource _ => false

/-- Hold a bank in memory. -/
def hold (ws : Workspace σ) (id : BankId) (l : Loaded) : Workspace σ :=
  { ws with loaded := ws.loaded.insert id l }

variable [Storage σ]

/-- The configuration of the store. -/
def config (ws : Workspace σ) : Config := Storage.config ws.store

/-! ### Reading -/

/-- Read the document of a bank. -/
def readDocument (id : BankId) : Action σ (Option String) := fun ws =>
  (Storage.document? ws.store id, { ws with reads := .document id :: ws.reads })

/-- Read a resource. -/
def readResource (name : String) : Action σ (Option String) := fun ws =>
  (Storage.resource? ws.store name, { ws with reads := .resource name :: ws.reads })

/-- The bank of a stored document.  A bank is known by the id that it is stored under, whatever
its header says. -/
def ofDocument (ws : Workspace σ) (id : BankId) (text : String) : Except Failure Loaded :=
  match Document.parse ws.config text with
  | .error fault => .error (.document fault)
  | .ok bank =>
    .ok { bank := { bank with id := id }, source := Storage.location ws.store id, unsaved := false }

/-- Load a bank unless it is loaded. -/
def fetch (id : BankId) : Action σ Loaded := fun ws =>
  match ws.loaded.find? id with
  | some l => (.ok l, ws)
  | none =>
    match readDocument id ws with
    | (.error f, ws) => (.error f, ws)
    | (.ok none, ws) => (.error (.noContent id), ws)
    | (.ok (some text), ws) =>
      match ws.ofDocument id text with
      | .error f => (.error f, ws)
      | .ok l => (.ok l, ws.hold id l)

/-- A bank, loaded if need be. -/
def ensureLoaded (id : BankId) : Action σ Bank := fun ws =>
  match fetch id ws with
  | (.ok l, ws) => (.ok l.bank, ws)
  | (.error f, ws) => (.error f, ws)

/-- A bank, loaded if need be; one without a document is created, with changes to be saved. -/
def openBank (id : BankId) : Action σ Bank := fun ws =>
  match fetch id ws with
  | (.ok l, ws) => (.ok l.bank, ws)
  | (.error (.noContent _), ws) =>
    let l : Loaded := ⟨Bank.fresh id, Storage.location ws.store id, true⟩
    (.ok l.bank, ws.hold id l)
  | (.error f, ws) => (.error f, ws)

/-- Load the banks of a list that can be loaded and count the newly loaded ones. -/
def loadAll : List BankId → Run σ Nat
  | [], ws => (0, ws)
  | id :: ids, ws =>
    if ws.isLoaded id then loadAll ids ws
    else
      match fetch id ws with
      | (.ok _, ws) =>
        let (n, ws) := loadAll ids ws
        (n + 1, ws)
      | (.error _, ws) => loadAll ids ws

/-- Load every bank of the store that can be loaded and count the newly loaded ones. -/
def preload : Action σ Nat := fun ws =>
  match Storage.bankIds ws.store with
  | .error f => (.error f, ws)
  | .ok ids =>
    let (n, ws) := loadAll ids ws
    (.ok n, ws)

/-! ### Changing -/

/-- Whether a character may not stand in a value: it would end the line or the document. -/
def endsValue (c : Char) : Bool := c = '\x7d' || c = '\n' || c = '\r'

/-- Write a value of a loaded bank. -/
def insert (cell : Cell) (value : String) : Action σ Unit := fun ws =>
  match value.toList.find? endsValue with
  | some c => (.error (.badValue c value), ws)
  | none =>
    match ws.loaded.find? cell.bank with
    | none => (.error (.notLoaded cell.bank), ws)
    | some l =>
      let bank := l.bank.insert cell.register cell.address value
      (.ok (), ws.hold cell.bank { l with bank := bank, unsaved := true })

/-- Drop a value of a loaded bank, and say whether there was one. -/
def delete (cell : Cell) : Run σ Bool := fun ws =>
  match ws.loaded.find? cell.bank with
  | none => (false, ws)
  | some l =>
    match l.bank.take cell.register cell.address with
    | (none, _) => (false, ws)
    | (some _, bank) => (true, ws.hold cell.bank { l with bank := bank, unsaved := true })

/-! ### Saving -/

/-- Write the document of a bank. -/
def writeDocument (id : BankId) (text : String) : Action σ Unit := fun ws =>
  let (result, store) := Storage.putDocument ws.store id text
  (result, { ws with store := store })

/-- Write an output and say where it went. -/
def writeOutput (name text : String) : Action σ String := fun ws =>
  let (result, store) := Storage.putOutput ws.store name text
  (result, { ws with store := store })

/-- Write a loaded bank back in its canonical form, and say where it lies. -/
def save (id : BankId) : Action σ String := fun ws =>
  match ws.loaded.find? id with
  | none => (.error (.notLoaded id), ws)
  | some l =>
    match writeDocument id (Document.render ws.config l.bank) ws with
    -- after a failed write the changes are still to be saved
    | (.error f, ws) => (.error f, ws)
    | (.ok (), ws) => (.ok l.source, ws.hold id { l with unsaved := false })

/-- Save the banks of a list that have changes, up to the first failure. -/
def saveEach : List BankId → Action σ (List String)
  | [], ws => (.ok [], ws)
  | id :: ids, ws =>
    if ws.isUnsaved id then
      match save id ws with
      | (.error f, ws) => (.error f, ws)
      | (.ok location, ws) =>
        match saveEach ids ws with
        | (.error f, ws) => (.error f, ws)
        | (.ok locations, ws) => (.ok (location :: locations), ws)
    else saveEach ids ws

/-- Save every bank with changes, ascending, up to the first failure. -/
def saveUnsaved : Action σ (List String) := fun ws => saveEach ws.loaded.keys ws

end Workspace

end Textbank
