import Textbank.Reference.Expand
/-!
# Reports

What a request answers with: summaries of banks, rows, resolved entries, a text, the places that
were written to, a configuration, and messages.  Also the two documents that show a bank with its
references resolved, as text (`resolvedText`) and as JSON (`exportJson`).
-/

namespace Textbank

/-- How a message is meant. -/
inductive Level where
  | info
  | success
  | warning
deriving DecidableEq, Repr

/-- A message to the user. -/
structure Message where
  level : Level
  content : String
deriving DecidableEq, Repr

/-- A bank in a listing. -/
structure Summary where
  id : BankId
  stem : String
  title : String
  entryCount : Nat
  unsaved : Bool
deriving DecidableEq, Repr

/-- The answer to a request. -/
structure Report where
  banks : List Summary := []
  rows : List Entry := []
  resolved : List ResolvedEntry := []
  output : Option String := none
  paths : List String := []
  config : Option Config := none
  messages : List Message := []
deriving DecidableEq

/-- The summary of a bank. -/
def Summary.of (c : Config) (bank : Bank) (unsaved : Bool) : Summary :=
  ⟨bank.id, c.stem bank.id, bank.title, bank.entryCount, unsaved⟩

/-- The printed name of a place inside a bank. -/
def Config.entryLabel (c : Config) (register : RegisterId) (address : AddressId) : String :=
  c.registerLabel register ++ "." ++ c.addressLabel address

/-! ### Resolved documents -/

/-- The line of a resolved entry. -/
def resolvedLine (c : Config) (e : ResolvedEntry) : String :=
  c.entryLabel e.register e.address ++ "\t" ++ e.resolved ++ "\n"

/-- A bank with its references resolved: a line for the bank and one for each entry. -/
def resolvedText (c : Config) (bank : Bank) (entries : List ResolvedEntry) : String :=
  c.stem bank.id ++ "\t(" ++ bank.title ++ ")\n" ++ .join (entries.map (resolvedLine c))

/-- An id as a JSON number. -/
def jsonId (id : Int64) : Json := .number (Numeral.encode 10 0 id)

/-- An entry with its raw and its resolved value. -/
def exportEntry (c : Config) (e : ResolvedEntry) : Json :=
  .object [("address", .text (c.addressLabel e.address)), ("id", jsonId e.address),
    ("raw", .text e.raw), ("resolved", .text e.resolved)]

/-- A register with those of the entries that are in it. -/
def exportRegister (c : Config) (entries : List ResolvedEntry) (register : RegisterId) : Json :=
  .object [("register", .text (c.registerLabel register)), ("id", jsonId register),
    ("entries", .list ((entries.filter (·.register = register)).map (exportEntry c)))]

/-- A bank with raw and resolved values side by side. -/
def exportJson (c : Config) (bank : Bank) (entries : List ResolvedEntry) : Json :=
  .object [("bank", .text (c.stem bank.id)), ("id", jsonId bank.id), ("title", .text bank.title),
    ("registers", .list (bank.registers.keys.map (exportRegister c entries)))]

end Textbank
