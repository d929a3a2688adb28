import Textbank.Command
/-!
# Requests

A request names banks, registers and addresses as a user types them.  `Request.run` reads these
names by the configuration and carries the request out.
-/

namespace Textbank

/-- What a user can ask for. -/
inductive Request where
  | openBank (bank : String)
  | preload
  | list
  | showBank (bank : String) (filter : Option String)
  | set (bank : String) (register : Option String) (address value : String)
  | delete (bank : String) (register : Option String) (address : String)
  | save (bank : String)
  | saveUnsaved
  | resolve (bank : String) (target : Command.Target)
  /-- Resolve a text, as if it stood in a bank if one is named. -/
  | value (text : String) (origin : Option String)
  | exportBank (bank : String) (target : Command.Target)
  | config
deriving DecidableEq, Repr

namespace Request

/-- The bank that a user names. -/
def readBank (c : Config) (bank : String) : Except Failure BankId :=
  (c.readStem bank).mapError .numeral

/-- The register or address that a user names. -/
def readId (c : Config) (token : String) : Except Failure Int64 :=
  (Numeral.decodeChars c.base (trim token.toList)).mapError .numeral

/-- The cell that a user names; without a register it is one of the default register. -/
def readCell (c : Config) (bank : String) (register : Option String) (address : String) :
    Except Failure Cell := do
  let bank ← readBank c bank
  let register ← register.elim (.ok Bank.defaultRegister) (readId c)
  let address ← readId c address
  return ⟨bank, register, address⟩

variable {σ : Type} [Storage σ]

/-- Go on with what a user named, if it can be read. -/
def withNamed {α : Type} (read : Config → Except Failure α) (act : α → Action σ Report) :
    Action σ Report := do
  act (← (read (← get).config : Except Failure α))

/-- Carry a request out. -/
def run : Request → Action σ Report
  | openBank bank => withNamed (readBank · bank) Command.openBank
  | preload => Command.preload
  | list => Command.list
  | showBank bank filter => withNamed (readBank · bank) (Command.showBank · filter)
  | set bank register address text =>
    withNamed (readCell · bank register address) (Command.insert · text)
  | delete bank register address => withNamed (readCell · bank register address) Command.delete
  | save bank => withNamed (readBank · bank) Command.save
  | saveUnsaved => Command.saveUnsaved
  | resolve bank target => withNamed (readBank · bank) (Command.resolve · target)
  | value text none => Command.value text
  | value text (some bank) => withNamed (readBank · bank) fun _ => Command.value text
  | exportBank bank target => withNamed (readBank · bank) (Command.exportBank · target)
  | config => Command.config

end Request

end Textbank
