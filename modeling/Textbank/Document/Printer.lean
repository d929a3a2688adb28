import Textbank.Bank
import Textbank.Config
/-!
# Writing documents

`Document.render` writes a bank in its canonical form: padded ids, one tab before and one after
each address, ascending order, and no register line when there is only the default register.
-/

namespace Textbank.Document

/-- The line of one value. -/
def cellLine (c : Config) (address : AddressId) (value : String) : List Char :=
  '\t' :: (c.addressLabel address).toList ++ '\t' :: value.toList ++ ['\n']

/-- The lines of the values of a register. -/
def cellLines (c : Config) (cells : Register) : List Char :=
  cells.entries.flatMap fun (address, value) => cellLine c address value

/-- The lines of a register under its own name. -/
def registerLines (c : Config) (register : RegisterId) (cells : Register) : List Char :=
  (c.registerLabel register).toList ++ '\n' :: cellLines c cells

/-- The line that opens a document. -/
def headerLine (c : Config) (id : BankId) (title : String) : List Char :=
  c.stemChars id ++ ['\t', '('] ++ title.toList ++ [')', '\x7b', '\n']

/-- The lines between the braces. -/
def bodyLines (c : Config) (b : Bank) : List Char :=
  if b.onlyDefaultRegister then b.registers.values.flatMap (cellLines c)
  else b.registers.entries.flatMap fun (register, cells) => registerLines c register cells

/-- The document of a bank, as characters. -/
def renderChars (c : Config) (b : Bank) : List Char :=
  headerLine c b.id b.title ++ bodyLines c b ++ ['\x7d', '\n']

/-- The document of a bank. -/
def render (c : Config) (b : Bank) : String := .ofList (renderChars c b)

end Textbank.Document
