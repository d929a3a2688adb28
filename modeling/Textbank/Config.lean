import Textbank.Numeral
import Textbank.Text.Blank
import Textbank.Text.Cut
import Textbank.Json.Reader
import Textbank.Json.Printer
/-!
# Configuration

The configuration of a collection of banks: the letter that bank names start with, the base of
its numerals, the widths they are padded to, and how deep references may nest.  It is read from a
JSON object leniently (`Config.ofText`): a field that is missing or unfit takes its default and
touches no other field, and a text that is no JSON object gives the defaults.

The configuration also says how ids are written: `stem` for banks, `registerLabel` and
`addressLabel` for the ids inside them.  `readStem` reads a bank name as a user types it.
-/

namespace Textbank

/-- What all banks of a collection share. -/
structure Config where
  /-- The letter that bank names and pair references start with. -/
  letter : Char
  /-- The base of numerals. -/
  base : Nat
  /-- The width of bank ids. -/
  bankWidth : UInt64
  /-- The width of register ids. -/
  registerWidth : UInt64
  /-- The width of address ids. -/
  addressWidth : UInt64
  /-- How deep references may nest. -/
  maxDepth : UInt64
  letter_isAlpha : letter.isAlpha = true
  base_valid : Numeral.ValidBase base
  maxDepth_pos : 0 < maxDepth
deriving DecidableEq

namespace Config

theorem letter_ne (c : Config) {x : Char} (hx : x.isAlpha = false) : c.letter ≠ x := by
  rintro rfl
  rw [c.letter_isAlpha] at hx
  cases hx

/-- The configuration of a collection that has none of its own. -/
def standard : Config where
  letter := 'x'
  base := 10
  bankWidth := 5
  registerWidth := 2
  addressWidth := 4
  maxDepth := 256
  letter_isAlpha := by decide
  base_valid := by decide
  maxDepth_pos := by decide

instance : Inhabited Config := ⟨standard⟩

/-! ### Reading and writing -/

/-- A text that is one letter. -/
def letter? (s : String) : Option { c : Char // c.isAlpha = true } :=
  match s.toList with
  | [c] => if h : c.isAlpha = true then some ⟨c, h⟩ else none
  | _ => none

/-- A number that is a base. -/
def base? (n : UInt64) : Option { b : Nat // Numeral.ValidBase b } :=
  if h : Numeral.ValidBase n.toNat then some ⟨n.toNat, h⟩ else none

/-- A number that is a depth. -/
def depth? (n : UInt64) : Option { d : UInt64 // 0 < d } :=
  if h : 0 < n then some ⟨n, h⟩ else none

/-- The configuration of a JSON value, field by field. -/
def ofJson (j : Json) : Config :=
  let number (name : String) : Option UInt64 := (j.get? name).bind Json.natural?
  let letter := (((j.get? "prefix").bind Json.text?).bind letter?).getD
    ⟨standard.letter, standard.letter_isAlpha⟩
  let base := ((number "base").bind base?).getD ⟨standard.base, standard.base_valid⟩
  let depth := ((number "maxDepth").bind depth?).getD ⟨standard.maxDepth, standard.maxDepth_pos⟩
  { letter := letter.1
    base := base.1
    bankWidth := (number "widthBank").getD standard.bankWidth
    registerWidth := (number "widthReg").getD standard.registerWidth
    addressWidth := (number "widthAddr").getD standard.addressWidth
    maxDepth := depth.1
    letter_isAlpha := letter.2
    base_valid := base.2
    maxDepth_pos := depth.2 }

/-- The configuration of a text. -/
def ofText (text : String) : Config :=
  match Json.parse? text with
  | some j => ofJson j
  | none => standard

/-- The fields with their values, in the order they are written in. -/
def fields (c : Config) : List (String × Json) :=
  let number (n : Nat) : Json := .number (Numeral.decimal n)
  [("prefix", .text (.ofList [c.letter])),
   ("base", number c.base),
   ("widthBank", number c.bankWidth.toNat),
   ("widthReg", number c.registerWidth.toNat),
   ("widthAddr", number c.addressWidth.toNat),
   ("maxDepth", number c.maxDepth.toNat)]

/-- The text that a configuration is kept as. -/
def toText (c : Config) : String := (Json.object c.fields).pretty

/-! ### Labels -/

/-- The name of a bank: the letter and the padded id. -/
def stemChars (c : Config) (bank : Int64) : List Char :=
  c.letter :: Numeral.encodeChars c.base c.bankWidth.toNat bank

/-- The name of a bank, as a string. -/
def stem (c : Config) (bank : Int64) : String := .ofList (c.stemChars bank)

/-- The padded id of a register. -/
def registerLabel (c : Config) (register : Int64) : String :=
  Numeral.encode c.base c.registerWidth.toNat register

/-- The padded id of an address. -/
def addressLabel (c : Config) (address : Int64) : String :=
  Numeral.encode c.base c.addressWidth.toNat address

/-- The ending of document file names. -/
def extension : List Char := ['.', 't', 'x', 't']

/-- A token without the letter it may start with. -/
def dropLetter (c : Config) (token : List Char) : List Char :=
  (afterStart? [c.letter] token).getD token

/-- The bank that a user names, by its stem, its file name or its bare numeral. -/
def readStem (c : Config) (input : String) : Except Numeral.Fault Int64 :=
  let name := trim input.toList
  Numeral.decodeChars c.base (c.dropLetter ((beforeEnd? extension name).getD name))

end Config

end Textbank
