import Textbank.AscMap
import Textbank.Numeral
/-!
# Banks

A bank is a numbered, titled collection of *registers*, each of which maps *addresses* to values.
A value is one line of text that nothing here interprets.  Main definitions and statements:

* `Bank.get?`, `Bank.insert`, `Bank.remove` : read, write and drop the value of a cell;
* `Bank.entries` : all cells with their values, in ascending order;
* `Bank.get?_insert`, `Bank.get?_remove` : what the two updates do to every cell.
-/

namespace Textbank

/-- The number of a bank. -/
abbrev BankId := Int64

/-- The number of a register. -/
abbrev RegisterId := Int64

/-- The number of an address inside a register. -/
abbrev AddressId := Int64

/-- The place of a value: a bank, a register of it and an address in that. -/
structure Cell where
  bank : BankId
  register : RegisterId
  address : AddressId
deriving DecidableEq, Repr

/-- The decimal name of a cell: the three ids with points between them. -/
def Cell.name (c : Cell) : String :=
  .ofList (Numeral.encodeChars 10 0 c.bank ++ '.' :: Numeral.encodeChars 10 0 c.register
    ++ '.' :: Numeral.encodeChars 10 0 c.address)

/-- A register: values by address. -/
abbrev Register := AscMap AddressId String

/-- One value with its place inside a bank. -/
structure Entry where
  register : RegisterId
  address : AddressId
  value : String
deriving DecidableEq, Repr

/-- A numbered collection of registers. -/
structure Bank where
  id : BankId
  title : String
  registers : AscMap RegisterId Register
deriving DecidableEq

namespace Bank

/-- The register of a bank that names none, and the one that pair references reach. -/
def defaultRegister : RegisterId := 1

/-- The bank without registers. -/
def new (id : BankId) (title : String) : Bank := ⟨id, title, ∅⟩

/-- Create a register unless it is there. -/
def addRegister (b : Bank) (register : RegisterId) : Bank :=
  if b.registers.contains register then b
  else { b with registers := b.registers.insert register ∅ }

/-- The bank that is opened where nothing is stored: titled `new`, with one empty register. -/
def fresh (id : BankId) : Bank := (new id "new").addRegister defaultRegister

/-- The value of a cell. -/
def get? (b : Bank) (register : RegisterId) (address : AddressId) : Option String :=
  (b.registers.find? register).bind (·.find? address)

/-- Write the value of a cell, creating its register if need be. -/
def insert (b : Bank) (register : RegisterId) (address : AddressId) (value : String) : Bank :=
  let cells := (b.registers.find? register).getD ∅
  { b with registers := b.registers.insert register (cells.insert address value) }

/-- Drop the value of a cell.  Its register stays, even when nothing is left in it. -/
def remove (b : Bank) (register : RegisterId) (address : AddressId) : Bank :=
  match b.registers.find? register with
  | none => b
  | some cells => { b with registers := b.registers.insert register (cells.erase address) }

/-- Write the value of a cell and give the value that it replaces. -/
def exchange (b : Bank) (register : RegisterId) (address : AddressId) (value : String) :
    Option String × Bank :=
  (b.get? register address, b.insert register address value)

/-- Drop the value of a cell and give it away. -/
def take (b : Bank) (register : RegisterId) (address : AddressId) : Option String × Bank :=
  (b.get? register address, b.remove register address)

/-- All values with their places, ascending by register and then by address. -/
def entries (b : Bank) : List Entry :=
  b.registers.entries.flatMap fun (register, cells) =>
    cells.entries.map fun (address, value) => ⟨register, address, value⟩

/-- The number of values. -/
def entryCount (b : Bank) : Nat :=
  b.registers.values.foldr (fun cells n => cells.size + n) 0

/-- Whether no register but the default one exists, so that a document need not name it. -/
def onlyDefaultRegister (b : Bank) : Bool := b.registers.keys.all (· = defaultRegister)

/-! ### Laws -/

@[simp] theorem get?_new (id : BankId) (title : String) (r : RegisterId) (a : AddressId) :
    (new id title).get? r a = none := rfl

/-- A write is seen at its own cell only. -/
theorem get?_insert (b : Bank) (r q : RegisterId) (a p : AddressId) (v : String) :
    (b.insert r a v).get? q p = if q = r ∧ p = a then some v else b.get? q p := by
  unfold get? insert
  by_cases hq : q = r
  · subst hq
    rw [AscMap.find?_insert_self, Option.bind_some]
    by_cases hp : p = a
    · subst hp
      simp
    · rw [AscMap.find?_insert_of_ne _ _ hp, if_neg fun h => hp h.2]
      cases b.registers.find? q <;> simp
  · rw [AscMap.find?_insert_of_ne _ _ hq, if_neg fun h => hq h.1]

/-- A removed cell holds nothing, and no other cell is touched. -/
theorem get?_remove (b : Bank) (r q : RegisterId) (a p : AddressId) :
    (b.remove r a).get? q p = if q = r ∧ p = a then none else b.get? q p := by
  unfold get? remove
  by_cases hq : q = r
  · subst hq
    cases h : b.registers.find? q with
    | none => simp [h]
    | some cells =>
      rw [AscMap.find?_insert_self, Option.bind_some]
      by_cases hp : p = a
      · subst hp
        simp
      · rw [AscMap.find?_erase_of_ne _ hp, if_neg fun h => hp h.2, Option.bind_some]
  · rw [if_neg fun h => hq h.1]
    cases h : b.registers.find? r with
    | none => rfl
    | some cells => rw [AscMap.find?_insert_of_ne _ _ hq]

end Bank

end Textbank
