import Textbank.Reference.Form
import Textbank.Workspace
/-!
# Expanding references

Expansion replaces the references of a text by what they stand for, in three passes: inclusions
first, then triples, then pairs in the text between the triples.  Included text goes through the
later passes; the value of a cell is expanded by itself, one level deeper, and is final.  Expansion
cannot fail: whatever stands in the way becomes a marker in the text (`Trouble`).

Every level knows the keys of the references on the path down to it (`Visited`), so a reference
that leads back into its own path ends there, while two references to one cell from different
places are both expanded.
-/

namespace Textbank

/-! ### The path of references -/

/-- The keys of the references on the path from the outermost text. -/
structure Visited where
  keys : AscMap String Unit := ∅
deriving DecidableEq

namespace Visited

/-- The path that has not begun. -/
def none : Visited := {}

/-- Whether a key is on the path. -/
def contains (v : Visited) (key : String) : Bool := v.keys.contains key

/-- The path with one more key on it. -/
def add (v : Visited) (key : String) : Visited := ⟨v.keys.insert key ()⟩

/-- The number of keys. -/
def size (v : Visited) : Nat := v.keys.size

end Visited

/-! ### Markers -/

/-- Why a reference is not replaced by what it stands for. -/
inductive Trouble where
  /-- There is no such resource. -/
  | missingFile
  /-- There is no such cell. -/
  | missing
  /-- The reference leads back into its own path. -/
  | circular
  /-- The ids are out of range, or no numerals of the base. -/
  | badReference
  /-- References nest too deep. -/
  | tooDeep
deriving DecidableEq, Repr

namespace Trouble

/-- What a marker says. -/
def label : Trouble → String
  | missingFile => "Missing file:"
  | missing => "Missing"
  | circular => "Circular Ref:"
  | badReference => "BadRef"
  | tooDeep => "Depth limit:"

/-- The marker that takes the place of a reference. -/
def marker (t : Trouble) (reference : List Char) : List Char :=
  '[' :: t.label.toList ++ ' ' :: reference ++ [']']

end Trouble

/-! ### Passes -/

namespace Reference

variable {σ : Type}

/-- Replace the pieces of a text one after the other. -/
def replacePieces {α : Type} (literal : List Char → Run σ (List Char))
    (found : α → Run σ (List Char)) : List (Piece α) → Run σ (List Char)
  | [] => pure []
  | .literal s :: ps => do
    let s ← literal s
    let rest ← replacePieces literal found ps
    return s ++ rest
  | .found a :: ps => do
    let s ← found a
    let rest ← replacePieces literal found ps
    return s ++ rest

variable [Storage σ]

/-- The text that an inclusion stands for.  Blanks around the name do not count. -/
def expandInclusion (i : Inclusion) : Run σ (List Char) := do
  let name := trim i.name
  match ← (Workspace.readResource (.ofList name)).run with
  | .ok (some text) => return text.toList
  | _ => return Trouble.missingFile.marker name

/-- The value of a cell, its bank being loaded if need be. -/
def cellValue? (cell : Cell) : Run σ (Option String) := do
  match ← (Workspace.ensureLoaded cell.bank).run with
  | .ok bank => return bank.get? cell.register cell.address
  | .error _ => return none

/-- How a value is expanded one level deeper, with the path down to it; nothing where the limit of
nesting is reached. -/
abbrev Deeper (σ : Type) := Option (Visited → List Char → Run σ (List Char))

/-- The text that a reference to a cell stands for. -/
def follow (deeper : Deeper σ) (visited : Visited) (reference : List Char) (key : String)
    (cell : Cell) : Run σ (List Char) := do
  -- the path comes before the limit, and the limit before the cell is looked for
  if visited.contains key then return Trouble.circular.marker reference
  else
    match deeper with
    | none => return Trouble.tooDeep.marker reference
    | some expand =>
      match ← cellValue? cell with
      | none => return Trouble.missing.marker reference
      | some value => expand (visited.add key) value.toList

/-- The text that a triple stands for. -/
def expandTriple (deeper : Deeper σ) (visited : Visited) (t : Triple) : Run σ (List Char) :=
  match t.cell? with
  | none => return Trouble.badReference.marker t.text
  | some cell => follow deeper visited t.text cell.name cell

/-- The text that a pair stands for; one with another letter stands for itself. -/
def expandPair (deeper : Deeper σ) (visited : Visited) (p : Pair) : Run σ (List Char) := do
  let config := (← get).config
  if p.letter ≠ config.letter then return p.text
  else
    match p.cell? config with
    | none => return Trouble.badReference.marker p.text
    | some cell => follow deeper visited p.text (Pair.key config cell) cell

/-- Replace the inclusions of a text. -/
def expandInclusions (s : List Char) : Run σ (List Char) :=
  replacePieces pure expandInclusion (Inclusion.pattern.scan s)

/-- Replace the pairs of a text. -/
def expandPairs (deeper : Deeper σ) (visited : Visited) (s : List Char) : Run σ (List Char) :=
  replacePieces pure (expandPair deeper visited) (Pair.pattern.scan s)

/-- Replace the triples of a text, and the pairs between them. -/
def expandCells (deeper : Deeper σ) (visited : Visited) (s : List Char) : Run σ (List Char) :=
  replacePieces (expandPairs deeper visited) (expandTriple deeper visited)
    (Triple.pattern.scan s)

/-- Replace all references of a text, the values of cells being expanded by `deeper`. -/
def expandWith (deeper : Deeper σ) (visited : Visited) (s : List Char) : Run σ (List Char) := do
  let s ← expandInclusions s
  expandCells deeper visited s

/-- Replace all references of a text, to a limit of nesting. -/
def expand : Nat → Visited → List Char → Run σ (List Char)
  | 0 => expandWith none
  | depth + 1 => expandWith (some (expand depth))

end Reference

/-! ### Resolving -/

/-- A value of a bank and what it expands to. -/
structure ResolvedEntry where
  register : RegisterId
  address : AddressId
  raw : String
  resolved : String
deriving DecidableEq, Repr

namespace Workspace

variable {σ : Type} [Storage σ]

/-- The configured limit of nesting. -/
def maxDepth (ws : Workspace σ) : Nat := ws.config.maxDepth.toNat

/-- Expand a text, some references being on the path already. -/
def resolve (text : String) (visited : Visited) (depth : Nat) : Run σ String := do
  return .ofList (← Reference.expand depth visited text.toList)

/-- Expand a value that stands in a cell.  The cell is on the path from the start, so a value that
leads back to it is cut at the first return. -/
def resolveIn (cell : Cell) (value : String) (depth : Nat) : Run σ String :=
  resolve value (Visited.none.add cell.name) depth

/-- Expand the value of a cell. -/
def resolveCell (cell : Cell) (depth : Nat) : Action σ String := do
  let bank ← ensureLoaded cell.bank
  match bank.get? cell.register cell.address with
  | none => throw (.noValue cell)
  | some value => (resolveIn cell value depth : Run σ String)

/-- Expand entries of a bank one after the other. -/
def resolveEntries (id : BankId) (depth : Nat) : List Entry → Run σ (List ResolvedEntry)
  | [] => pure []
  | e :: es => do
    let resolved ← resolveIn ⟨id, e.register, e.address⟩ e.value depth
    let rest ← resolveEntries id depth es
    return ⟨e.register, e.address, e.value, resolved⟩ :: rest

/-- Expand every value of a bank, ascending. -/
def resolveBank (id : BankId) (depth : Nat) : Action σ (List ResolvedEntry) := do
  let bank ← ensureLoaded id
  (resolveEntries id depth bank.entries : Run σ (List ResolvedEntry))

end Workspace

end Textbank
