import Textbank.Proofs.AscMap
import Textbank.Reference.Expand
/-!
# Expansion without a state

What a text expands to depends on a configuration, on the texts of resources and on the values of
cells.  A `Reading` is these three, and `Reading.expand` expands a text by a reading alone: nothing
is loaded, and nothing is remembered between two references.

* `Reference.Token` : what a text consists of after its inclusions, `Reference.tokens`;
* `Reading.trace` : the `Event`s of an expansion, from left to right;
* `Reading.expand` : the text that they make up.
-/

namespace Textbank

namespace Reference

/-! ### Tokens -/

/-- A reference that names a cell. -/
structure Link where
  text : List Char
  /-- What stands for the reference on a path. -/
  key : String
  cell : Cell
deriving DecidableEq

/-- A stretch of a text whose inclusions are replaced. -/
inductive Token where
  | literal (s : List Char)
  /-- A reference that names no cell. -/
  | bad (text : List Char)
  | link (l : Link)
deriving DecidableEq

/-- What a piece is taken for. -/
def ofPiece {α β : Type} (literal : List Char → β) (found : α → β) : Piece α → β
  | .literal s => literal s
  | .found a => found a

/-- What a triple is. -/
def tripleToken (t : Triple) : Token :=
  match t.cell? with
  | none => .bad t.text
  | some cell => .link ⟨t.text, cell.name, cell⟩

/-- What a pair is; one with another letter is no reference. -/
def pairToken (c : Config) (p : Pair) : Token :=
  if p.letter ≠ c.letter then .literal p.text
  else
    match p.cell? c with
    | none => .bad p.text
    | some cell => .link ⟨p.text, Pair.key c cell, cell⟩

/-- The tokens of a text without triples. -/
def pairTokens (c : Config) (s : List Char) : List Token :=
  (Pair.pattern.scan s).map (ofPiece .literal (pairToken c))

/-- The tokens of a text: its triples, and the pairs between them. -/
def tokens (c : Config) (s : List Char) : List Token :=
  (Triple.pattern.scan s).flatMap (ofPiece (pairTokens c) fun t => [tripleToken t])

/-! ### Events -/

/-- What happens while a text is expanded. -/
inductive Event where
  /-- A text is put out. -/
  | text (s : List Char)
  /-- A marker is put out in the place of a reference. -/
  | marker (t : Trouble) (reference : List Char)
  /-- The value of a cell is expanded next. -/
  | entered (cell : Cell)
deriving DecidableEq

/-- What an event puts out. -/
def Event.chars : Event → List Char
  | text s => s
  | marker t reference => t.marker reference
  | entered _ => []

/-- The text that events put out. -/
def output (es : List Event) : List Char := es.flatMap Event.chars

end Reference

open Reference

/-- What expansion asks for. -/
structure Reading where
  config : Config
  resource? : String → Option String
  value? : Cell → Option String

namespace Reading

variable (R : Reading)

/-- The text that an inclusion stands for. -/
def inclusionText (i : Inclusion) : List Char :=
  (R.resource? (.ofList (trim i.name))).elim (Trouble.missingFile.marker (trim i.name))
    String.toList

/-- A text with its inclusions replaced. -/
def included (s : List Char) : List Char :=
  (Inclusion.pattern.scan s).flatMap (ofPiece id R.inclusionText)

/-- The tokens of a text after inclusion. -/
def tokensOf (s : List Char) : List Token := tokens R.config (R.included s)

/-- How a value is expanded one level deeper; nothing where the limit of nesting is reached. -/
abbrev Deeper := Option (Visited → List Char → List Event)

/-- The events of a reference to a cell that has a value, or none. -/
def valueTrace (trace : Visited → List Char → List Event) (visited : Visited) (l : Link) :
    Option String → List Event
  | none => [.marker .missing l.text]
  | some value => .entered l.cell :: trace (visited.add l.key) value.toList

/-- The events of a reference to a cell. -/
def linkTrace (deeper : Deeper) (visited : Visited) (l : Link) : List Event :=
  if visited.contains l.key then [.marker .circular l.text]
  else
    match deeper with
    | none => [.marker .tooDeep l.text]
    | some trace => valueTrace trace visited l (R.value? l.cell)

/-- The events of a token. -/
def tokenTrace (deeper : Deeper) (visited : Visited) : Token → List Event
  | .literal s => [.text s]
  | .bad text => [.marker .badReference text]
  | .link l => R.linkTrace deeper visited l

/-- The events of a text, the values of cells being expanded by `deeper`. -/
def traceWith (deeper : Deeper) (visited : Visited) (s : List Char) : List Event :=
  (R.tokensOf s).flatMap (R.tokenTrace deeper visited)

/-- The events of a text, to a limit of nesting. -/
def trace : Nat → Visited → List Char → List Event
  | 0 => R.traceWith none
  | depth + 1 => R.traceWith (some (trace depth))

/-- What a text expands to, to a limit of nesting. -/
def expand (depth : Nat) (visited : Visited) (s : List Char) : List Char :=
  output (R.trace depth visited s)

end Reading

/-! ### Paths -/

theorem Visited.contains_add (v : Visited) (key key' : String) :
    (v.add key).contains key' = (decide (key' = key) || v.contains key') :=
  AscMap.contains_insert v.keys key key' ()

namespace Reading

variable {R : Reading} {visited : Visited} {l : Link}

theorem linkTrace_of_contains (deeper : Deeper) (hold : visited.contains l.key = true) :
    R.linkTrace deeper visited l = [.marker .circular l.text] := if_pos hold

theorem linkTrace_of_none {trace : Visited → List Char → List Event}
    (hnew : visited.contains l.key = false) (hvalue : R.value? l.cell = none) :
    R.linkTrace (some trace) visited l = [.marker .missing l.text] := by
  simp only [linkTrace, hnew, hvalue]
  rfl

theorem linkTrace_of_some {trace : Visited → List Char → List Event} {value : String}
    (hnew : visited.contains l.key = false) (hvalue : R.value? l.cell = some value) :
    R.linkTrace (some trace) visited l =
      .entered l.cell :: trace (visited.add l.key) value.toList := by
  simp only [linkTrace, hnew, hvalue]
  rfl

end Reading

end Textbank
