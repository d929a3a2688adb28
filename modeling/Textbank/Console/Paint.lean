import Textbank.Reference.Scan
import Textbank.Text.Cut
/-!
# Paint

Coloured text for terminals: a text between the escape sequence of its shade and the one that
resets the terminal.
-/

namespace Textbank.Console

/-- How a text is set off. -/
inductive Shade where
  | bold
  | dim
  | red
  | green
  | yellow
deriving DecidableEq, Repr

/-- An escape sequence. -/
def escapeSequence (code : List Char) : List Char := ['\x1b', '['] ++ code ++ ['m']

/-- The escape sequence that resets the terminal. -/
def resetSequence : List Char := escapeSequence ['0']

/-- The escape sequence that starts a shade. -/
def Shade.sequence : Shade → List Char
  | bold => escapeSequence ['1']
  | dim => escapeSequence ['2']
  | red => escapeSequence ['3', '1']
  | green => escapeSequence ['3', '2']
  | yellow => escapeSequence ['3', '3']

/-- The pattern of one fixed text. -/
def fixedPattern (word : List Char) (h : word ≠ []) : Pattern Unit where
  match? s := (afterStart? word s).map ((), ·)
  text _ := word
  text_append {s a rest} hm := by
    obtain ⟨r, hr, he⟩ := Option.map_eq_some_iff.mp hm
    cases he
    exact (append_of_afterStart? hr).symm
  text_ne_nil _ := h
  skip _ := 0
  match?_drop hs k hk := by
    obtain rfl : k = 0 := Nat.le_zero.mp hk
    exact hs

/-- A text in which the shade goes on after every reset. -/
def Shade.carryOn (shade : Shade) (s : List Char) : List Char :=
  ((fixedPattern resetSequence (by decide)).scan s).flatMap fun
    | .literal t => t
    | .found () => resetSequence ++ shade.sequence

/-- Whether texts are set off, and how. -/
def paint (colored : Bool) (shade : Shade) (s : List Char) : List Char :=
  if colored then shade.sequence ++ shade.carryOn s ++ resetSequence else s

end Textbank.Console
