import Textbank.Bank
import Textbank.Config
import Textbank.Reference.Scan
/-!
# Forms of references

A value can refer to other texts in three forms:

* an *inclusion* `@file(name)` stands for the text of a resource;
* a *triple* `bank.register.address` of decimal numerals stands for the value of a cell;
* a *pair* of a letter and two numerals, as in `x00002.0001`, stands for a value of the default
  register, when the letter is the configured one and the numerals are of the configured base.
-/

namespace Textbank

/-! ### Characters -/

/-- Whether a character is an ASCII letter or digit. -/
def isWordChar (c : Char) : Bool := c.isAlphanum

/-- A non-empty run of characters that a text starts with, taken to its end, and what follows. -/
def takeRun? (ok : Char → Bool) (s : List Char) : Option (List Char × List Char) :=
  if s.takeWhile ok = [] then none else some (s.takeWhile ok, s.dropWhile ok)

/-- What follows a character that a text starts with. -/
def skipChar? (c : Char) : List Char → Option (List Char)
  | [] => none
  | x :: xs => if x = c then some xs else none

theorem append_of_takeRun? {ok : Char → Bool} {s run rest : List Char}
    (h : takeRun? ok s = some (run, rest)) : run ++ rest = s := by
  unfold takeRun? at h
  split at h
  · cases h
  · cases h
    exact List.takeWhile_append_dropWhile

theorem cons_of_skipChar? {c : Char} {s rest : List Char} (h : skipChar? c s = some rest) :
    c :: rest = s := by
  cases s with
  | nil => cases h
  | cons x xs =>
    simp only [skipChar?] at h
    split at h
    next hx => cases h; rw [hx]
    next => cases h

theorem takeRun?_eq_none_iff {p : Char → Bool} {s : List Char} :
    takeRun? p s = none ↔ ∀ c ∈ s.head?, p c = false := by
  cases s with
  | nil => simp [takeRun?]
  | cons c cs => cases h : p c <;> simp [takeRun?, h]

theorem drop_length_takeWhile (p : Char → Bool) (s : List Char) :
    s.drop (s.takeWhile p).length = s.dropWhile p := by
  have h := congrArg (List.drop (s.takeWhile p).length)
    (List.takeWhile_append_dropWhile (p := p) (l := s))
  rw [List.drop_left] at h
  exact h.symm

/-- Behind a run there is no run of the same class. -/
theorem takeRun?_dropWhile (p : Char → Bool) (s : List Char) : takeRun? p (s.dropWhile p) = none :=
  takeRun?_eq_none_iff.2 fun _ => not_of_mem_head?_dropWhile

/-- Inside a run, the same follows it from everywhere. -/
theorem takeRun?_drop {p : Char → Bool} {s : List Char} {k : Nat}
    (h : k < (s.takeWhile p).length) :
    takeRun? p (s.drop k) = some ((s.takeWhile p).drop k, s.dropWhile p) := by
  induction s generalizing k with
  | nil => simp at h
  | cons c cs ih =>
    cases hc : p c with
    | false => simp [hc] at h
    | true =>
      cases k with
      | zero => simp [takeRun?, hc]
      | succ k =>
        simp only [List.takeWhile_cons_of_pos hc, List.length_cons] at h
        simpa [hc] using ih (by omega)

/-! ### Inclusions -/

/-- The inclusion of a resource. -/
structure Inclusion where
  /-- What stands between the parentheses. -/
  name : List Char
deriving DecidableEq

namespace Inclusion

/-- How an inclusion starts. -/
def opening : List Char := ['@', 'f', 'i', 'l', 'e', '(']

/-- The text of an inclusion. -/
def text (i : Inclusion) : List Char := opening ++ i.name ++ [')']

/-- An inclusion ends at the first closing parenthesis. -/
def match? (s : List Char) : Option (Inclusion × List Char) := do
  let s ← afterStart? opening s
  let (name, rest) ← cutFirst? ')' s
  return (⟨name⟩, rest)

/-- An inclusion that is not closed leaves no closing parenthesis for another one. -/
def skip (s : List Char) : Nat := if (afterStart? opening s).isSome then s.length else 0

theorem match?_drop {s : List Char} (h : match? s = none) (k : Nat) (hk : k ≤ skip s) :
    match? (s.drop k) = none := by
  unfold skip at hk
  cases hs : afterStart? opening s with
  | none =>
    obtain rfl : k = 0 := by simpa [hs] using hk
    exact h
  | some r =>
    have hclose : ')' ∉ s := by
      rw [append_of_afterStart? hs]
      have hr : ')' ∉ r := by
        rw [← cutFirst?_eq_none_iff]
        cases hc : cutFirst? ')' r with
        | none => rfl
        | some m => simp [match?, hs, hc] at h
      simp [opening, hr]
    cases hm : match? (s.drop k) with
    | none => rfl
    | some m =>
      simp only [match?, Option.bind_eq_bind, Option.bind_eq_some_iff, Prod.exists] at hm
      obtain ⟨r', hr', name, rest, hc, -⟩ := hm
      have : ')' ∈ s.drop k := by
        rw [append_of_afterStart? hr', ← append_of_cutFirst? hc]
        simp
      exact absurd (List.mem_of_mem_drop this) hclose

/-- The pattern of inclusions. -/
def pattern : Pattern Inclusion where
  match? := match?
  text := text
  text_append {s a rest} h := by
    simp only [match?, Option.bind_eq_bind, Option.bind_eq_some_iff] at h
    obtain ⟨s', hs, ⟨name, rest'⟩, hc, hr⟩ := h
    cases hr
    rw [append_of_afterStart? hs, ← append_of_cutFirst? hc]
    simp [text]
  text_ne_nil _ := by simp [text, opening]
  skip := skip
  match?_drop := match?_drop

end Inclusion

/-! ### Triples -/

/-- Three decimal numerals with points between them. -/
structure Triple where
  bank : List Char
  register : List Char
  address : List Char
deriving DecidableEq

namespace Triple

/-- The text of a triple. -/
def text (t : Triple) : List Char := t.bank ++ '.' :: t.register ++ '.' :: t.address

/-- Each run of digits is taken to its end. -/
def match? (s : List Char) : Option (Triple × List Char) := do
  let (bank, s) ← takeRun? Char.isDigit s
  let s ← skipChar? '.' s
  let (register, s) ← takeRun? Char.isDigit s
  let s ← skipChar? '.' s
  let (address, rest) ← takeRun? Char.isDigit s
  return (⟨bank, register, address⟩, rest)

/-- What follows a run of digits decides for all of its digits. -/
def skip (s : List Char) : Nat := (s.takeWhile Char.isDigit).length - 1

theorem match?_drop {s : List Char} (h : match? s = none) (k : Nat) (hk : k ≤ skip s) :
    match? (s.drop k) = none := by
  unfold skip at hk
  cases k with
  | zero => exact h
  | succ k =>
    have hrun := takeRun?_drop (p := Char.isDigit) (s := s) (k := 0) (by omega)
    have hrun' := takeRun?_drop (p := Char.isDigit) (s := s) (k := k + 1) (by omega)
    rw [List.drop_zero] at hrun
    simp only [match?, hrun, hrun', Option.bind_eq_bind, Option.bind_some, Option.bind_eq_none_iff,
      Prod.forall] at h ⊢
    intro s₁ h₁ r s₂ h₂ s₃ h₃ q s₄ h₄
    exact absurd (h s₁ h₁ r s₂ h₂ s₃ h₃ q s₄ h₄) (by simp)

/-- The pattern of triples. -/
def pattern : Pattern Triple where
  match? := match?
  text := text
  text_append {s a rest} h := by
    simp only [match?, Option.bind_eq_bind, Option.bind_eq_some_iff, Prod.exists] at h
    obtain ⟨b, s₁, h₁, s₂, h₂, r, s₃, h₃, s₄, h₄, q, s₅, h₅, hr⟩ := h
    cases hr
    rw [← append_of_takeRun? h₁, ← cons_of_skipChar? h₂, ← append_of_takeRun? h₃,
      ← cons_of_skipChar? h₄, ← append_of_takeRun? h₅]
    simp [text]
  text_ne_nil _ := by simp [text]
  skip := skip
  match?_drop := match?_drop

/-- The cell that a triple names, unless an id is out of range. -/
def cell? (t : Triple) : Option Cell := do
  let bank ← (Numeral.decodeChars 10 t.bank).toOption
  let register ← (Numeral.decodeChars 10 t.register).toOption
  let address ← (Numeral.decodeChars 10 t.address).toOption
  return ⟨bank, register, address⟩

end Triple

/-! ### Pairs -/

/-- A letter and two numerals with a point between them. -/
structure Pair where
  letter : Char
  bank : List Char
  address : List Char
deriving DecidableEq

namespace Pair

/-- The text of a pair. -/
def text (p : Pair) : List Char := p.letter :: p.bank ++ '.' :: p.address

/-- Each run of letters and digits is taken to its end. -/
def match? : List Char → Option (Pair × List Char)
  | [] => none
  | c :: s =>
    if c.isAlpha then do
      let (bank, s) ← takeRun? isWordChar s
      let s ← skipChar? '.' s
      let (address, rest) ← takeRun? isWordChar s
      return (⟨c, bank, address⟩, rest)
    else none

/-- What follows a run of letters and digits decides for all of its letters. -/
def skip : List Char → Nat
  | [] => 0
  | c :: s => if c.isAlpha then (s.takeWhile isWordChar).length else 0

theorem match?_drop {s : List Char} (h : match? s = none) (k : Nat) (hk : k ≤ skip s) :
    match? (s.drop k) = none := by
  cases k with
  | zero => exact h
  | succ k =>
    cases s with
    | nil => rfl
    | cons c s =>
      cases hc : c.isAlpha with
      | false => simp [skip, hc] at hk
      | true =>
        simp only [skip, hc, if_true] at hk
        have hrun := takeRun?_drop (p := isWordChar) (s := s) (k := 0) (by omega)
        rw [List.drop_zero] at hrun
        simp only [match?, hc, if_true, hrun] at h
        rw [List.drop_succ_cons]
        cases hd : s.drop k with
        | nil => rfl
        | cons d t =>
          have ht : t = s.drop (k + 1) := by rw [← List.drop_drop, hd]; rfl
          simp only [match?]
          split
          · rcases Nat.lt_or_ge (k + 1) (s.takeWhile isWordChar).length with hlt | hge
            · rw [ht, takeRun?_drop hlt]
              simp only [Option.bind_eq_bind, Option.bind_some, Option.bind_eq_none_iff,
                Prod.forall] at h ⊢
              intro s₁ h₁ q s₂ h₂
              exact absurd (h s₁ h₁ q s₂ h₂) (by simp)
            · -- the last character of the run has no run after it
              have hend : k + 1 = (s.takeWhile isWordChar).length := by omega
              rw [ht, hend, drop_length_takeWhile, takeRun?_dropWhile]
              rfl
          · rfl

/-- The pattern of pairs. -/
def pattern : Pattern Pair where
  match? := match?
  text := text
  text_append {s a rest} h := by
    cases s with
    | nil => cases h
    | cons c s =>
      simp only [match?] at h
      split at h
      · simp only [Option.bind_eq_bind, Option.bind_eq_some_iff, Prod.exists] at h
        obtain ⟨b, s₁, h₁, s₂, h₂, q, s₃, h₃, hr⟩ := h
        cases hr
        rw [← append_of_takeRun? h₁, ← cons_of_skipChar? h₂, ← append_of_takeRun? h₃]
        simp [text]
      · cases h
  text_ne_nil _ := by simp [text]
  skip := skip
  match?_drop := match?_drop

/-- The cell that a pair names, unless a numeral is none of the configured base. -/
def cell? (c : Config) (p : Pair) : Option Cell := do
  let bank ← (Numeral.decodeChars c.base p.bank).toOption
  let address ← (Numeral.decodeChars c.base p.address).toOption
  return ⟨bank, Bank.defaultRegister, address⟩

/-- The key of the pair that names a cell of the default register: the configured letter and the
ids without padding. -/
def key (c : Config) (cell : Cell) : String :=
  .ofList (c.letter :: Numeral.encodeChars c.base 0 cell.bank ++ '.' ::
    Numeral.encodeChars c.base 0 cell.address)

end Pair

end Textbank
