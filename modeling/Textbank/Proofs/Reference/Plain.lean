import Textbank.Proofs.Reference.Confined
import Textbank.Proofs.Reference.Marker
/-!
# Texts without references

A pass of expansion takes matches from left to right, each as long as it can be, so where it finds
none is not seen from the matches it takes.  It is seen from the text: a pattern reads a match at
some place exactly if the text holds the form of a reference there.  A text that holds no inclusion,
no triple and no pair with the configured letter is as it is, although pairs with other letters are
matches of the last pass, and nothing is read or loaded for it.

* `IsRun` : runs of characters, of which triples and pairs consist (`Triple.HasRuns`,
  `Pair.HasRuns`);
* `Inclusion.match?_eq_none_iff`, `Triple.match?_eq_none_iff`, `Pair.letter_ne_iff` : a pattern
  reads a match in the texts that hold its form, and in no others;
* `IsPlain` : texts that hold no reference;
* `Workspace.resolve_plain` : plain texts are resolved to themselves, and nothing else happens.
-/

namespace Textbank

open Reference

/-! ### Runs -/

/-- Characters of one class, one at least. -/
def IsRun (ok : Char → Bool) (s : List Char) : Prop := s ≠ [] ∧ ∀ c ∈ s, ok c = true

instance (ok : Char → Bool) (s : List Char) : Decidable (IsRun ok s) :=
  inferInstanceAs (Decidable (_ ∧ _))

variable {ok : Char → Bool} {s t : List Char}

/-- A run goes on as far as the characters behind it are of its class. -/
theorem takeRun?_append (h : IsRun ok s) (t : List Char) :
    takeRun? ok (s ++ t) = some (s ++ t.takeWhile ok, t.dropWhile ok) := by
  rw [takeRun?, List.takeWhile_append_of_pos h.2, List.dropWhile_append_of_pos h.2,
    if_neg (List.append_ne_nil_of_left_ne_nil h.1 _)]

/-- A run ends before a character of another class. -/
theorem takeRun?_append_cons (h : IsRun ok s) {c : Char} (hc : ok c = false) (t : List Char) :
    takeRun? ok (s ++ c :: t) = some (s, c :: t) := by
  rw [takeRun?_append h, List.takeWhile_cons_of_neg (by simp [hc]),
    List.dropWhile_cons_of_neg (by simp [hc]), List.append_nil]

theorem isRun_of_takeRun? {run rest : List Char} (h : takeRun? ok s = some (run, rest)) :
    IsRun ok run := by
  unfold takeRun? at h
  split at h
  next => cases h
  next hne =>
    cases h
    exact ⟨hne, fun c hc => List.mem_takeWhile_imp hc⟩

theorem IsRun.not_mem (h : IsRun ok s) {c : Char} (hc : ok c = false) : c ∉ s := fun hmem => by
  rw [h.2 c hmem] at hc
  cases hc

theorem skipChar?_cons (c : Char) (s : List Char) : skipChar? c (c :: s) = some s := if_pos rfl

/-! ### What patterns read -/

/-- The parts of a triple are runs of digits. -/
structure Triple.HasRuns (t : Triple) : Prop where
  bank : IsRun Char.isDigit t.bank
  register : IsRun Char.isDigit t.register
  address : IsRun Char.isDigit t.address

/-- A triple is read where its text stands, its last part to the end of the run. -/
theorem Triple.match?_append {t : Triple} (h : t.HasRuns) (rest : List Char) :
    match? (t.text ++ rest) = some
      ({ t with address := t.address ++ rest.takeWhile Char.isDigit },
        rest.dropWhile Char.isDigit) := by
  have hpoint : Char.isDigit '.' = false := by decide
  simp only [text, List.append_assoc, List.cons_append, match?, takeRun?_append_cons h.bank hpoint,
    takeRun?_append_cons h.register hpoint, takeRun?_append h.address, skipChar?_cons,
    Option.bind_eq_bind, Option.bind_some]
  rfl

theorem Triple.hasRuns_of_match? {t : Triple} {rest : List Char} (h : match? s = some (t, rest)) :
    t.HasRuns := by
  simp only [match?, Option.bind_eq_bind, Option.bind_eq_some_iff, Prod.exists] at h
  obtain ⟨b, s₁, h₁, s₂, -, r, s₃, h₃, s₄, -, q, s₅, h₅, ht⟩ := h
  cases ht
  exact ⟨isRun_of_takeRun? h₁, isRun_of_takeRun? h₃, isRun_of_takeRun? h₅⟩

/-- The parts of a pair are a letter and runs of letters and digits. -/
structure Pair.HasRuns (p : Pair) : Prop where
  letter : p.letter.isAlpha = true
  bank : IsRun isWordChar p.bank
  address : IsRun isWordChar p.address

/-- A pair is read where its text stands, its last part to the end of the run. -/
theorem Pair.match?_append {p : Pair} (h : p.HasRuns) (rest : List Char) :
    match? (p.text ++ rest) = some
      ({ p with address := p.address ++ rest.takeWhile isWordChar }, rest.dropWhile isWordChar) := by
  have hpoint : isWordChar '.' = false := by decide
  simp only [text, List.append_assoc, List.cons_append, match?, h.letter, if_true,
    takeRun?_append_cons h.bank hpoint, takeRun?_append h.address, skipChar?_cons,
    Option.bind_eq_bind, Option.bind_some]
  rfl

theorem Pair.hasRuns_of_match? {p : Pair} {rest : List Char} (h : match? s = some (p, rest)) :
    p.HasRuns := by
  cases s with
  | nil => cases h
  | cons c s =>
    simp only [match?] at h
    split at h
    next hletter =>
      simp only [Option.bind_eq_bind, Option.bind_eq_some_iff, Prod.exists] at h
      obtain ⟨b, s₁, h₁, s₂, -, q, s₃, h₃, hp⟩ := h
      cases hp
      exact ⟨hletter, isRun_of_takeRun? h₁, isRun_of_takeRun? h₃⟩
    next => cases h

/-- Where the text of an inclusion stands, one is read, although its name may be shorter. -/
theorem Inclusion.match?_append_ne_none (i : Inclusion) (rest : List Char) :
    match? (i.text ++ rest) ≠ none := by
  have hclose : ')' ∈ i.name ++ ')' :: rest := by simp
  intro hnone
  simp only [text, List.append_assoc, List.singleton_append, match?, afterStart?_append,
    Option.bind_eq_bind, Option.bind_some, Option.bind_eq_none_iff, Prod.forall] at hnone
  cases hcut : cutFirst? ')' (i.name ++ ')' :: rest) with
  | none => exact cutFirst?_eq_none_iff.1 hcut hclose
  | some m => cases hnone m.1 m.2 hcut

/-! ### What texts hold -/

/-- A form that a text holds stands at the start of a part that goes to the end of the text. -/
theorem exists_append_isSuffix {u : List Char} (h : u <:+: s) : ∃ rest, u ++ rest <:+ s := by
  obtain ⟨before, rest, hs⟩ := h
  exact ⟨rest, before, by rw [← hs, List.append_assoc]⟩

/-- Inclusions are read in the texts that hold one. -/
theorem Inclusion.match?_eq_none_iff :
    (∀ r, r <:+ s → match? r = none) ↔ ∀ i : Inclusion, ¬i.text <:+: s := by
  constructor
  · intro h i hheld
    obtain ⟨rest, hr⟩ := exists_append_isSuffix hheld
    exact i.match?_append_ne_none rest (h _ hr)
  · intro h r hr
    exact pattern.match?_eq_none hr fun i _ _ => h i

/-- Triples are read in the texts that hold one. -/
theorem Triple.match?_eq_none_iff :
    (∀ r, r <:+ s → match? r = none) ↔ ∀ t : Triple, t.HasRuns → ¬t.text <:+: s := by
  constructor
  · intro h t ht hheld
    obtain ⟨rest, hr⟩ := exists_append_isSuffix hheld
    have hnone := h _ hr
    rw [match?_append ht] at hnone
    cases hnone
  · intro h r hr
    exact pattern.match?_eq_none hr fun t _ hm => h t (hasRuns_of_match? hm)

/-- Pairs with a letter are read in the texts that hold the letter, a run, a point and one more
character of such a run. -/
theorem Pair.letter_ne_iff {letter : Char} (hletter : letter.isAlpha = true) :
    (∀ r, r <:+ s → ∀ m ∈ match? r, m.1.letter ≠ letter) ↔
      ∀ (bank : List Char) (x : Char), IsRun isWordChar bank → isWordChar x = true →
        ¬(letter :: bank ++ ['.', x]) <:+: s := by
  constructor
  · intro h bank x hbank hx hheld
    obtain ⟨rest, hr⟩ := exists_append_isSuffix hheld
    have hruns : HasRuns ⟨letter, bank, [x]⟩ :=
      ⟨hletter, hbank, List.cons_ne_nil x [], List.forall_mem_singleton.2 hx⟩
    exact h _ hr _ (match?_append hruns rest) rfl
  · intro h r hr m hm heq
    have hruns := hasRuns_of_match? hm
    obtain ⟨x, address, haddress⟩ := List.exists_cons_of_ne_nil hruns.address.1
    have hx : isWordChar x = true := hruns.address.2 x (by rw [haddress]; exact List.mem_cons_self)
    -- the first character of the last run is enough
    have hform : letter :: m.1.bank ++ ['.', x] <+: m.1.text :=
      ⟨address, by simp [text, haddress, heq]⟩
    exact h m.1.bank x hruns.bank hx (hform.isInfix.trans (pattern.text_isInfix hr hm))

/-! ### Plain texts -/

/-- A text that holds no reference. -/
structure IsPlain (c : Config) (s : List Char) : Prop where
  /-- There is no inclusion in it. -/
  inclusion : ∀ i : Inclusion, ¬i.text <:+: s
  /-- There are no three runs of digits with points between them. -/
  triple : ∀ t : Triple, t.HasRuns → ¬t.text <:+: s
  /-- There is no configured letter with a run of letters and digits behind it, and then a point and
  one more of them. -/
  pair : ∀ (bank : List Char) (x : Char), IsRun isWordChar bank → isWordChar x = true →
    ¬(c.letter :: bank ++ ['.', x]) <:+: s

variable {c : Config}

/-- Plain texts are those in which the patterns read nothing but pairs with other letters. -/
theorem isPlain_iff : IsPlain c s ↔
    (∀ r, r <:+ s → Inclusion.match? r = none) ∧ (∀ r, r <:+ s → Triple.match? r = none) ∧
      ∀ r, r <:+ s → ∀ m ∈ Pair.match? r, m.1.letter ≠ c.letter := by
  rw [Inclusion.match?_eq_none_iff, Triple.match?_eq_none_iff, Pair.letter_ne_iff c.letter_isAlpha]
  exact ⟨fun h => ⟨h.inclusion, h.triple, h.pair⟩, fun ⟨hi, ht, hp⟩ => ⟨hi, ht, hp⟩⟩

instance (c : Config) (s : List Char) : Decidable (IsPlain c s) :=
  decidable_of_iff ((∀ r ∈ s.tails, Inclusion.match? r = none) ∧
      (∀ r ∈ s.tails, Triple.match? r = none) ∧
      ∀ r ∈ s.tails, ∀ m ∈ Pair.match? r, m.1.letter ≠ c.letter) <| by
    simp only [isPlain_iff, List.mem_tails]

/-- No cell and no resource. -/
def Scope.none : Scope := ⟨∅, ∅⟩

namespace IsPlain

/-- Pairs with other letters are all that is found in a plain text. -/
theorem isLiteral_of_mem_tokens (h : IsPlain c s) : ∀ t ∈ tokens c s, t.IsLiteral := by
  have hstretch : Pattern.IsStretch s (Triple.pattern.scan s) :=
    Triple.pattern.isStretch_scan_of_none (isPlain_iff.1 h).2.1
  intro t ht
  rw [tokens_of_isStretch hstretch] at ht
  obtain ⟨piece, hpiece, rfl⟩ := List.mem_map.1 ht
  cases piece with
  | literal u => rfl
  | found p =>
    obtain ⟨r, rest, hr, hmatch⟩ := Pair.pattern.exists_match?_of_mem_scan hpiece
    have hletter : p.letter ≠ c.letter := (isPlain_iff.1 h).2.2 r hr _ hmatch
    have htoken : pairToken c p = .literal p.text := if_pos hletter
    rw [ofPiece, Token.IsLiteral, htoken]
    rfl

theorem isStretch_inclusions (h : IsPlain c s) :
    Pattern.IsStretch s (Inclusion.pattern.scan s) :=
  Inclusion.pattern.isStretch_scan_of_none (isPlain_iff.1 h).1

theorem included_eq (R : Reading) (h : IsPlain c s) : R.included s = s :=
  h.isStretch_inclusions.flatMap rfl

/-- A plain text refers to nothing. -/
theorem inScope {R : Reading} (h : IsPlain R.config s) : R.InScope .none s where
  resource i hi := by
    rcases h.isStretch_inclusions with hscan | ⟨-, hscan⟩
    · rw [hscan] at hi
      cases List.mem_singleton.1 hi
    · rw [hscan] at hi
      cases hi
  cell l hl := by
    rw [Reading.tokensOf, h.included_eq] at hl
    cases h.isLiteral_of_mem_tokens _ hl

end IsPlain

/-! ### Resolving -/

variable {σ : Type} [Storage σ]

/-- Where nothing may be read, nothing happens. -/
theorem Workspace.eq_of_readsIn_none {ws ws' : Workspace σ}
    (h : Relation.ReflTransGen (ReadsIn .none) ws ws') : ws' = ws := by
  induction h with
  | refl => rfl
  | tail _ hread _ =>
    cases hread with
    | document hallowed =>
      obtain ⟨cell, hcell, -⟩ := hallowed
      exact absurd hcell (Set.notMem_empty cell)
    | resource hallowed => exact absurd hallowed (Set.notMem_empty _)

/-- **Plain text is left alone.**  A text resolves to itself if it holds no inclusion, no three
decimal numbers with points between them, and no pair with the configured letter, whatever else it
holds.  Nothing else happens: no bank is loaded, and neither a document nor a resource is read. -/
theorem Workspace.resolve_plain (ws : Workspace σ) {text : String}
    (h : IsPlain ws.config text.toList) (visited : Visited) (depth : Nat) :
    resolve text visited depth ws = (text, ws) := by
  have hresult : (resolve text visited depth ws).1 = text := by
    have hself : ws.reading.expand depth visited text.toList = text.toList :=
      Reading.expand_eq_self (h.included_eq ws.reading) h.isLiteral_of_mem_tokens depth visited
    exact (computes_resolve text visited depth ws).1.trans
      ((congrArg String.ofList hself).trans String.ofList_toList)
  have hclosed : ws.reading.Closed .none := fun _ hcell => absurd hcell (Set.notMem_empty _)
  have hscope : ws.reading.InScope .none text.toList := IsPlain.inScope h
  have hstate : (resolve text visited depth ws).2 = ws :=
    eq_of_readsIn_none (confined_resolve hclosed hscope visited depth ws rfl)
  exact Prod.ext hresult hstate

theorem Workspace.resolve_plain_diamond :
    IsPlain diamondWorkspace.config "ab1.2 x.1 1.1. \u0661.\u0661.\u0661 @file(1.1".toList ∧
    resolve "ab1.2 x.1 1.1. \u0661.\u0661.\u0661 @file(1.1" .none 5 diamondWorkspace =
      ("ab1.2 x.1 1.1. \u0661.\u0661.\u0661 @file(1.1", diamondWorkspace) := by
  have hplain : IsPlain diamondWorkspace.config
      "ab1.2 x.1 1.1. \u0661.\u0661.\u0661 @file(1.1".toList := by decide +kernel
  exact ⟨hplain, resolve_plain diamondWorkspace hplain .none 5⟩

/-- The text of a pair with another letter can hold a pair with the configured one, which is not
followed.  Such a text is not plain. -/
example : (Workspace.resolve "ax1.1" .none 5 diamondWorkspace).1 = "ax1.1" ∧
    ¬IsPlain diamondWorkspace.config "ax1.1".toList := by decide +kernel

end Textbank
