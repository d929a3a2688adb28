import Mathlib.Data.List.Infix
import Textbank.Proofs.Text
import Textbank.Reference.Form
/-!
# Scanning, and scanning across a separator

The pieces at the end of a text are the pieces of what they make up, so each piece is seen as the
first one of a text.  A character that no reference holds cuts a text into two parts that are
scanned by themselves: no match reaches over it, and the literal text around it is cut there.

* `Pattern.scan_joined_of_append` : the last pieces of a text are the pieces of what they make up;
* `Pattern.scan_eq_cons_found`, `Pattern.scan_eq_cons_literal` : what the first piece of a text says
  about the text;
* `Pattern.IsStretch` : the pieces of a text without matches, which are told by the suffixes of the
  text (`Pattern.isStretch_scan_of_none`, `Pattern.exists_match?_of_mem_scan`);
* `Pattern.StopsBefore` : the match that a text starts with does not change when the text goes on;
* `Pattern.scan_separator` : the pieces of a text with a separator in it are those of its parts, but
  for the literal piece that holds the separator;
* `isSeparator` : the characters that no reference holds, and `Inclusion.Closed` : the texts whose
  inclusions end in them;
* `Triple.stopsBefore`, `Pair.stopsBefore`, `Inclusion.stopsBefore` : the patterns of references
  stop before a separator.
-/

namespace Textbank

/-- A piece that is no match. -/
def Piece.IsLiteral {α : Type} : Piece α → Prop
  | .literal _ => True
  | .found _ => False

namespace Pattern

variable {α : Type} (p : Pattern α)

theorem match?_nil : p.match? [] = none := by
  cases h : p.match? [] with
  | none => rfl
  | some m => exact absurd (p.length_lt_of_match? h) (Nat.not_lt_zero _)

theorem scan_nil : p.scan [] = [] := by rw [scan]

/-- Whether the match that a text starts with is the same when something follows the text. -/
def StopsBefore (tail s : List Char) : Prop :=
  p.match? (s ++ tail) = (p.match? s).map (Prod.map id (· ++ tail))

/-! ### Pieces of a text -/

/-- The text that pieces make up. -/
def joined (ps : List (Piece α)) : List Char := ps.flatMap p.pieceText

@[simp] theorem joined_nil : p.joined [] = [] := rfl

@[simp] theorem joined_cons (q : Piece α) (ps : List (Piece α)) :
    p.joined (q :: ps) = p.pieceText q ++ p.joined ps := rfl

@[simp] theorem joined_append (ps qs : List (Piece α)) :
    p.joined (ps ++ qs) = p.joined ps ++ p.joined qs := List.flatMap_append

@[simp] theorem joined_scan (s : List Char) : p.joined (p.scan s) = s := p.flatMap_text_scan s

theorem scan_eq_cons_found {s : List Char} {a : α} {ps : List (Piece α)}
    (h : p.scan s = .found a :: ps) :
    p.match? s = some (a, p.joined ps) ∧ p.scan (p.joined ps) = ps := by
  cases s with
  | nil =>
    rw [scan_nil] at h
    cases h
  | cons c s =>
    cases hm : p.match? (c :: s) with
    | none =>
      rw [p.scan_cons_of_none hm, glue.eq_def] at h
      split at h <;> cases h
    | some m =>
      obtain ⟨b, rest⟩ := m
      rw [p.scan_of_some hm] at h
      cases h
      simp

/-- Where scanning gives a literal piece, no match can be read from any of its characters, and no
literal piece follows. -/
theorem scan_eq_cons_literal {s u : List Char} {ps : List (Piece α)}
    (h : p.scan s = .literal u :: ps) :
    u ≠ [] ∧ (∀ k < u.length, p.match? (s.drop k) = none) ∧ p.scan (p.joined ps) = ps ∧
      ∀ q ∈ ps.head?, ¬q.IsLiteral := by
  induction s generalizing u with
  | nil =>
    rw [scan_nil] at h
    cases h
  | cons c s ih =>
    cases hm : p.match? (c :: s) with
    | some m =>
      rw [p.scan_of_some hm] at h
      cases h
    | none =>
      have hs := p.joined_scan s
      rw [p.scan_cons_of_none hm] at h
      match hscan : p.scan s with
      | [] =>
        rw [hscan] at h
        cases h
        exact ⟨by simp, by simpa using hm, p.scan_nil, by simp⟩
      | .found b :: qs =>
        rw [hscan] at h hs
        cases h
        exact ⟨by simp, by simpa using hm, by rw [hs, hscan], by simp [Piece.IsLiteral]⟩
      | .literal v :: qs =>
        rw [hscan] at h
        cases h
        obtain ⟨-, hnone, hrest, hnext⟩ := ih hscan
        refine ⟨List.cons_ne_nil c v, fun k hk => ?_, hrest, hnext⟩
        cases k with
        | zero => exact hm
        | succ k => exact hnone k (Nat.lt_of_succ_lt_succ hk)

/-- What the last pieces of a text make up is cut into these pieces. -/
theorem scan_joined_of_append {s : List Char} {before ps : List (Piece α)}
    (h : p.scan s = before ++ ps) : p.scan (p.joined ps) = ps := by
  induction before generalizing s with
  | nil => rw [← List.nil_append ps, ← h, joined_scan]
  | cons q before ih =>
    cases q with
    | literal u => exact ih (p.scan_eq_cons_literal h).2.2.1
    | found a => exact ih (p.scan_eq_cons_found h).2

/-! ### Pieces around a separator -/

/-- The pieces of a text without matches. -/
def IsStretch (s : List Char) (ps : List (Piece α)) : Prop :=
  ps = [.literal s] ∨ s = [] ∧ ps = []

theorem IsStretch.glue {s : List Char} {ps : List (Piece α)} (h : IsStretch s ps) (c : Char) :
    glue c ps = [.literal (c :: s)] := by
  rcases h with rfl | ⟨rfl, rfl⟩ <;> rfl

theorem IsStretch.flatMap {β : Type} {s : List Char} {ps : List (Piece α)} (h : IsStretch s ps)
    {f : Piece α → List β} (hf : f (.literal []) = []) : ps.flatMap f = f (.literal s) := by
  rcases h with rfl | ⟨rfl, rfl⟩
  · exact List.flatMap_singleton f _
  · exact hf.symm

/-- A character that is glued to pieces joins their first stretch. -/
theorem exists_isStretch_glue (c : Char) (ps : List (Piece α)) :
    ∃ s stretch post, IsStretch s stretch ∧ ps = stretch ++ post ∧
      glue c ps = .literal (c :: s) :: post := by
  match ps with
  | [] => exact ⟨[], [], [], Or.inr ⟨rfl, rfl⟩, rfl, rfl⟩
  | .literal s :: post => exact ⟨s, [.literal s], post, Or.inl rfl, rfl, rfl⟩
  | .found a :: post => exact ⟨[], [], .found a :: post, Or.inr ⟨rfl, rfl⟩, rfl, rfl⟩

theorem glue_append {ps : List (Piece α)} (h : ps ≠ []) (c : Char) (qs : List (Piece α)) :
    glue c (ps ++ qs) = glue c ps ++ qs := by
  match ps with
  | [] => exact absurd rfl h
  | .literal s :: ps => rfl
  | .found a :: ps => rfl

/-- A text in which no match can be read is a stretch. -/
theorem isStretch_scan_of_none {s : List Char} (h : ∀ r, r <:+ s → p.match? r = none) :
    IsStretch s (p.scan s) := by
  induction s with
  | nil => exact Or.inr ⟨rfl, p.scan_nil⟩
  | cons x s ih =>
    have hrest := ih fun r hr => h r (hr.trans (List.suffix_cons x s))
    rw [p.scan_cons_of_none (h _ List.suffix_rfl), hrest.glue x]
    exact Or.inl rfl

/-- The text of a match stands in the text that it is read from. -/
theorem text_isInfix {r s rest : List Char} {a : α} (hr : r <:+ s)
    (h : p.match? r = some (a, rest)) : p.text a <:+: s := by
  rw [← p.text_append h] at hr
  exact (List.prefix_append _ rest).isInfix.trans hr.isInfix

/-- Nothing is read where the text of no match stands. -/
theorem match?_eq_none {r s : List Char} (hr : r <:+ s)
    (h : ∀ a rest, p.match? r = some (a, rest) → ¬p.text a <:+: s) : p.match? r = none := by
  cases hm : p.match? r with
  | none => rfl
  | some m => exact absurd (p.text_isInfix hr hm) (h m.1 m.2 hm)

/-- A text without a character that every match holds is a stretch. -/
theorem isStretch_scan {c : Char} (hc : ∀ a, c ∈ p.text a) {s : List Char} (hs : c ∉ s) :
    IsStretch s (p.scan s) :=
  p.isStretch_scan_of_none fun _ hr => p.match?_eq_none hr fun a _ _ hheld =>
    hs (hheld.subset (hc a))

/-- A match among the pieces was read somewhere in the text. -/
theorem exists_match?_of_mem_scan {a : α} {s : List Char} (h : .found a ∈ p.scan s) :
    ∃ r rest, r <:+ s ∧ p.match? r = some (a, rest) := by
  obtain ⟨before, after, hscan⟩ := List.append_of_mem h
  have hsplit : p.joined before ++ p.joined (.found a :: after) = s := by
    rw [← joined_append, ← hscan, joined_scan]
  exact ⟨_, p.joined after, ⟨p.joined before, hsplit⟩,
    (p.scan_eq_cons_found (p.scan_joined_of_append hscan)).1⟩

/-- Where no match reaches over a separator, the literal piece that holds it is put together from
the last stretch of the text before it and the first stretch of the text behind it. -/
theorem scan_separator {c : Char} {s t : List Char}
    (h : ∀ r, r <:+ s → p.StopsBefore (c :: t) r) :
    ∃ pre u last v first post, IsStretch u last ∧ IsStretch v first ∧
      p.scan s = pre ++ last ∧ p.scan t = first ++ post ∧
      p.scan (s ++ c :: t) = pre ++ .literal (u ++ c :: v) :: post := by
  induction hn : s.length using Nat.strongRecOn generalizing s with
  | ind n ih =>
    subst hn
    have hmatch := h s List.suffix_rfl
    unfold StopsBefore at hmatch
    cases s with
    | nil =>
      obtain ⟨v, first, post, hv, ht, hglue⟩ := exists_isStretch_glue c (p.scan t)
      have hnone : p.match? (c :: t) = none := by
        rw [match?_nil] at hmatch
        exact hmatch
      refine ⟨[], [], [], v, first, post, Or.inr ⟨rfl, rfl⟩, hv, p.scan_nil, ht, ?_⟩
      rw [List.nil_append, p.scan_cons_of_none hnone, hglue]
      rfl
    | cons x s =>
      cases hm : p.match? (x :: s) with
      | none =>
        have hnone : p.match? (x :: (s ++ c :: t)) = none := by
          rw [hm] at hmatch
          exact hmatch
        obtain ⟨pre, u, last, v, first, post, hu, hv, hs, ht, hst⟩ :=
          ih s.length (Nat.lt_succ_self _) (fun r hr => h r (hr.trans (List.suffix_cons x s))) rfl
        rw [List.cons_append, p.scan_cons_of_none hm, p.scan_cons_of_none hnone, hs, hst]
        cases pre with
        | nil => exact ⟨[], x :: u, _, v, first, post, Or.inl rfl, hv, hu.glue x, ht, rfl⟩
        | cons q pre =>
          exact ⟨glue x (q :: pre), u, last, v, first, post, hu, hv,
            glue_append (List.cons_ne_nil q pre) x _, ht, glue_append (List.cons_ne_nil q pre) x _⟩
      | some m =>
        obtain ⟨a, rest⟩ := m
        have hsome : p.match? (x :: s ++ c :: t) = some (a, rest ++ c :: t) := by
          rw [hm] at hmatch
          exact hmatch
        have hrest : rest <:+ x :: s := ⟨p.text a, p.text_append hm⟩
        obtain ⟨pre, u, last, v, first, post, hu, hv, hs, ht, hst⟩ :=
          ih rest.length (p.length_lt_of_match? hm) (fun r hr => h r (hr.trans hrest)) rfl
        rw [p.scan_of_some hm, p.scan_of_some hsome, hs, hst]
        exact ⟨.found a :: pre, u, last, v, first, post, hu, hv, rfl, ht, rfl⟩

/-- What is made of the pieces, piece by piece, falls into the same parts, if it does so inside a
literal piece. -/
theorem flatMap_scan_separator {c : Char} {s t : List Char}
    (h : ∀ r, r <:+ s → p.StopsBefore (c :: t) r) {f : Piece α → List Char}
    (hnil : f (.literal []) = [])
    (hliteral : ∀ u v, f (.literal (u ++ c :: v)) = f (.literal u) ++ c :: f (.literal v)) :
    (p.scan (s ++ c :: t)).flatMap f = (p.scan s).flatMap f ++ c :: (p.scan t).flatMap f := by
  obtain ⟨pre, u, last, v, first, post, hu, hv, hs, ht, hst⟩ := p.scan_separator h
  rw [hs, ht, hst, List.flatMap_append, List.flatMap_append, List.flatMap_append,
    List.flatMap_cons, hu.flatMap hnil, hv.flatMap hnil, hliteral]
  simp only [List.append_assoc, List.cons_append]

end Pattern

/-! ### Separators -/

/-- Whether a character is in no reference, except in the name of an inclusion. -/
def isSeparator (c : Char) : Bool :=
  !isWordChar c && c != '.' && c != '@' && c != '(' && c != ')'

theorem isSeparator_iff {c : Char} : isSeparator c = true ↔
    isWordChar c = false ∧ c ≠ '.' ∧ c ≠ '@' ∧ c ≠ '(' ∧ c ≠ ')' := by
  simp [isSeparator, and_assoc]

variable {c : Char}

theorem takeWhile_separator {ok : Char → Bool} (hc : ok c = false) (s t : List Char) :
    (s ++ c :: t).takeWhile ok = s.takeWhile ok := by
  induction s with
  | nil => simp [hc]
  | cons x s ih => cases hx : ok x <;> simp [hx, ih]

theorem dropWhile_separator {ok : Char → Bool} (hc : ok c = false) (s t : List Char) :
    (s ++ c :: t).dropWhile ok = s.dropWhile ok ++ c :: t := by
  induction s with
  | nil => simp [hc]
  | cons x s ih => cases hx : ok x <;> simp [hx, ih]

theorem takeRun?_separator {ok : Char → Bool} (hc : ok c = false) (s t : List Char) :
    takeRun? ok (s ++ c :: t) = (takeRun? ok s).map (Prod.map id (· ++ c :: t)) := by
  unfold takeRun?
  rw [takeWhile_separator hc, dropWhile_separator hc]
  split <;> rfl

theorem skipChar?_separator {x : Char} (hc : c ≠ x) (s t : List Char) :
    skipChar? x (s ++ c :: t) = (skipChar? x s).map (· ++ c :: t) := by
  cases s with
  | nil => simp [skipChar?, hc]
  | cons y s => by_cases hy : y = x <;> simp [skipChar?, hy]

theorem afterStart?_separator {start : List Char} (hc : c ∉ start) (s t : List Char) :
    afterStart? start (s ++ c :: t) = (afterStart? start s).map (· ++ c :: t) := by
  induction start generalizing s with
  | nil => simp [afterStart?]
  | cons x start ih =>
    obtain ⟨hx, hstart⟩ := List.ne_and_not_mem_of_not_mem_cons hc
    cases s with
    | nil => simp [afterStart?, Ne.symm hx]
    | cons y s => by_cases hy : x = y <;> simp [afterStart?, hy, ih hstart]

theorem cutFirst?_append_of_mem {x : Char} {s : List Char} (hx : x ∈ s) (t : List Char) :
    cutFirst? x (s ++ t) = (cutFirst? x s).map (Prod.map id (· ++ t)) := by
  cases hcut : cutFirst? x s with
  | none => exact absurd hx (cutFirst?_eq_none_iff.1 hcut)
  | some m =>
    obtain ⟨rfl, hfirst⟩ := cutFirst?_eq_some_iff.1 hcut
    rw [List.append_assoc, List.cons_append, cutFirst?_append hfirst]
    rfl

/-! ### References stop before separators -/

theorem Triple.stopsBefore (hc : isSeparator c = true) (s t : List Char) :
    Triple.pattern.StopsBefore (c :: t) s := by
  obtain ⟨hword, hpoint, -⟩ := isSeparator_iff.1 hc
  have hdigit : c.isDigit = false := (Bool.or_eq_false_iff.1 hword).2
  unfold Pattern.StopsBefore
  simp only [pattern, match?, takeRun?_separator hdigit, skipChar?_separator hpoint,
    Option.bind_eq_bind, Option.bind_map, Option.map_bind, Function.comp_def, Prod.map, id]
  rfl

theorem Pair.stopsBefore (hc : isSeparator c = true) (s t : List Char) :
    Pair.pattern.StopsBefore (c :: t) s := by
  obtain ⟨hword, hpoint, -⟩ := isSeparator_iff.1 hc
  have halpha : c.isAlpha = false := (Bool.or_eq_false_iff.1 hword).1
  unfold Pattern.StopsBefore
  cases s with
  | nil => simp [pattern, match?, halpha]
  | cons x s =>
    cases hx : x.isAlpha with
    | false => simp [pattern, match?, hx]
    | true =>
      simp only [pattern, match?, List.cons_append, hx, if_true, takeRun?_separator hword,
        skipChar?_separator hpoint, Option.bind_eq_bind, Option.bind_map, Option.map_bind,
        Function.comp_def, Prod.map, id]
      rfl

/-- Whether every inclusion that begins in a text ends in it. -/
def Inclusion.Closed (s : List Char) : Prop :=
  ∀ before after, s = before ++ opening ++ after → ')' ∈ after

theorem Inclusion.Closed.of_suffix {r s : List Char} (h : Closed s) (hr : r <:+ s) : Closed r := by
  obtain ⟨start, rfl⟩ := hr
  rintro before after rfl
  exact h (start ++ before) after (by simp)

theorem Inclusion.closed_iff {s : List Char} :
    Closed s ↔ ∀ r ∈ s.tails, ∀ after ∈ afterStart? opening r, ')' ∈ after := by
  constructor
  · intro h r hr after hafter
    obtain ⟨before, rfl⟩ := (List.mem_tails _ _).1 hr
    refine h before after ?_
    rw [append_of_afterStart? hafter, List.append_assoc]
  · rintro h before after rfl
    refine h (opening ++ after) ((List.mem_tails _ _).2 ⟨before, ?_⟩) after ?_
    · rw [List.append_assoc]
    · exact afterStart?_append opening after

instance (s : List Char) : Decidable (Inclusion.Closed s) :=
  decidable_of_iff _ Inclusion.closed_iff.symm

theorem Inclusion.stopsBefore (hc : isSeparator c = true) {s : List Char} (hs : Closed s)
    (t : List Char) : Inclusion.pattern.StopsBefore (c :: t) s := by
  have hopening : c ∉ opening := fun hmem => by
    have hnone : opening.all (fun x => !isSeparator x) = true := by decide
    simpa [hc] using List.all_eq_true.1 hnone c hmem
  unfold Pattern.StopsBefore
  simp only [pattern, match?, afterStart?_separator hopening]
  cases hstart : afterStart? opening s with
  | none => rfl
  | some after =>
    have hclose : ')' ∈ after := hs [] after (append_of_afterStart? hstart)
    simp only [Option.map_some, Option.bind_eq_bind, Option.bind_some,
      cutFirst?_append_of_mem hclose, Option.bind_map, Option.map_bind, Function.comp_def,
      Prod.map, id]
    rfl

end Textbank
