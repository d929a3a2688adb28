/-!
# Scanning

A *pattern* reads one match at the start of a text.  Scanning a text by a pattern cuts it, from left
to right, into matches and the literal text between them: a match is taken wherever the pattern
reads one, and scanning goes on behind it.  Main definitions and statements:

* `Pattern` : a reader of matches, which takes exactly the text of the match it gives;
* `Pattern.scan` : the pieces of a text;
* `Pattern.scan_of_some`, `Pattern.scan_cons_of_none` : a match is taken wherever one is read, and
  else the first character is literal;
* `Pattern.flatMap_text_scan` : the pieces of a text make up the text.

A pattern also knows how far scanning can go on where no match is read (`Pattern.skip`), so that
a long run of characters is looked at once and not again from each of its characters.
-/

namespace Textbank

/-- A reader of matches at the start of a text. -/
structure Pattern (α : Type) where
  /-- The match that a text starts with, and what follows it. -/
  match? : List Char → Option (α × List Char)
  /-- The text of a match. -/
  text : α → List Char
  /-- A match and what follows it make up the text. -/
  text_append : ∀ {s : List Char} {a : α} {rest : List Char},
    match? s = some (a, rest) → text a ++ rest = s
  /-- No match is empty. -/
  text_ne_nil : ∀ a : α, text a ≠ []
  /-- How many characters after the first start no match either, where none is read. -/
  skip : List Char → Nat
  /-- The skipped characters start no match. -/
  match?_drop : ∀ {s : List Char}, match? s = none → ∀ k ≤ skip s, match? (s.drop k) = none

/-- A stretch of a scanned text. -/
inductive Piece (α : Type) where
  | literal (s : List Char)
  | found (a : α)
deriving DecidableEq

namespace Pattern

variable {α : Type} (p : Pattern α)

theorem length_lt_of_match? {s : List Char} {a : α} {rest : List Char}
    (h : p.match? s = some (a, rest)) : rest.length < s.length := by
  have ht : 0 < (p.text a).length := List.length_pos_iff.mpr (p.text_ne_nil a)
  have := congrArg List.length (p.text_append h)
  rw [List.length_append] at this
  omega

/-- Put a character before the pieces of the text that follows it. -/
def glue (c : Char) : List (Piece α) → List (Piece α)
  | .literal s :: ps => .literal (c :: s) :: ps
  | ps => .literal [c] :: ps

/-- The pieces of a text. -/
def scan (s : List Char) : List (Piece α) :=
  match s with
  | [] => []
  | c :: cs =>
    match _h : p.match? (c :: cs) with
    | some (a, rest) => .found a :: scan rest
    | none =>
      let n := p.skip (c :: cs)
      (c :: cs.take n).foldr glue (scan (cs.drop n))
termination_by s.length
decreasing_by
  · exact p.length_lt_of_match? _h
  · simp only [List.length_drop, List.length_cons]
    omega

/-- The text of a piece. -/
def pieceText : Piece α → List Char
  | .literal s => s
  | .found a => p.text a

theorem flatMap_pieceText_glue (c : Char) (ps : List (Piece α)) :
    (glue c ps).flatMap p.pieceText = c :: ps.flatMap p.pieceText := by
  unfold glue
  split <;> simp [pieceText]

theorem scan_skip {c : Char} {cs : List Char} (h : p.match? (c :: cs) = none) :
    p.scan (c :: cs) = glue c
      ((cs.take (p.skip (c :: cs))).foldr glue (p.scan (cs.drop (p.skip (c :: cs))))) := by
  rw [scan]
  split
  next h' => rw [h] at h'; cases h'
  next => rfl

/-- A stretch of characters that start no match is literal. -/
theorem scan_eq_foldr_glue {n : Nat} {s : List Char}
    (h : ∀ k < n, p.match? (s.drop k) = none) :
    p.scan s = (s.take n).foldr glue (p.scan (s.drop n)) := by
  induction hl : s.length using Nat.strongRecOn generalizing s n with
  | ind l ih =>
    subst hl
    cases s with
    | nil => simp
    | cons c cs =>
      cases n with
      | zero => rfl
      | succ n =>
        have h0 : p.match? (c :: cs) = none := h 0 (by omega)
        have hskip := p.match?_drop h0
        generalize hm : p.skip (c :: cs) = m at hskip
        rw [p.scan_skip h0, hm, List.take_succ_cons, List.foldr_cons, List.drop_succ_cons]
        refine congrArg (glue c) ?_
        have hlonger : ∀ a d, (∀ k < a + d, p.match? (cs.drop k) = none) →
            (cs.take a).foldr glue (p.scan (cs.drop a)) =
              (cs.take (a + d)).foldr glue (p.scan (cs.drop (a + d))) := by
          intro a d hnone
          have hlt : (cs.drop a).length < (c :: cs).length := by
            simp only [List.length_drop, List.length_cons]
            omega
          have hrest : ∀ k < d, p.match? ((cs.drop a).drop k) = none := by
            intro k hk
            rw [List.drop_drop]
            exact hnone _ (by omega)
          rw [List.take_add, List.foldr_append, ← List.drop_drop, ← ih _ hlt hrest rfl]
        -- the shorter of the two stretches is a part of the longer one
        rcases Nat.le_total m n with hmn | hmn
        · obtain ⟨d, rfl⟩ := Nat.exists_eq_add_of_le hmn
          refine hlonger m d fun k hk => ?_
          rw [← List.drop_succ_cons (a := c)]
          exact h _ (by omega)
        · obtain ⟨d, rfl⟩ := Nat.exists_eq_add_of_le hmn
          refine (hlonger n d fun k hk => ?_).symm
          rw [← List.drop_succ_cons (a := c)]
          exact hskip _ (by omega)

theorem scan_cons_of_none {c : Char} {cs : List Char} (h : p.match? (c :: cs) = none) :
    p.scan (c :: cs) = glue c (p.scan cs) :=
  p.scan_eq_foldr_glue (n := 1) fun k hk => by
    obtain rfl : k = 0 := by omega
    exact h

theorem scan_of_some {s : List Char} {a : α} {rest : List Char}
    (h : p.match? s = some (a, rest)) : p.scan s = .found a :: p.scan rest := by
  cases s with
  | nil => have := p.length_lt_of_match? h; simp at this
  | cons c cs =>
    rw [scan]
    split
    next h' => rw [h] at h'; cases h'; rfl
    next h' => rw [h] at h'; cases h'

/-- Nothing is lost or added by scanning. -/
theorem flatMap_text_scan (s : List Char) : (p.scan s).flatMap p.pieceText = s := by
  induction hn : s.length using Nat.strongRecOn generalizing s with
  | ind n ih =>
    subst hn
    cases s with
    | nil => simp [scan]
    | cons c cs =>
      cases h : p.match? (c :: cs) with
      | none => rw [p.scan_cons_of_none h, flatMap_pieceText_glue, ih _ (by simp) _ rfl]
      | some m =>
        obtain ⟨a, rest⟩ := m
        rw [p.scan_of_some h, List.flatMap_cons, ih _ (p.length_lt_of_match? h) _ rfl]
        exact p.text_append h

end Pattern

end Textbank
