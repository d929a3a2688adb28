import Mathlib.Order.Bounds.Basic
import Textbank.Proofs.Reference.Form
import Textbank.Proofs.Reference.Scan
/-!
# The pieces of a text

Scanning cuts a text into matches and the literal text between them.  Which pieces these are can be
said without scanning: they make up the text, each match stands at the first place behind the match
before it at which a reference can be read, and is as long there as a reference can be, and what
stands between the matches holds no reference.  A text has no other pieces like this.

* `Pattern.Cuts` : the pieces of a text, by what references can be read in it;
* `Pattern.HasForm.cuts_scan`, `Pattern.Cuts.eq_scan` : a text is cut in this way by scanning, and
  in no other way;
* `Reference.scan_exact` : so it is with inclusions, triples and pairs.
-/

namespace Textbank

/-- A reference of a form can be read at a place of a text. -/
def Form.ReadsAt (f : Form) (s : List Char) (i : Nat) : Prop :=
  ∃ read rest, f.Reads (s.drop i) read rest

theorem Form.readsAt_append {f : Form} (s t : List Char) (i : Nat) :
    f.ReadsAt (s ++ t) (s.length + i) ↔ f.ReadsAt t i := by
  rw [ReadsAt, ReadsAt, List.drop_length_add_append]

namespace Pattern

variable {α : Type} (p : Pattern α)

/-! ### What pieces are -/

/-- A match that is a reference, and the longest one that can be read where it stands before the
text that follows. -/
structure IsMatch (f : Form) (groups : α → List (List Char)) (a : α) (rest : List Char) :
    Prop where
  /-- The whole match is a reference, with these groups. -/
  full : f.Reads (p.text a) (groups a) []
  /-- Each run is taken to its end. -/
  takes : f.Takes (p.text a ++ rest) (groups a) rest
  /-- Nothing that can be read instead is longer in any group. -/
  longest : ∀ read rest', f.Reads (p.text a ++ rest) read rest' →
    List.Forall₂ (· <+: ·) read (groups a)

/-- Pieces that cut a text into the references of a form and what stands between them. -/
structure Cuts (f : Form) (groups : α → List (List Char)) (s : List Char)
    (ps : List (Piece α)) : Prop where
  /-- The pieces make up the text. -/
  joined_eq : p.joined ps = s
  /-- Each match is the longest reference in its place. -/
  isMatch : ∀ before a after, ps = before ++ .found a :: after →
    p.IsMatch f groups a (p.joined after)
  /-- Where only literal text stands between some pieces and a match, as between one match and the
  next, the match stands at the first place from their end on at which a reference can be read. -/
  leftmost : ∀ before gap a after, ps = before ++ (gap ++ .found a :: after) →
    (∀ q ∈ gap, q.IsLiteral) →
    IsLeast {i | (p.joined before).length ≤ i ∧ f.ReadsAt s i} (p.joined (before ++ gap)).length
  /-- Where only literal text stands behind some pieces, as behind the last match, no reference can
  be read from their end on. -/
  complete : ∀ before gap, ps = before ++ gap → (∀ q ∈ gap, q.IsLiteral) →
    ∀ i, (p.joined before).length ≤ i → ¬f.ReadsAt s i
  /-- No literal piece is empty, or holds a reference. -/
  literal : ∀ u, .literal u ∈ ps → u ≠ [] ∧ ∀ v, v <:+: u → ∀ read, ¬f.Reads v read []
  /-- No two literal pieces stand side by side. -/
  apart : ∀ before u v after, ps ≠ before ++ .literal u :: .literal v :: after

/-! ### The pieces that scanning gives -/

variable {p} {s u : List Char} {a : α} {before gap ps : List (Piece α)}

/-- No match can be read from where there is only literal text up to the next match. -/
theorem match?_drop_of_gap (h : p.scan s = gap ++ ps) (hgap : ∀ q ∈ gap, q.IsLiteral) {k : Nat}
    (hk : k < (p.joined gap).length) : p.match? (s.drop k) = none := by
  match gap with
  | [] => exact absurd hk (Nat.not_lt_zero k)
  | .found a :: gap => exact (hgap _ List.mem_cons_self).elim
  | [.literal u] =>
    rw [joined_cons, joined_nil, List.append_nil] at hk
    exact (p.scan_eq_cons_literal h).2.1 k hk
  | .literal u :: q :: gap =>
    have hq : q.IsLiteral := hgap q (by simp)
    exact absurd hq ((p.scan_eq_cons_literal h).2.2.2 q rfl)

variable {f : Form} {groups : α → List (List Char)}

namespace HasForm

theorem match?_drop_eq_none_iff (h : p.HasForm f groups) {i : Nat} :
    p.match? (s.drop i) = none ↔ ¬f.ReadsAt s i := by
  simp only [h.match?_eq_none_iff, Form.ReadsAt, not_exists]

theorem isMatch (h : p.HasForm f groups) {rest : List Char}
    (hm : p.match? (p.text a ++ rest) = some (a, rest)) : p.IsMatch f groups a rest where
  full := h.reads_text hm
  takes := h.match?_eq_some_iff.1 hm
  longest _ _ := h.forall₂_prefix hm

theorem ne_nil_of_reads (h : p.HasForm f groups) {read : List (List Char)} {rest : List Char}
    (hread : f.Reads s read rest) : s ≠ [] := by
  rintro rfl
  exact h.match?_eq_none_iff.1 p.match?_nil read rest hread

/-- A reference can be read where a match stands. -/
theorem readsAt_of_found (h : p.HasForm f groups) (hscan : p.scan s = before ++ .found a :: ps) :
    f.ReadsAt s (p.joined before).length := by
  have hm := (p.scan_eq_cons_found (p.scan_joined_of_append hscan)).1
  rw [← p.joined_scan s, hscan, joined_append]
  exact (Form.readsAt_append _ _ 0).2 ⟨_, _, (h.match?_eq_some_iff.1 hm).reads⟩

/-- No reference can be read where there is only literal text up to the next match. -/
theorem not_readsAt_of_gap (h : p.HasForm f groups) (hscan : p.scan s = before ++ (gap ++ ps))
    (hgap : ∀ q ∈ gap, q.IsLiteral) {k : Nat} (hk : k < (p.joined gap).length) :
    ¬f.ReadsAt s ((p.joined before).length + k) := by
  rw [← p.joined_scan s, hscan, joined_append, Form.readsAt_append, ← h.match?_drop_eq_none_iff]
  exact match?_drop_of_gap (p.scan_joined_of_append hscan) hgap hk

/-- A match stands at the first place at which a reference can be read. -/
theorem isLeast_of_found (h : p.HasForm f groups) {after : List (Piece α)}
    (hscan : p.scan s = before ++ (gap ++ .found a :: after)) (hgap : ∀ q ∈ gap, q.IsLiteral) :
    IsLeast {i | (p.joined before).length ≤ i ∧ f.ReadsAt s i}
      (p.joined (before ++ gap)).length := by
  have hfound : p.scan s = (before ++ gap) ++ .found a :: after := by
    rw [hscan, List.append_assoc]
  have hlength : (p.joined (before ++ gap)).length =
      (p.joined before).length + (p.joined gap).length := by
    rw [joined_append, List.length_append]
  refine ⟨⟨by omega, h.readsAt_of_found hfound⟩, ?_⟩
  rintro i ⟨hi, hread⟩
  obtain ⟨k, rfl⟩ := Nat.exists_eq_add_of_le hi
  by_contra hlt
  exact h.not_readsAt_of_gap hscan hgap (by omega) hread

/-- No reference can be read behind the last match. -/
theorem not_readsAt_of_end (h : p.HasForm f groups) (hscan : p.scan s = before ++ gap)
    (hgap : ∀ q ∈ gap, q.IsLiteral) {i : Nat} (hi : (p.joined before).length ≤ i) :
    ¬f.ReadsAt s i := by
  intro hread
  obtain ⟨k, rfl⟩ := Nat.exists_eq_add_of_le hi
  rcases Nat.lt_or_ge k (p.joined gap).length with hk | hk
  · rw [← List.append_nil gap] at hscan
    exact h.not_readsAt_of_gap hscan hgap hk hread
  · -- behind the text nothing is left to be read
    rw [← p.joined_scan s, hscan, joined_append, Form.readsAt_append] at hread
    obtain ⟨read, rest, hread⟩ := hread
    rw [List.drop_eq_nil_of_le hk] at hread
    exact h.ne_nil_of_reads hread rfl

/-- No part of a literal piece is a reference. -/
theorem not_reads_of_literal (h : p.HasForm f groups)
    (hscan : p.scan s = before ++ .literal u :: ps) {v : List Char} (hv : v <:+: u)
    (read : List (List Char)) : ¬f.Reads v read [] := by
  intro hread
  obtain ⟨x, y, rfl⟩ := hv
  have hgap : ∀ q ∈ ([.literal (x ++ v ++ y)] : List (Piece α)), q.IsLiteral :=
    List.forall_mem_singleton.2 trivial
  have hplace : x.length < (p.joined [.literal (x ++ v ++ y)]).length := by
    have := List.length_pos_iff.2 (h.ne_nil_of_reads hread)
    simp only [joined_cons, joined_nil, pieceText, List.length_append]
    omega
  refine h.not_readsAt_of_gap hscan hgap hplace ?_
  -- a part that is a reference can be read with what follows it
  rw [← p.joined_scan s, hscan, joined_append, joined_cons, pieceText, Form.readsAt_append,
    List.append_assoc x, List.append_assoc x, List.append_assoc v]
  exact (Form.readsAt_append x _ 0).2 ⟨read, _, hread.append _⟩

/-- **Scanning cuts a text as the form says.** -/
theorem cuts_scan (h : p.HasForm f groups) (s : List Char) : p.Cuts f groups s (p.scan s) where
  joined_eq := p.joined_scan s
  isMatch before a after hscan :=
    h.isMatch (p.scan_eq_cons_found (p.scan_joined_of_append hscan)).1
  leftmost before gap a after hscan hgap := h.isLeast_of_found hscan hgap
  complete before gap hscan hgap i hi := h.not_readsAt_of_end hscan hgap hi
  literal u hu := by
    obtain ⟨before, after, hscan⟩ := List.append_of_mem hu
    obtain ⟨hne, -⟩ := p.scan_eq_cons_literal (p.scan_joined_of_append hscan)
    exact ⟨hne, fun v hv => h.not_reads_of_literal hscan hv⟩
  apart before u v after hscan := by
    obtain ⟨-, -, -, hnext⟩ := p.scan_eq_cons_literal (p.scan_joined_of_append hscan)
    exact hnext (.literal v) rfl trivial

end HasForm

/-! ### No other pieces -/

/-- What is behind the first piece is cut in the same way. -/
theorem Cuts.tail {q : Piece α} (h : p.Cuts f groups s (q :: ps)) :
    p.Cuts f groups (p.joined ps) ps where
  joined_eq := rfl
  isMatch before a after hps := h.isMatch (q :: before) a after (congrArg (q :: ·) hps)
  leftmost before gap a after hps hgap := by
    obtain ⟨⟨hle, hread⟩, hleast⟩ :=
      h.leftmost (q :: before) gap a after (congrArg (q :: ·) hps) hgap
    rw [List.cons_append, joined_cons, List.length_append] at hle hread hleast
    rw [joined_cons, List.length_append] at hle hleast
    rw [← h.joined_eq, joined_cons] at hread hleast
    refine ⟨⟨Nat.le_of_add_le_add_left hle, (Form.readsAt_append ..).1 hread⟩, ?_⟩
    rintro i ⟨hi, hread'⟩
    exact Nat.le_of_add_le_add_left
      (hleast ⟨Nat.add_le_add_left hi _, (Form.readsAt_append ..).2 hread'⟩)
  complete before gap hps hgap i hi hread := by
    refine h.complete (q :: before) gap (congrArg (q :: ·) hps) hgap
      ((p.pieceText q).length + i) ?_ ?_
    · rw [joined_cons, List.length_append]
      exact Nat.add_le_add_left hi _
    · rw [← h.joined_eq, joined_cons, Form.readsAt_append]
      exact hread
  literal u hu := h.literal u (List.mem_cons_of_mem q hu)
  apart before u v after hps := h.apart (q :: before) u v after (congrArg (q :: ·) hps)

theorem Cuts.not_isLiteral_head (h : p.Cuts f groups s (.literal u :: ps)) :
    ∀ q ∈ ps.head?, ¬q.IsLiteral := by
  match ps with
  | [] => simp
  | .found a :: ps => simp [Piece.IsLiteral]
  | .literal v :: ps => exact absurd rfl (h.apart [] u v ps)

/-- No reference can be read from any place of a literal piece. -/
theorem Cuts.not_readsAt (h : p.Cuts f groups s (.literal u :: ps)) {k : Nat}
    (hk : k < u.length) : ¬f.ReadsAt s k := by
  intro hread
  have hliteral : ∀ q ∈ ([.literal u] : List (Piece α)), q.IsLiteral :=
    List.forall_mem_singleton.2 trivial
  match ps with
  | [] => exact h.complete [] [.literal u] rfl hliteral k (Nat.zero_le k) hread
  | .found b :: ps =>
    have hle := (h.leftmost [] [.literal u] b ps rfl hliteral).2 ⟨Nat.zero_le k, hread⟩
    simp only [List.nil_append, joined_cons, joined_nil, pieceText, List.append_nil] at hle
    omega
  | .literal v :: ps => exact h.apart [] u v ps rfl

theorem foldr_glue_of_not_isLiteral (hu : u ≠ []) (hps : ∀ q ∈ ps.head?, ¬q.IsLiteral) :
    u.foldr glue ps = .literal u :: ps := by
  induction u with
  | nil => exact absurd rfl hu
  | cons c u ih =>
    rw [List.foldr_cons]
    match u, ps with
    | d :: u, ps => rw [ih (List.cons_ne_nil d u), glue]
    | [], [] => rfl
    | [], .found a :: ps => rfl
    | [], .literal v :: ps => exact absurd trivial (hps _ rfl)

/-- **A text is cut in one way only.** -/
theorem Cuts.eq_scan (hf : p.HasForm f groups) (h : p.Cuts f groups s ps) : ps = p.scan s := by
  induction ps generalizing s with
  | nil => rw [← h.joined_eq, joined_nil, scan_nil]
  | cons q ps ih =>
    have hrest := ih h.tail
    cases q with
    | found a =>
      have hm := hf.match?_eq_some_iff.2 (h.isMatch [] a ps rfl).takes
      rw [← h.joined_eq, joined_cons, pieceText, p.scan_of_some hm, ← hrest]
    | literal u =>
      have hnone : ∀ k < u.length, p.match? (s.drop k) = none := fun k hk =>
        hf.match?_drop_eq_none_iff.2 (h.not_readsAt hk)
      have hs : s = u ++ p.joined ps := h.joined_eq.symm
      rw [p.scan_eq_foldr_glue hnone, hs, List.take_left, List.drop_left, ← hrest,
        foldr_glue_of_not_isLiteral (h.literal u List.mem_cons_self).1 h.not_isLiteral_head]

/-- Scanning is the one way to cut a text as the form says. -/
theorem HasForm.cuts_iff_eq_scan (h : p.HasForm f groups) :
    p.Cuts f groups s ps ↔ ps = p.scan s := by
  constructor
  · exact Cuts.eq_scan h
  · rintro rfl
    exact h.cuts_scan s

end Pattern

/-! ### References -/

/-- **Scanning is exact.**  For inclusions, triples and pairs alike, the pieces of a text are those,
and only those, into which it is cut from left to right: they make up the text; each match is a
whole reference, with each run taken to its end, and no group can be read longer in its place; from
the end of the match before it, it stands at the first place at which a reference can be read; from
the end of the last match on, none can be read; and no literal piece is empty, holds a reference or
stands next to another. -/
theorem Reference.scan_exact (s : List Char) :
    (∀ ps, Inclusion.pattern.Cuts Inclusion.form Inclusion.groups s ps ↔
      ps = Inclusion.pattern.scan s) ∧
    (∀ ps, Triple.pattern.Cuts Triple.form Triple.groups s ps ↔ ps = Triple.pattern.scan s) ∧
    ∀ ps, Pair.pattern.Cuts Pair.form Pair.groups s ps ↔ ps = Pair.pattern.scan s :=
  ⟨fun _ => Inclusion.hasForm.cuts_iff_eq_scan, fun _ => Triple.hasForm.cuts_iff_eq_scan,
    fun _ => Pair.hasForm.cuts_iff_eq_scan⟩

/-- An inclusion inside another, runs of digits with many points between them, and a letter in the
middle of a run. -/
example : Inclusion.pattern.scan "@file(@file(a)b)@file(".toList =
      [.found ⟨"@file(a".toList⟩, .literal "b)@file(".toList] ∧
    Triple.pattern.scan "1.02.3.4..5.6.78.9.0".toList =
      [.found ⟨['1'], ['0', '2'], ['3']⟩, .literal ".4..".toList,
        .found ⟨['5'], ['6'], ['7', '8']⟩, .literal ".9.0".toList] ∧
    Pair.pattern.scan "7a.xy1.b2.c".toList =
      [.literal "7a.".toList, .found ⟨'x', ['y', '1'], ['b', '2']⟩, .literal ".c".toList] := by
  decide +kernel

end Textbank
