import Textbank.Proofs.Text
import Textbank.Reference.Form
/-!
# What the forms of references allow

A form is a list of parts: characters that are always there, and groups of characters of a class
between them.  It says which texts are references, and nothing of how they are looked for.  Of the
references that a text can start with, one is taken: the one in which each run goes on to its end.

* `Form.Reads` : the references that a text can start with;
* `Form.Takes` : the one among them that is taken;
* `Form.Reads.exists_takes` : where a reference can be read, one is taken that is as long in every
  group, if the form is delimited (`Form.Delimited`), so nothing has to be given back;
* `Pattern.HasForm` : the pattern takes what the form says, and so do those of inclusions, triples
  and pairs (`Inclusion.hasForm`, `Triple.hasForm`, `Pair.hasForm`).
-/

namespace Textbank

/-- A part of the form of a reference. -/
inductive FormPart where
  /-- A character that is always there. -/
  | mark (c : Char)
  /-- A group of one character of a class. -/
  | one (ok : Char → Bool)
  /-- A group of characters of a class, and how many there are at least. -/
  | run (ok : Char → Bool) (least : Nat)

/-- The form of a reference: its parts, from left to right. -/
abbrev Form := List FormPart

namespace Form

variable {f : Form} {s t rest : List Char} {groups : List (List Char)}

/-- The text starts with a reference of the form that has these groups, and goes on with the rest.
A run may end anywhere. -/
inductive Reads : Form → List Char → List (List Char) → List Char → Prop where
  | nil {rest : List Char} : Reads [] rest [] rest
  | mark {f : Form} {c : Char} {s rest : List Char} {groups : List (List Char)} :
    Reads f s groups rest → Reads (.mark c :: f) (c :: s) groups rest
  | one {f : Form} {ok : Char → Bool} {c : Char} {s rest : List Char} {groups : List (List Char)} :
    ok c = true → Reads f s groups rest → Reads (.one ok :: f) (c :: s) ([c] :: groups) rest
  | run {f : Form} {ok : Char → Bool} {least : Nat} {group s rest : List Char}
    {groups : List (List Char)} : least ≤ group.length → (∀ c ∈ group, ok c = true) →
    Reads f s groups rest → Reads (.run ok least :: f) (group ++ s) (group :: groups) rest

/-- The text starts with a reference of the form that has these groups, and goes on with the rest.
Each run goes on as far as there are characters of its class. -/
inductive Takes : Form → List Char → List (List Char) → List Char → Prop where
  | nil {rest : List Char} : Takes [] rest [] rest
  | mark {f : Form} {c : Char} {s rest : List Char} {groups : List (List Char)} :
    Takes f s groups rest → Takes (.mark c :: f) (c :: s) groups rest
  | one {f : Form} {ok : Char → Bool} {c : Char} {s rest : List Char} {groups : List (List Char)} :
    ok c = true → Takes f s groups rest → Takes (.one ok :: f) (c :: s) ([c] :: groups) rest
  | run {f : Form} {ok : Char → Bool} {least : Nat} {group s rest : List Char}
    {groups : List (List Char)} : least ≤ group.length → (∀ c ∈ group, ok c = true) →
    (∀ c ∈ s.head?, ok c = false) →
    Takes f s groups rest → Takes (.run ok least :: f) (group ++ s) (group :: groups) rest

/-! ### Readings -/

/-- A reference that can be read makes up the text with what is left. -/
theorem Reads.exists_append (h : Reads f s groups rest) :
    ∃ text, s = text ++ rest ∧ Reads f text groups [] := by
  induction h with
  | nil => exact ⟨[], rfl, .nil⟩
  | mark _ ih =>
    obtain ⟨text, rfl, htext⟩ := ih
    exact ⟨_ :: text, rfl, htext.mark⟩
  | one hc _ ih =>
    obtain ⟨text, rfl, htext⟩ := ih
    exact ⟨_ :: text, rfl, htext.one hc⟩
  | run hleast hgroup _ ih =>
    obtain ⟨text, rfl, htext⟩ := ih
    exact ⟨_ ++ text, (List.append_assoc ..).symm, htext.run hleast hgroup⟩

/-- A reference can be read whatever follows it. -/
theorem Reads.append (h : Reads f s groups rest) (t : List Char) :
    Reads f (s ++ t) groups (rest ++ t) := by
  induction h with
  | nil => exact .nil
  | mark _ ih => exact ih.mark
  | one hc _ ih => exact ih.one hc
  | run hleast hgroup _ ih =>
    rw [List.append_assoc]
    exact ih.run hleast hgroup

theorem Takes.reads (h : Takes f s groups rest) : Reads f s groups rest := by
  induction h with
  | nil => exact .nil
  | mark _ ih => exact ih.mark
  | one hc _ ih => exact ih.one hc
  | run hleast hgroup _ _ ih => exact ih.run hleast hgroup

/-! ### What is taken -/

theorem takes_nil_iff : Takes [] s groups rest ↔ groups = [] ∧ rest = s := by
  constructor
  · rintro ⟨⟩
    exact ⟨rfl, rfl⟩
  · rintro ⟨rfl, rfl⟩
    exact .nil

theorem takes_mark_iff {c : Char} : Takes (.mark c :: f) s groups rest ↔
    ∃ s', skipChar? c s = some s' ∧ Takes f s' groups rest := by
  constructor
  · rintro (_ | h)
    exact ⟨_, if_pos rfl, h⟩
  · rintro ⟨s', hs, h⟩
    rw [← cons_of_skipChar? hs]
    exact h.mark

theorem takes_one_iff {ok : Char → Bool} : Takes (.one ok :: f) s groups rest ↔
    ∃ c s' groups', s = c :: s' ∧ ok c = true ∧ groups = [c] :: groups' ∧
      Takes f s' groups' rest := by
  constructor
  · rintro (_ | _ | ⟨hc, h⟩)
    exact ⟨_, _, _, rfl, hc, rfl, h⟩
  · rintro ⟨c, s', groups', rfl, hc, rfl, h⟩
    exact h.one hc

/-- A run that is taken is all that there is of its class. -/
theorem takes_run_iff {ok : Char → Bool} {least : Nat} :
    Takes (.run ok least :: f) s groups rest ↔ least ≤ (s.takeWhile ok).length ∧
      ∃ groups', groups = s.takeWhile ok :: groups' ∧ Takes f (s.dropWhile ok) groups' rest := by
  constructor
  · rintro (_ | _ | _ | @⟨_, _, _, group, s, _, _, hleast, hgroup, hstop, h⟩)
    have hend : s.takeWhile ok = [] ∧ s.dropWhile ok = s := by
      cases s with
      | nil => exact ⟨rfl, rfl⟩
      | cons c s => simp [hstop c rfl]
    rw [List.takeWhile_append_of_pos hgroup, List.dropWhile_append_of_pos hgroup, hend.1, hend.2,
      List.append_nil]
    exact ⟨hleast, _, rfl, h⟩
  · rintro ⟨hleast, groups', rfl, h⟩
    have hrun := h.run hleast (fun c hc => List.mem_takeWhile_imp hc)
      fun c hc => not_of_mem_head?_dropWhile hc
    rwa [List.takeWhile_append_dropWhile] at hrun

/-- What is taken of a run that is not empty is what a run is read as. -/
theorem takes_takeRun_iff {ok : Char → Bool} : Takes (.run ok 1 :: f) s groups rest ↔
    ∃ group s' groups', takeRun? ok s = some (group, s') ∧ groups = group :: groups' ∧
      Takes f s' groups' rest := by
  rw [takes_run_iff, Nat.succ_le_iff, List.length_pos_iff]
  unfold takeRun?
  constructor
  · rintro ⟨hne, groups', rfl, h⟩
    exact ⟨_, _, groups', if_neg hne, rfl, h⟩
  · rintro ⟨group, s', groups', hrun, rfl, h⟩
    split at hrun
    next => cases hrun
    next hne =>
      cases hrun
      exact ⟨hne, groups', rfl, h⟩

/-- What is taken up to a character ends at the first one. -/
theorem takes_cutFirst_iff {c : Char} : Takes (.run (· ≠ c) 0 :: .mark c :: f) s groups rest ↔
    ∃ group s' groups', cutFirst? c s = some (group, s') ∧ groups = group :: groups' ∧
      Takes f s' groups' rest := by
  simp only [cutFirst?_eq_some_iff]
  constructor
  · rintro (_ | _ | _ | ⟨-, hgroup, -, _ | h⟩)
    exact ⟨_, _, _, ⟨rfl, fun hc => of_decide_eq_true (hgroup c hc) rfl⟩, rfl, h⟩
  · rintro ⟨group, s', groups', ⟨rfl, hc⟩, rfl, h⟩
    refine h.mark.run (Nat.zero_le _) (fun x hx => decide_eq_true ?_) fun x hx => ?_
    · rintro rfl
      exact hc hx
    · cases hx
      exact decide_eq_false fun hne => hne rfl

theorem takes_marks_iff {start : List Char} : Takes (start.map .mark ++ f) s groups rest ↔
    ∃ s', afterStart? start s = some s' ∧ Takes f s' groups rest := by
  induction start generalizing s with
  | nil => simp [afterStart?]
  | cons c start ih =>
    rw [List.map_cons, List.cons_append, takes_mark_iff]
    simp only [ih]
    cases s with
    | nil => simp [skipChar?, afterStart?]
    | cons x s =>
      by_cases hx : c = x
      · simp [skipChar?, afterStart?, hx]
      · simp [skipChar?, afterStart?, hx, Ne.symm hx]

/-- Whether each run is followed by a character that is none of its class, or ends the form. -/
def Delimited : Form → Prop
  | [] => True
  | .mark _ :: f => Delimited f
  | .one _ :: f => Delimited f
  | .run ok _ :: f => (∀ part ∈ f.head?, ∃ c, part = .mark c ∧ ok c = false) ∧ Delimited f

/-- **Nothing is given back.**  Something is taken wherever anything can be read, and it is as long
in every group. -/
theorem Reads.exists_takes (hf : f.Delimited) (h : Reads f s groups rest) :
    ∃ taken rest', Takes f s taken rest' ∧ List.Forall₂ (· <+: ·) groups taken := by
  induction h with
  | nil => exact ⟨[], _, .nil, .nil⟩
  | mark _ ih =>
    obtain ⟨taken, rest', htakes, hlong⟩ := ih hf
    exact ⟨taken, rest', htakes.mark, hlong⟩
  | one hc _ ih =>
    obtain ⟨taken, rest', htakes, hlong⟩ := ih hf
    exact ⟨_, rest', htakes.one hc, .cons List.prefix_rfl hlong⟩
  | @run f ok least group s rest groups hleast hgroup h ih =>
    obtain ⟨hnext, hf⟩ := hf
    cases f with
    | nil =>
      -- the last run of a form is the only one that can be cut short
      obtain ⟨rfl, -⟩ : groups = [] ∧ rest = s := by
        cases h
        exact ⟨rfl, rfl⟩
      have hlong : group <+: (group ++ s).takeWhile ok := by
        rw [List.takeWhile_append_of_pos hgroup]
        exact List.prefix_append group _
      exact ⟨_, _, takes_run_iff.2 ⟨hleast.trans hlong.length_le, [], rfl, .nil⟩, .cons hlong .nil⟩
    | cons part f =>
      obtain ⟨c, rfl, hc⟩ := hnext part rfl
      obtain ⟨taken, rest', htakes, hlong⟩ := ih hf
      have hstop : ∀ x ∈ s.head?, ok x = false := by
        cases h with
        | mark => exact fun x hx => Option.some.inj hx ▸ hc
      exact ⟨_, rest', htakes.run hleast hgroup hstop, .cons List.prefix_rfl hlong⟩

end Form

/-! ### Patterns -/

namespace Pattern

variable {α : Type} {p : Pattern α} {f : Form} {groups : α → List (List Char)}

/-- The matches of a pattern are what is taken of a form, told by its groups. -/
structure HasForm (p : Pattern α) (f : Form) (groups : α → List (List Char)) : Prop where
  delimited : f.Delimited
  injective : groups.Injective
  takes_iff : ∀ {s : List Char} {taken : List (List Char)} {rest : List Char},
    f.Takes s taken rest ↔ ∃ a, p.match? s = some (a, rest) ∧ groups a = taken

namespace HasForm

variable {s rest : List Char} {a : α}

theorem match?_eq_some_iff (h : p.HasForm f groups) :
    p.match? s = some (a, rest) ↔ f.Takes s (groups a) rest := by
  rw [h.takes_iff]
  constructor
  · exact fun hm => ⟨a, hm, rfl⟩
  · rintro ⟨b, hm, hgroups⟩
    rwa [h.injective hgroups] at hm

/-- A pattern reads no match exactly where its form reads nothing. -/
theorem match?_eq_none_iff (h : p.HasForm f groups) :
    p.match? s = none ↔ ∀ read rest, ¬f.Reads s read rest := by
  constructor
  · intro hnone read rest hread
    obtain ⟨taken, rest', htakes, -⟩ := hread.exists_takes h.delimited
    obtain ⟨a, hm, -⟩ := h.takes_iff.1 htakes
    rw [hnone] at hm
    cases hm
  · intro hnone
    cases hm : p.match? s with
    | none => rfl
    | some m => exact absurd (h.match?_eq_some_iff.1 hm).reads (hnone _ _)

/-- Nothing else that can be read in the place of a match is longer in any group. -/
theorem forall₂_prefix (h : p.HasForm f groups) (hm : p.match? s = some (a, rest))
    {read : List (List Char)} {rest' : List Char} (hread : f.Reads s read rest') :
    List.Forall₂ (· <+: ·) read (groups a) := by
  obtain ⟨taken, _, htakes, hlong⟩ := hread.exists_takes h.delimited
  obtain ⟨b, hb, rfl⟩ := h.takes_iff.1 htakes
  rw [hm] at hb
  cases hb
  exact hlong

/-- The whole text of a match is a reference of the form. -/
theorem reads_text (h : p.HasForm f groups) (hm : p.match? s = some (a, rest)) :
    f.Reads (p.text a) (groups a) [] := by
  obtain ⟨text, hs, htext⟩ := (h.match?_eq_some_iff.1 hm).reads.exists_append
  rw [← p.text_append hm, List.append_left_inj] at hs
  rwa [hs]

end HasForm

end Pattern

/-! ### The forms of inclusions, triples and pairs -/

open Form

/-- An inclusion: a name without closing parentheses, in the place of the dots in "@file(...)". -/
def Inclusion.form : Form := opening.map .mark ++ [.run (· ≠ ')') 0, .mark ')']

def Inclusion.groups (i : Inclusion) : List (List Char) := [i.name]

/-- A triple: three runs of digits with points between them. -/
def Triple.form : Form :=
  [.run Char.isDigit 1, .mark '.', .run Char.isDigit 1, .mark '.', .run Char.isDigit 1]

def Triple.groups (t : Triple) : List (List Char) := [t.bank, t.register, t.address]

/-- A pair: a letter and a run of letters and digits, and after a point another one. -/
def Pair.form : Form :=
  [.one Char.isAlpha, .run isWordChar 1, .mark '.', .run isWordChar 1]

def Pair.groups (p : Pair) : List (List Char) := [[p.letter], p.bank, p.address]

theorem Inclusion.hasForm : Inclusion.pattern.HasForm form groups where
  delimited := by simp [Delimited, form, opening]
  injective := by
    rintro ⟨⟩ ⟨⟩ h
    cases h
    rfl
  takes_iff {s taken rest} := by
    simp only [form, takes_marks_iff, takes_cutFirst_iff, takes_nil_iff]
    constructor
    · rintro ⟨s₁, h₁, name, s₂, _, h₂, rfl, rfl, rfl⟩
      exact ⟨⟨name⟩, by simp [pattern, match?, h₁, h₂], rfl⟩
    · rintro ⟨i, hm, rfl⟩
      simp only [pattern, match?, Option.bind_eq_bind, Option.bind_eq_some_iff, Prod.exists] at hm
      obtain ⟨s₁, h₁, name, s₂, h₂, hi⟩ := hm
      cases hi
      exact ⟨s₁, h₁, name, rest, [], h₂, rfl, rfl, rfl⟩

theorem Triple.hasForm : Triple.pattern.HasForm form groups where
  delimited := by simp [Delimited, form]
  injective := by
    rintro ⟨⟩ ⟨⟩ h
    cases h
    rfl
  takes_iff {s taken rest} := by
    simp only [form, takes_takeRun_iff, takes_mark_iff, takes_nil_iff]
    constructor
    · rintro ⟨b, s₁, _, h₁, rfl, s₂, h₂, r, s₃, _, h₃, rfl, s₄, h₄, q, s₅, _, h₅, rfl, rfl, rfl⟩
      exact ⟨⟨b, r, q⟩, by simp [pattern, match?, h₁, h₂, h₃, h₄, h₅], rfl⟩
    · rintro ⟨t, hm, rfl⟩
      simp only [pattern, match?, Option.bind_eq_bind, Option.bind_eq_some_iff, Prod.exists] at hm
      obtain ⟨b, s₁, h₁, s₂, h₂, r, s₃, h₃, s₄, h₄, q, s₅, h₅, ht⟩ := hm
      cases ht
      exact ⟨b, s₁, _, h₁, rfl, s₂, h₂, r, s₃, _, h₃, rfl, s₄, h₄, q, rest, [], h₅, rfl, rfl, rfl⟩

theorem Pair.hasForm : Pair.pattern.HasForm form groups where
  delimited := by simp [Delimited, form]; decide
  injective := by
    rintro ⟨⟩ ⟨⟩ h
    cases h
    rfl
  takes_iff {s taken rest} := by
    simp only [form, takes_one_iff, takes_takeRun_iff, takes_mark_iff, takes_nil_iff]
    constructor
    · rintro ⟨c, s, _, rfl, hc, rfl, b, s₁, _, h₁, rfl, s₂, h₂, q, s₃, _, h₃, rfl, rfl, rfl⟩
      exact ⟨⟨c, b, q⟩, by simp [pattern, match?, hc, h₁, h₂, h₃], rfl⟩
    · rintro ⟨p, hm, rfl⟩
      cases s with
      | nil => cases hm
      | cons c s =>
        simp only [pattern, match?] at hm
        split at hm
        next hc =>
          simp only [Option.bind_eq_bind, Option.bind_eq_some_iff, Prod.exists] at hm
          obtain ⟨b, s₁, h₁, s₂, h₂, q, s₃, h₃, hp⟩ := hm
          cases hp
          exact ⟨c, s, _, rfl, hc, rfl, b, s₁, _, h₁, rfl, s₂, h₂, q, rest, [], h₃, rfl, rfl, rfl⟩
        next => cases hm

end Textbank
