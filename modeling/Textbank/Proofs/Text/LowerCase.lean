import Mathlib.Data.List.Basic
import Textbank.Text.LowerCase
/-!
# Lower case inside a text

Lower-casing goes character by character, but for the capital sigma: in the middle of a word it
becomes `σ`, at its end `ς`, and where a word ends is a matter of the text on both sides.  So the
lower case of a text need not occur in the lower case of a longer text that the text occurs in.

* `lowerBetween` : a text in lower case, as it stands between two others;
* `isSettled` : whether what is next to a capital sigma decides if it ends a word, so that nothing
  further away matters (`isSettled_iff`);
* `sigmasSettled` : whether a text decides this for all its capital sigmas;
* `infix_lowerCase_iff` : just these texts are found, in lower case, wherever they occur.
-/

namespace Textbank

/-! ### Lower case between two texts -/

/-- Whether a capital sigma that stands between two texts ends a word.  The text before it is given
from its last character on. -/
def endsWord (before after : List Char) : Bool := meetsCased before && !meetsCased after

/-- The lower case of a character that stands between two texts. -/
def lowerIn (before after : List Char) (c : Char) : List Char :=
  if c = 'Σ' then [if endsWord before after then 'ς' else 'σ'] else lowerChar c

/-- A text in lower case, as it stands between two texts. -/
def lowerBetween (before after : List Char) : List Char → List Char
  | [] => []
  | c :: rest => lowerIn before (rest ++ after) c ++ lowerBetween (c :: before) after rest

theorem lowerAfter_eq (before s : List Char) : lowerAfter before s = lowerBetween before [] s := by
  induction s generalizing before with
  | nil => rfl
  | cons c rest ih =>
    rw [lowerAfter, lowerBetween, ih, List.append_nil]
    rfl

theorem lowerCase_eq (s : List Char) : lowerCase s = lowerBetween [] [] s := lowerAfter_eq [] s

theorem lowerBetween_append (before after s t : List Char) :
    lowerBetween before after (s ++ t) =
      lowerBetween before (t ++ after) s ++ lowerBetween (s.reverse ++ before) after t := by
  induction s generalizing before with
  | nil => rfl
  | cons c s ih => simp [lowerBetween, ih]

/-- A text between two others is in lower case what lower case makes of it there. -/
theorem lowerBetween_infix_lowerCase (before s after : List Char) :
    lowerBetween before.reverse after s <:+: lowerCase (before ++ s ++ after) := by
  rw [lowerCase_eq, List.append_assoc, lowerBetween_append, lowerBetween_append]
  simp only [List.append_nil]
  exact ⟨_, _, List.append_assoc ..⟩

/-! ### What decides on a sigma -/

/-- The first character that counts when a cased letter is sought. -/
def firstCounting? (s : List Char) : Option Char := s.find? (!CharSet.caseIgnorable.has ·)

theorem meetsCased_append (s t : List Char) :
    meetsCased (s ++ t) = (firstCounting? s).elim (meetsCased t) CharSet.cased.has := by
  induction s with
  | nil => rfl
  | cons c s ih =>
    cases hc : CharSet.caseIgnorable.has c with
    | true => simpa [meetsCased, firstCounting?, hc] using ih
    | false => simp [meetsCased, firstCounting?, hc]

theorem meetsCased_eq (s : List Char) :
    meetsCased s = (firstCounting? s).elim false CharSet.cased.has := by
  have h := meetsCased_append s []
  rwa [List.append_nil] at h

/-- Whether what stands next to a capital sigma decides if it ends a word: either there is a
character that counts on both sides, or the one that there is decides by itself. -/
def isSettled (before after : List Char) : Bool :=
  match firstCounting? before, firstCounting? after with
  | some _, some _ => true
  | some c, none => !CharSet.cased.has c
  | none, some d => CharSet.cased.has d
  | none, none => false

theorem endsWord_append (before x after y : List Char) : endsWord (before ++ x) (after ++ y) =
    ((firstCounting? before).elim (meetsCased x) CharSet.cased.has &&
      !(firstCounting? after).elim (meetsCased y) CharSet.cased.has) := by
  rw [endsWord, meetsCased_append, meetsCased_append]

theorem endsWord_eq (before after : List Char) : endsWord before after =
    ((firstCounting? before).elim false CharSet.cased.has &&
      !(firstCounting? after).elim false CharSet.cased.has) := by
  rw [endsWord, meetsCased_eq, meetsCased_eq]

theorem endsWord_of_isSettled {before after : List Char} (h : isSettled before after = true)
    (x y : List Char) : endsWord (before ++ x) (after ++ y) = endsWord before after := by
  rw [endsWord_append, endsWord_eq]
  unfold isSettled at h
  split at h
  next c d hc hd => simp only [hc, hd, Option.elim_some]
  next c hc hd => simp [hc, hd, Bool.not_eq_true' _ ▸ h]
  next d hc hd => simp [hc, hd, h]
  next => cases h

/-- Where it is not decided, a letter on one of the sides makes a difference. -/
theorem endsWord_of_not_isSettled {before after : List Char} (h : isSettled before after = false) :
    endsWord before after = false ∧ endsWord (before ++ ['a']) after = true ∨
      endsWord before after = true ∧ endsWord before (after ++ ['a']) = false := by
  have hletter : meetsCased ['a'] = true := by decide
  have hleft := endsWord_append before ['a'] after []
  have hright := endsWord_append before [] after ['a']
  rw [List.append_nil] at hleft hright
  rw [hleft, hright, endsWord_eq, hletter, show meetsCased [] = false from rfl]
  unfold isSettled at h
  split at h
  next => cases h
  next c hc hd => simp [hc, hd, Bool.not_eq_false' _ ▸ h]
  next d hc hd => simp [hc, hd, h]
  next hc hd => simp [hc, hd]

/-! ### Texts that decide on all their sigmas -/

/-- Whether every capital sigma of `rest`, which stands after `before` (last character first), is
settled by what is next to it in these two texts. -/
def settledAfter (before : List Char) : List Char → Bool
  | [] => true
  | c :: rest => (c ≠ 'Σ' || isSettled before rest) && settledAfter (c :: before) rest

/-- Whether a text decides for all its capital sigmas if they end a word. -/
def sigmasSettled (s : List Char) : Bool := settledAfter [] s

theorem lowerBetween_of_settledAfter {before s : List Char} (h : settledAfter before s = true)
    (x y : List Char) : lowerBetween (before ++ x) y s = lowerBetween before [] s := by
  induction s generalizing before with
  | nil => rfl
  | cons c rest ih =>
    obtain ⟨hc, hrest⟩ := Bool.and_eq_true_iff.1 h
    have hin : lowerIn (before ++ x) (rest ++ y) c = lowerIn before rest c := by
      unfold lowerIn
      split
      next hsigma =>
        have hsettled : isSettled before rest = true := by simpa [hsigma] using hc
        rw [endsWord_of_isSettled hsettled]
      next => rfl
    have htail := ih hrest
    rw [List.cons_append] at htail
    rw [lowerBetween, lowerBetween, hin, htail, List.append_nil]

theorem exists_of_not_settledAfter {before s : List Char} (h : settledAfter before s = false) :
    ∃ u v, s = u ++ 'Σ' :: v ∧ isSettled (u.reverse ++ before) v = false := by
  induction s generalizing before with
  | nil => cases h
  | cons c rest ih =>
    rcases Bool.and_eq_false_iff.1 h with hc | hrest
    · obtain ⟨hsigma, hsettled⟩ := Bool.or_eq_false_iff.1 hc
      obtain rfl : c = 'Σ' := by simpa using hsigma
      exact ⟨[], rest, rfl, hsettled⟩
    · obtain ⟨u, v, rfl, hsettled⟩ := ih hrest
      exact ⟨c :: u, v, rfl, by simpa using hsettled⟩

/-! ### Texts that do not -/

section Widening

variable {before after before' after' : List Char}

/-- A place between two texts, and another one in which no fewer sigmas end a word. -/
def Widens (before after before' after' : List Char) : Prop :=
  ∀ u v, endsWord (u ++ before) (v ++ after) = true → endsWord (u ++ before') (v ++ after') = true

theorem count_lowerIn_le (h : endsWord before after = true → endsWord before' after' = true)
    (c : Char) :
    (lowerIn before after c).count 'ς' ≤ (lowerIn before' after' c).count 'ς' ∧
      (lowerIn before' after' c).count 'σ' ≤ (lowerIn before after c).count 'σ' := by
  unfold lowerIn
  split
  · cases hends : endsWord before after with
    | true => rw [h hends]; decide
    | false => cases endsWord before' after' <;> decide
  · exact ⟨Nat.le_refl _, Nat.le_refl _⟩

/-- In such a place there are no fewer final sigmas and no more of the others. -/
theorem count_lowerBetween_le (h : Widens before after before' after') (s : List Char) :
    (lowerBetween before after s).count 'ς' ≤ (lowerBetween before' after' s).count 'ς' ∧
      (lowerBetween before' after' s).count 'σ' ≤ (lowerBetween before after s).count 'σ' := by
  induction s generalizing before before' with
  | nil => exact ⟨Nat.le_refl 0, Nat.le_refl 0⟩
  | cons c rest ih =>
    have hwider : Widens (c :: before) after (c :: before') after' := fun u v => by
      simpa using h (u ++ [c]) v
    obtain ⟨hfinal, hmiddle⟩ := count_lowerIn_le (h [] rest) c
    obtain ⟨hfinals, hmiddles⟩ := ih hwider
    simp only [lowerBetween, List.count_append]
    exact ⟨Nat.add_le_add hfinal hfinals, Nat.add_le_add hmiddle hmiddles⟩

/-- If a sigma ends a word in the second place only, then the numbers differ. -/
theorem count_lowerBetween_lt (h : Widens before after before' after') {u v : List Char}
    (hends : endsWord (u.reverse ++ before) (v ++ after) = false)
    (hends' : endsWord (u.reverse ++ before') (v ++ after') = true) :
    (lowerBetween before after (u ++ 'Σ' :: v)).count 'ς' <
        (lowerBetween before' after' (u ++ 'Σ' :: v)).count 'ς' ∧
      (lowerBetween before' after' (u ++ 'Σ' :: v)).count 'σ' <
        (lowerBetween before after (u ++ 'Σ' :: v)).count 'σ' := by
  have hwideru : Widens before ('Σ' :: v ++ after) before' ('Σ' :: v ++ after') := fun x y => by
    simpa using h x (y ++ 'Σ' :: v)
  have hwiderv : Widens ('Σ' :: (u.reverse ++ before)) after
      ('Σ' :: (u.reverse ++ before')) after' := fun x y => by
    simpa using h (x ++ 'Σ' :: u.reverse) y
  obtain ⟨hfinalu, hmiddleu⟩ := count_lowerBetween_le hwideru u
  obtain ⟨hfinalv, hmiddlev⟩ := count_lowerBetween_le hwiderv v
  have hmiddle : lowerIn (u.reverse ++ before) (v ++ after) 'Σ' = ['σ'] := by
    rw [lowerIn, if_pos rfl, hends]
    rfl
  have hfinal : lowerIn (u.reverse ++ before') (v ++ after') 'Σ' = ['ς'] := by
    rw [lowerIn, if_pos rfl, hends']
    rfl
  have hsigma : ['σ'].count 'ς' = 0 ∧ ['ς'].count 'ς' = 1 ∧ ['σ'].count 'σ' = 1 ∧
      ['ς'].count 'σ' = 0 := by decide
  simp only [lowerBetween_append, lowerBetween, List.count_append, hmiddle, hfinal, hsigma]
  omega

end Widening

theorem widens_left : Widens [] [] ['a'] [] := fun u v h => by
  simp only [endsWord, List.append_nil, Bool.and_eq_true, meetsCased_append] at h ⊢
  refine ⟨?_, h.2⟩
  rw [meetsCased_eq] at h
  cases hu : firstCounting? u with
  | none => simp [hu] at h
  | some c => simpa [hu] using h.1

theorem widens_right : Widens [] ['a'] [] [] := fun u v h => by
  simp only [endsWord, List.append_nil, Bool.and_eq_true, meetsCased_append] at h ⊢
  refine ⟨h.1, ?_⟩
  rw [meetsCased_eq]
  cases hv : firstCounting? v with
  | none => rfl
  | some c => simpa [hv] using h.2

theorem mem_lowerCase_of_not_settled {s : List Char} (h : sigmasSettled s = false) :
    'σ' ∈ lowerCase s ∨ 'ς' ∈ lowerCase s := by
  obtain ⟨u, v, rfl, -⟩ := exists_of_not_settledAfter h
  rw [lowerCase_eq, lowerBetween_append, lowerBetween, lowerIn, if_pos rfl]
  cases endsWord (u.reverse ++ []) (v ++ []) <;> simp

theorem lowerIn_letter (before after : List Char) : lowerIn before after 'a' = ['a'] := by
  rw [lowerIn, if_neg (by decide)]
  decide

theorem lowerCase_letter_append (s : List Char) :
    lowerCase (['a'] ++ s ++ []) = 'a' :: lowerBetween ['a'] [] s := by
  rw [List.append_nil, lowerCase_eq, List.singleton_append, lowerBetween, lowerIn_letter]
  rfl

theorem lowerCase_append_letter (s : List Char) :
    lowerCase ([] ++ s ++ ['a']) = lowerBetween [] ['a'] s ++ ['a'] := by
  rw [List.nil_append, lowerCase_eq, lowerBetween_append, lowerBetween, lowerIn_letter]
  rfl

/-- A letter in front of a text or behind it makes the lower case of the text disappear, if the text
does not decide on its capital sigmas.  The number of sigmas of one kind is lower than it was. -/
theorem exists_not_infix_lowerCase {s : List Char} (h : sigmasSettled s = false) :
    ¬lowerCase s <:+: lowerCase (['a'] ++ s ++ []) ∨
      ¬lowerCase s <:+: lowerCase ([] ++ s ++ ['a']) := by
  obtain ⟨u, v, rfl, hsettled⟩ := exists_of_not_settledAfter h
  rw [List.append_nil] at hsettled
  rcases endsWord_of_not_isSettled hsettled with ⟨hends, hends'⟩ | ⟨hends, hends'⟩
  · refine Or.inl fun hoccurs => ?_
    have hlt := (count_lowerBetween_lt widens_left (u := u) (v := v) (by simpa using hends)
      (by simpa using hends')).2
    have hle := hoccurs.sublist.count_le 'σ'
    rw [lowerCase_letter_append, lowerCase_eq, List.count_cons_of_ne (by decide)] at hle
    omega
  · refine Or.inr fun hoccurs => ?_
    have hlt := (count_lowerBetween_lt widens_right (u := u) (v := v) (by simpa using hends')
      (by simpa using hends)).1
    have hle := hoccurs.sublist.count_le 'ς'
    rw [lowerCase_append_letter, lowerCase_eq, List.count_append,
      show ['a'].count 'ς' = 0 by decide] at hle
    omega

/-- **Lower case is found where it can be.**  The lower case of a text occurs in that of every text
that the text itself occurs in exactly if the text decides for all its capital sigmas whether they
end a word. -/
theorem infix_lowerCase_iff {s : List Char} :
    (∀ before after, lowerCase s <:+: lowerCase (before ++ s ++ after)) ↔
      sigmasSettled s = true := by
  constructor
  · intro h
    by_contra hnot
    rcases exists_not_infix_lowerCase (Bool.eq_false_iff.2 hnot) with hleft | hright
    · exact hleft (h _ _)
    · exact hright (h _ _)
  · intro h before after
    have hsame := lowerBetween_of_settledAfter h before.reverse after
    rw [lowerCase_eq, ← hsame]
    exact lowerBetween_infix_lowerCase before s after

end Textbank
