import Mathlib.Data.Nat.Digits.Lemmas
import Textbank.Proofs.Numeral
/-!
# Which tokens are numerals

A token is a minus or nothing, and a body.  It is a numeral of a base if its body consists of digits
of the base, one at least, whose positional value with the sign is an id.  Any other token has a
first fault from the left: no body, a character that is no digit, or digits that leave the range of
ids.  What follows this fault does not count, since further digits never lead back into the range.

* `Spells` : the number that characters stand for as digits of a base;
* `Parts` : the sign and the body of a token;
* `Answer` : what reading a token gives, one rule for numerals and one for each kind of fault;
* `decode_exact` : reading follows these rules, in every base.
-/

namespace Textbank.Numeral

open List (Forall₂)

/-! ### Positional values -/

theorem valueFrom_zero (base : Nat) (ds : List Nat) :
    valueFrom base 0 ds = Nat.ofDigits base ds.reverse := by
  rw [Nat.ofDigits_eq_foldr, List.foldr_reverse, valueFrom]
  refine congrArg (List.foldl · 0 ds) (funext fun n => funext fun d => ?_)
  rw [Nat.cast_id, Nat.mul_comm, Nat.add_comm]

/-- Characters are the digits of a number in a base, the most significant first. -/
def Spells (base : Nat) (cs : List Char) (n : Nat) : Prop :=
  ∃ ds, Forall₂ (IsDigit base) cs ds ∧ Nat.ofDigits base ds.reverse = n

variable {base : Nat} {cs : List Char}

theorem spells_nil_iff {n : Nat} : Spells base [] n ↔ n = 0 := by
  simp [Spells, eq_comm]

theorem Spells.exists_cons {c : Char} {d n : Nat} (hd : IsDigit base c d) (h : Spells base cs n) :
    ∃ m, Spells base (c :: cs) m := by
  obtain ⟨ds, hds, -⟩ := h
  exact ⟨_, d :: ds, .cons hd hds, rfl⟩

/-- Characters spell a number up to the first one that is no digit. -/
theorem spells_or_exists_first (base : Nat) (cs : List Char) :
    (∃ n, Spells base cs n) ∨
    ∃ before c after n, cs = before ++ c :: after ∧ Spells base before n ∧
      ∀ d, ¬IsDigit base c d := by
  induction cs with
  | nil => exact Or.inl ⟨0, spells_nil_iff.2 rfl⟩
  | cons x cs ih =>
    by_cases hx : ∃ d, IsDigit base x d
    · obtain ⟨d, hd⟩ := hx
      rcases ih with ⟨n, hspells⟩ | ⟨before, c, after, n, rfl, hspells, hc⟩
      · exact Or.inl (hspells.exists_cons hd)
      · obtain ⟨m, hbefore⟩ := hspells.exists_cons hd
        exact Or.inr ⟨x :: before, c, after, m, rfl, hbefore, hc⟩
    · exact Or.inr ⟨[], x, cs, 0, rfl, spells_nil_iff.2 rfl, not_exists.1 hx⟩

/-- Reading goes on behind digits with the signed number that they spell, if it is in range. -/
theorem accumulate_of_spells {sign : Int} (hsign : sign = 1 ∨ sign = -1) {n : Nat}
    (h : Spells base cs n) (rest : List Char) :
    accumulate base sign 0 (cs ++ rest) =
      if InRange (sign * n) then accumulate base sign (sign * n) rest else .error .outOfRange := by
  obtain ⟨ds, hds, rfl⟩ := h
  have hread := accumulate_append hsign hds (inRange_zero sign) rest
  rw [Int.natCast_zero, Int.mul_zero, valueFrom_zero] at hread
  exact hread

/-! ### Parts of a token -/

/-- The sign and the body of a token. -/
inductive Parts : List Char → Int → List Char → Prop
  | minus (body : List Char) : Parts ('-' :: body) (-1) body
  | plain {body : List Char} (h : body.head? ≠ some '-') : Parts body 1 body

variable {token body : List Char} {sign : Int}

theorem exists_parts (token : List Char) : ∃ sign body, Parts token sign body := by
  by_cases hhead : token.head? = some '-'
  · obtain ⟨body, rfl⟩ := List.head?_eq_some_iff.1 hhead
    exact ⟨-1, body, .minus body⟩
  · exact ⟨1, token, .plain hhead⟩

theorem Parts.splitSign_eq (h : Parts token sign body) : splitSign token = (sign, body) := by
  cases h with
  | minus => rfl
  | plain hhead =>
    unfold splitSign
    split
    next => exact absurd rfl hhead
    next => rfl

theorem Parts.sign_eq (h : Parts token sign body) : sign = 1 ∨ sign = -1 := by
  cases h with
  | minus => exact Or.inr rfl
  | plain => exact Or.inl rfl

/-! ### Answers -/

/-- What reading a token in a base gives. -/
inductive Answer (base : Nat) (token : List Char) : Except Fault Int64 → Prop
  /-- The body spells a number, which with the sign is an id. -/
  | value {sign : Int} {body : List Char} {n : Nat} {v : Int64} (hparts : Parts token sign body)
      (hbody : body ≠ []) (hspells : Spells base body n) (hv : v.toInt = sign * n) :
      Answer base token (.ok v)
  /-- There is no body. -/
  | empty {sign : Int} (hparts : Parts token sign []) : Answer base token (.error .empty)
  /-- The body has a character that is no digit, and what the digits before it spell is still in
  range. -/
  | invalidDigit {sign : Int} {before after : List Char} {c : Char} {n : Nat}
      (hparts : Parts token sign (before ++ c :: after)) (hspells : Spells base before n)
      (hrange : InRange (sign * n)) (hc : ∀ d, ¬IsDigit base c d) :
      Answer base token (.error (.invalidDigit c base))
  /-- What the first digits of the body spell is out of range. -/
  | overflow {sign : Int} {before after : List Char} {n : Nat}
      (hparts : Parts token sign (before ++ after)) (hspells : Spells base before n)
      (hrange : ¬InRange (sign * n)) : Answer base token (.error (.overflow (.ofList token)))

theorem digitOf?_eq_none_iff {c : Char} : digitOf? base c = none ↔ ∀ d, ¬IsDigit base c d := by
  simp only [Option.eq_none_iff_forall_ne_some, ne_eq, digitOf?_eq_some_iff]

/-- A rule of `Answer` gives what reading gives. -/
theorem Answer.decodeChars_eq {answer : Except Fault Int64} (h : Answer base token answer) :
    decodeChars base token = answer := by
  cases h with
  | @value sign body n v hparts hbody hspells hv =>
    have hread := accumulate_of_spells hparts.sign_eq hspells []
    rw [← hv, if_pos ⟨v.minValue_le_toInt, v.toInt_le⟩, List.append_nil] at hread
    simp only [decodeChars, hparts.splitSign_eq, if_neg hbody, hread, accumulate, Int64.ofInt_toInt]
  | empty hparts => simp only [decodeChars, hparts.splitSign_eq, if_true]
  | @invalidDigit sign before after c n hparts hspells hrange hc =>
    have hbody : before ++ c :: after ≠ [] :=
      List.append_ne_nil_of_right_ne_nil _ (List.cons_ne_nil c after)
    have hread := accumulate_of_spells hparts.sign_eq hspells (c :: after)
    rw [if_pos hrange] at hread
    simp only [decodeChars, hparts.splitSign_eq, if_neg hbody, hread, accumulate,
      digitOf?_eq_none_iff.2 hc]
  | @overflow sign before after n hparts hspells hrange =>
    have hbody : before ++ after ≠ [] := by
      intro hnil
      rw [(List.append_eq_nil_iff.1 hnil).1, spells_nil_iff] at hspells
      exact hrange (hspells ▸ inRange_zero sign)
    have hread := accumulate_of_spells hparts.sign_eq hspells after
    rw [if_neg hrange] at hread
    simp only [decodeChars, hparts.splitSign_eq, if_neg hbody, hread]

theorem InRange.toInt_ofInt {v : Int} (h : InRange v) : (Int64.ofInt v).toInt = v := by
  obtain ⟨hmin, hmax⟩ := h
  rw [Int64.toInt_minValue] at hmin
  rw [Int64.toInt_maxValue] at hmax
  exact Int64.toInt_ofInt_of_le hmin (by omega)

/-- There is a rule for every token. -/
theorem answer_decodeChars (base : Nat) (token : List Char) :
    Answer base token (decodeChars base token) := by
  -- a rule that is found is the one that reading follows
  have hanswer : ∃ answer, Answer base token answer := by
    obtain ⟨sign, body, hparts⟩ := exists_parts token
    by_cases hbody : body = []
    · subst hbody
      exact ⟨_, .empty hparts⟩
    · rcases spells_or_exists_first base body with
        ⟨n, hspells⟩ | ⟨before, c, after, n, rfl, hspells, hc⟩
      · by_cases hrange : InRange (sign * n)
        · exact ⟨_, .value hparts hbody hspells hrange.toInt_ofInt⟩
        · have hall : Parts token sign (body ++ []) := by rwa [List.append_nil]
          exact ⟨_, .overflow hall hspells hrange⟩
      · by_cases hrange : InRange (sign * n)
        · exact ⟨_, .invalidDigit hparts hspells hrange hc⟩
        · exact ⟨_, .overflow hparts hspells hrange⟩
  obtain ⟨answer, hanswer⟩ := hanswer
  rwa [hanswer.decodeChars_eq]

/-- **Reading is exact.**  In every base, reading a token gives an answer exactly if a rule does: an
id if the token is an optional minus and digits of the base, one at least, that spell this id; the
empty numeral if nothing follows the optional minus; the first character that is no digit, if what
the digits before it spell is in range; and else an overflow. -/
theorem decode_exact (base : Nat) (token : String) (answer : Except Fault Int64) :
    decode base token = answer ↔ Answer base token.toList answer := by
  constructor
  · rintro rfl
    exact answer_decodeChars base token.toList
  · exact Answer.decodeChars_eq

/-- The fault that comes first counts, here digits that leave the range. -/
example : decode 10 "9223372036854775808!" = .error (.overflow "9223372036854775808!") := by
  decide +kernel

end Textbank.Numeral
