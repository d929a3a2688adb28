import Textbank.Numeral
import Mathlib.Data.List.Forall2
import Mathlib.Tactic.SplitIfs
/-!
# Numerals read back

Reading a written numeral gives the id it was written for, in every base, at every width and for
every id of the 64-bit range (`Numeral.decodeChars_encodeChars`).

* `valueFrom` is the meaning of a list of digits, most significant first;
* `IsDigit` says which characters are digits of a base, and `accumulate_append` what reading them
  does to a value already read;
* `digits` are the digits of a number (`valueFrom_digits`), and padding adds nothing to them;
* `alphabet` holds every character that a numeral is written with, so that a fact about the
  characters of numerals is a fact about the alphabet.
-/

namespace Textbank.Numeral

/-! ### The meaning of digits -/

/-- The number that digits stand for behind a number `n` already read. -/
def valueFrom (base n : Nat) (ds : List Nat) : Nat := ds.foldl (fun n d => n * base + d) n

@[simp] theorem valueFrom_nil (base n : Nat) : valueFrom base n [] = n := rfl

@[simp] theorem valueFrom_cons (base n d : Nat) (ds : List Nat) :
    valueFrom base n (d :: ds) = valueFrom base (n * base + d) ds := rfl

theorem valueFrom_append (base n : Nat) (ds es : List Nat) :
    valueFrom base n (ds ++ es) = valueFrom base (valueFrom base n ds) es :=
  List.foldl_append

theorem valueFrom_replicate_zero (base k : Nat) : valueFrom base 0 (List.replicate k 0) = 0 := by
  induction k with
  | zero => rfl
  | succ k ih => simpa [List.replicate_succ] using ih

/-- Further digits never make the number smaller. -/
theorem le_valueFrom {base : Nat} (n : Nat) {ds : List Nat} (h : ∀ d ∈ ds, d < base) :
    n ≤ valueFrom base n ds := by
  induction ds generalizing n with
  | nil => exact Nat.le_refl n
  | cons d ds ih =>
    have hbase : 1 ≤ base := Nat.one_le_of_lt (h d List.mem_cons_self)
    calc n ≤ n * base := Nat.le_mul_of_pos_right n hbase
      _ ≤ n * base + d := Nat.le_add_right _ _
      _ ≤ valueFrom base (n * base + d) ds := ih _ fun e he => h e (List.mem_cons_of_mem _ he)

theorem valueFrom_lt_valueFrom {base n m : Nat} (hbase : 0 < base) (h : n < m) (ds : List Nat) :
    valueFrom base n ds < valueFrom base m ds := by
  induction ds generalizing n m with
  | nil => exact h
  | cons d ds ih => exact ih (Nat.add_lt_add_right (Nat.mul_lt_mul_of_pos_right h hbase) d)

theorem digits_eq {base n : Nat} (hbase : 2 ≤ base) (hn : n ≠ 0) :
    digits base n = digits base (n / base) ++ [n % base] := by
  rw [digits, dif_neg (by omega)]

@[simp] theorem digits_zero (base : Nat) : digits base 0 = [] := by
  rw [digits, dif_pos (Or.inr rfl)]

theorem valueFrom_digits {base : Nat} (hbase : 2 ≤ base) (n : Nat) :
    valueFrom base 0 (digits base n) = n := by
  induction n using Nat.strongRecOn with
  | ind n ih =>
    by_cases hn : n = 0
    · subst hn; simp
    · have hlt : n / base < n := Nat.div_lt_self (by omega) (by omega)
      rw [digits_eq hbase hn, valueFrom_append, ih _ hlt]
      simp only [valueFrom_cons, valueFrom_nil]
      exact Nat.div_add_mod' n base

theorem lt_of_mem_digits {base : Nat} (hbase : 2 ≤ base) {n d : Nat} (h : d ∈ digits base n) :
    d < base := by
  induction n using Nat.strongRecOn with
  | ind n ih =>
    by_cases hn : n = 0
    · subst hn; simp at h
    · rw [digits_eq hbase hn] at h
      rcases List.mem_append.1 h with h | h
      · exact ih _ (Nat.div_lt_self (by omega) (by omega)) h
      · rw [List.mem_singleton.1 h]
        exact Nat.mod_lt _ (by omega)

/-! ### Digit characters -/

theorem digitValue?_digitChar : ∀ d < 36, digitValue? (digitChar d) = some d := by decide

theorem digitValue?_toLower (c : Char) : digitValue? c.toLower = digitValue? c := by
  have hupper : ∀ n < 91, digitValue? (Char.ofNat n).toLower = digitValue? (Char.ofNat n) := by
    decide
  by_cases hc : c.toNat ≤ 90
  · have := hupper c.toNat (by omega)
    rwa [Char.ofNat_toNat] at this
  · have hsame : c.toLower = c := dif_neg fun h => hc h.2
    rw [hsame]

theorem toLower_of_digitValue? {c : Char} {d : Nat} (h : digitValue? c = some d) :
    d < 36 ∧ c.toLower = digitChar d := by
  have hascii : ∀ n < 123, ∀ d ∈ digitValue? (Char.ofNat n),
      d < 36 ∧ (Char.ofNat n).toLower = digitChar d := by decide
  have hc : c.toNat < 123 := by
    unfold digitValue? at h
    split_ifs at h with hdigit hlower hupper
    · exact Nat.lt_of_le_of_lt hdigit.2 (by decide)
    · exact Nat.lt_of_le_of_lt hlower.2 (by decide)
    · exact Nat.lt_of_le_of_lt hupper.2 (by decide)
  have := hascii c.toNat hc d
  rw [Char.ofNat_toNat] at this
  exact this h

/-- Whether a character, in either case, is the digit of a base for a value. -/
def IsDigit (base : Nat) (c : Char) (d : Nat) : Prop := d < base ∧ d < 36 ∧ c.toLower = digitChar d

theorem digitOf?_eq_some_iff {base : Nat} {c : Char} {d : Nat} :
    digitOf? base c = some d ↔ IsDigit base c d := by
  rw [digitOf?, Option.filter_eq_some_iff, decide_eq_true_eq, IsDigit]
  constructor
  · rintro ⟨hvalue, hd⟩
    exact ⟨hd, toLower_of_digitValue? hvalue⟩
  · rintro ⟨hd, hlt, hlower⟩
    refine ⟨?_, hd⟩
    rw [← digitValue?_toLower, hlower, digitValue?_digitChar d hlt]

theorem isDigit_digitChar {base d : Nat} (hbase : base ≤ 36) (hd : d < base) :
    IsDigit base (digitChar d) d := by
  have hlower : ∀ d < 36, (digitChar d).toLower = digitChar d := by decide
  have hlt : d < 36 := by omega
  exact ⟨hd, hlt, hlower d hlt⟩

theorem lt_of_forall₂_isDigit {base : Nat} {cs : List Char} {ds : List Nat}
    (h : List.Forall₂ (IsDigit base) cs ds) : ∀ d ∈ ds, d < base := by
  induction h with
  | nil => exact nofun
  | cons hd _ ih => exact List.forall_mem_cons.2 ⟨hd.1, ih⟩

theorem digitChar_ne_minus : ∀ d < 36, digitChar d ≠ '-' := by decide

/-! ### Written digits -/

/-- The digits of a number padded with zeros to a width, and to one digit at least. -/
def paddedDigits (base width n : Nat) : List Nat :=
  List.replicate (max width 1 - (digits base n).length) 0 ++ digits base n

theorem encodeNat_eq (base width n : Nat) :
    encodeNat base width n = (paddedDigits base width n).map digitChar := by
  simp [encodeNat, paddedDigits, show digitChar 0 = '0' from rfl]

theorem paddedDigits_ne_nil (base width n : Nat) : paddedDigits base width n ≠ [] := by
  intro h
  have := congrArg List.length h
  simp only [paddedDigits, List.length_append, List.length_replicate, List.length_nil] at this
  omega

theorem valueFrom_paddedDigits {base : Nat} (hbase : 2 ≤ base) (width n : Nat) :
    valueFrom base 0 (paddedDigits base width n) = n := by
  rw [paddedDigits, valueFrom_append, valueFrom_replicate_zero, valueFrom_digits hbase]

theorem lt_of_mem_paddedDigits {base width n d : Nat} (hbase : 2 ≤ base)
    (h : d ∈ paddedDigits base width n) : d < base := by
  rcases List.mem_append.1 h with h | h
  · rw [List.eq_of_mem_replicate h]; omega
  · exact lt_of_mem_digits hbase h

/-- The base that numerals are written in: ten in place of one that no numeral is written in. -/
def writtenBase (base : Nat) : Nat := if ValidBase base then base else 10

theorem validBase_writtenBase (base : Nat) : ValidBase (writtenBase base) := by
  unfold writtenBase
  split_ifs with h
  · exact h
  · decide

theorem writtenBase_eq {base : Nat} (h : ValidBase base) : writtenBase base = base := if_pos h

theorem encodeChars_eq (base width : Nat) (v : Int64) :
    encodeChars base width v = (if v < 0 then ['-'] else []) ++
      (paddedDigits (writtenBase base) width v.toInt.natAbs).map digitChar := by
  simp only [encodeChars, writtenBase, encodeNat_eq]

theorem encodeChars_ne_nil (base width : Nat) (v : Int64) : encodeChars base width v ≠ [] := by
  rw [encodeChars_eq]
  simp [paddedDigits_ne_nil]

/-- The characters that numerals are written with. -/
def alphabet : List Char := '-' :: (List.range 36).map digitChar

theorem forall_mem_alphabet {p : Char → Prop} (hsign : p '-') (hdigit : ∀ d < 36, p (digitChar d)) :
    ∀ c ∈ alphabet, p c := by
  intro c hc
  rcases List.mem_cons.1 hc with rfl | hc
  · exact hsign
  · obtain ⟨d, hd, rfl⟩ := List.mem_map.1 hc
    exact hdigit d (List.mem_range.1 hd)

/-- A numeral is written with digits of its base, and a sign. -/
theorem mem_encodeChars {base width : Nat} {v : Int64} {c : Char}
    (h : c ∈ encodeChars base width v) : c = '-' ∨ ∃ d < writtenBase base, c = digitChar d := by
  have hbase := validBase_writtenBase base
  rw [encodeChars_eq] at h
  rcases List.mem_append.1 h with h | h
  · split_ifs at h
    · exact Or.inl (List.mem_singleton.1 h)
    · cases h
  · obtain ⟨d, hd, rfl⟩ := List.mem_map.1 h
    exact Or.inr ⟨d, lt_of_mem_paddedDigits hbase.1 hd, rfl⟩

theorem mem_alphabet_of_mem_encodeChars {base width : Nat} {v : Int64} {c : Char}
    (h : c ∈ encodeChars base width v) : c ∈ alphabet := by
  rcases mem_encodeChars h with rfl | ⟨d, hd, rfl⟩
  · exact List.mem_cons_self
  · have hlt : d < 36 := Nat.lt_of_lt_of_le hd (validBase_writtenBase base).2
    exact List.mem_cons_of_mem _ (List.mem_map_of_mem (List.mem_range.2 hlt))

/-! ### Reading -/

/-- The sign that an id is written with. -/
def signOf (v : Int64) : Int := if v < 0 then -1 else 1

theorem signOf_eq (v : Int64) : signOf v = 1 ∨ signOf v = -1 := by
  unfold signOf
  split_ifs
  · exact Or.inr rfl
  · exact Or.inl rfl

theorem signOf_mul_natAbs (v : Int64) : signOf v * (v.toInt.natAbs : Nat) = v.toInt := by
  unfold signOf
  split_ifs with h <;> rw [Int64.lt_iff_toInt_lt, Int64.toInt_zero] at h <;> omega

/-- The range of ids holds everything between zero and an id of it. -/
theorem InRange.of_le {sign : Int} (hsign : sign = 1 ∨ sign = -1) {m n : Nat} (hmn : m ≤ n)
    (h : InRange (sign * n)) : InRange (sign * m) := by
  simp only [InRange, Int64.toInt_minValue, Int64.toInt_maxValue] at h ⊢
  rcases hsign with rfl | rfl <;> omega

/-- Reading goes on behind digits with the number that they stand for, if that is in range. -/
theorem accumulate_append {base : Nat} {sign : Int} (hsign : sign = 1 ∨ sign = -1)
    {cs : List Char} {ds : List Nat} (hds : List.Forall₂ (IsDigit base) cs ds) {n : Nat}
    (hn : InRange (sign * n)) (rest : List Char) :
    accumulate base sign (sign * n) (cs ++ rest) =
      if InRange (sign * valueFrom base n ds) then
        accumulate base sign (sign * valueFrom base n ds) rest
      else .error .outOfRange := by
  induction hds generalizing n with
  | nil => rw [List.nil_append, valueFrom_nil, if_pos hn]
  | @cons c d cs ds hd hds ih =>
    have hnext : sign * n * base + sign * d = sign * (n * base + d : Nat) := by
      rw [Int.natCast_add, Int.natCast_mul, Int.mul_add, Int.mul_assoc]
    rw [valueFrom_cons]
    simp only [List.cons_append, accumulate, digitOf?_eq_some_iff.2 hd, hnext]
    by_cases hin : InRange (sign * (n * base + d : Nat))
    · rw [if_pos hin, ih hin]
    · -- further digits never bring the value back into the range
      have hlast : ¬InRange (sign * valueFrom base (n * base + d) ds) := fun h =>
        hin (.of_le hsign (le_valueFrom _ (lt_of_forall₂_isDigit hds)) h)
      rw [if_neg hin, if_neg hlast]

theorem inRange_zero (sign : Int) : InRange (sign * (0 : Nat)) := by
  rw [Int.natCast_zero, Int.mul_zero]
  decide

theorem accumulate_map_digitChar {base : Nat} (hbase : base ≤ 36) {sign : Int}
    (hsign : sign = 1 ∨ sign = -1) {ds : List Nat} (hds : ∀ d ∈ ds, d < base)
    (h : InRange (sign * valueFrom base 0 ds)) :
    accumulate base sign 0 (ds.map digitChar) = .ok (sign * valueFrom base 0 ds) := by
  have hdigits : List.Forall₂ (IsDigit base) (ds.map digitChar) ds :=
    List.forall₂_map_left_iff.2 (List.forall₂_same.2 fun d hd =>
      isDigit_digitChar hbase (hds d hd))
  have hread := accumulate_append hsign hdigits (inRange_zero sign) []
  rw [if_pos h, List.append_nil, Int.natCast_zero, Int.mul_zero] at hread
  exact hread

/-- A sign that stands before digits is told from them. -/
theorem splitSign_digits {ds : List Nat} (h : ∀ d ∈ ds, d < 36) :
    splitSign (ds.map digitChar) = (1, ds.map digitChar) := by
  cases ds with
  | nil => rfl
  | cons d ds =>
    have hd := digitChar_ne_minus d (h d List.mem_cons_self)
    simp only [List.map_cons, splitSign]
    split
    next heq => exact absurd (List.cons.inj heq).1 hd
    next => rfl

theorem splitSign_encodeChars (base width : Nat) (v : Int64) :
    splitSign (encodeChars base width v) = (signOf v,
      (paddedDigits (writtenBase base) width v.toInt.natAbs).map digitChar) := by
  have hbase := validBase_writtenBase base
  rw [encodeChars_eq, signOf]
  split_ifs with h
  · rfl
  · refine splitSign_digits fun d hd => ?_
    exact Nat.lt_of_lt_of_le (lt_of_mem_paddedDigits hbase.1 hd) hbase.2

/-- **A written numeral reads back as its id**, whatever the base and the width. -/
theorem decodeChars_encodeChars {base : Nat} (hbase : ValidBase base) (width : Nat) (v : Int64) :
    decodeChars base (encodeChars base width v) = .ok v := by
  have hne : (paddedDigits base width v.toInt.natAbs).map digitChar ≠ [] := by
    simp [paddedDigits_ne_nil]
  have hvalue := valueFrom_paddedDigits hbase.1 width v.toInt.natAbs
  have hrange : InRange (signOf v * valueFrom base 0 (paddedDigits base width v.toInt.natAbs)) := by
    rw [hvalue, signOf_mul_natAbs]
    exact ⟨v.minValue_le_toInt, v.toInt_le⟩
  have hread := accumulate_map_digitChar hbase.2 (signOf_eq v)
    (fun d hd => lt_of_mem_paddedDigits hbase.1 hd) hrange
  rw [hvalue, signOf_mul_natAbs] at hread
  simp only [decodeChars, splitSign_encodeChars, writtenBase_eq hbase, if_neg hne, hread,
    Int64.ofInt_toInt]

/-- Numerals of one width tell ids apart. -/
theorem encodeChars_injective {base : Nat} (hbase : ValidBase base) {width : Nat} {v w : Int64}
    (h : encodeChars base width v = encodeChars base width w) : v = w := by
  have := decodeChars_encodeChars hbase width v
  rw [h, decodeChars_encodeChars hbase width w] at this
  exact (Except.ok.inj this).symm

/-! ### Numerals that lost their first digit -/

theorem decodeChars_map_digitChar {base : Nat} (hbase : ValidBase base) {ds : List Nat}
    (hne : ds ≠ []) (hds : ∀ d ∈ ds, d < base) (hrange : InRange (valueFrom base 0 ds)) :
    decodeChars base (ds.map digitChar) = .ok (.ofInt (valueFrom base 0 ds)) := by
  have hsign : splitSign (ds.map digitChar) = (1, ds.map digitChar) :=
    splitSign_digits fun d hd => Nat.lt_of_lt_of_le (hds d hd) hbase.2
  have hread := accumulate_map_digitChar hbase.2 (Or.inl rfl) hds (by rwa [Int.one_mul])
  rw [Int.one_mul] at hread
  simp only [decodeChars, hsign, List.map_eq_nil_iff, if_neg hne, hread]

/-- Without its first digit, if that is not zero, a numeral is the one of a lower id, or nothing is
left of it. -/
theorem decodeChars_of_encodeChars_eq_cons {base width : Nat} (hbase : ValidBase base) {v : Int64}
    {c : Char} {rest : List Char} (hsign : c ≠ '-') (hzero : c ≠ '0')
    (h : encodeChars base width v = c :: rest) :
    decodeChars base rest = .error .empty ∨ ∃ w < v, decodeChars base rest = .ok w := by
  have hnonneg : ¬v < 0 := by
    intro hneg
    rw [encodeChars_eq, if_pos hneg] at h
    exact hsign (List.cons.inj h).1.symm
  rw [encodeChars_eq, if_neg hnonneg, List.nil_append, writtenBase_eq hbase] at h
  obtain ⟨d, ds, hdigits, rfl, rfl⟩ := List.map_eq_cons_iff.1 h
  have hvalue := valueFrom_paddedDigits hbase.1 width v.toInt.natAbs
  have hlt : ∀ e ∈ d :: ds, e < base := fun e he =>
    lt_of_mem_paddedDigits hbase.1 (hdigits ▸ he)
  rw [hdigits, valueFrom_cons] at hvalue
  cases ds with
  | nil => exact Or.inl rfl
  | cons e es =>
    have hd : 0 < d := Nat.pos_of_ne_zero fun hd => hzero (by rw [hd]; rfl)
    have hless : valueFrom base 0 (e :: es) < v.toInt.natAbs := by
      rw [← hvalue]
      exact valueFrom_lt_valueFrom (Nat.lt_of_lt_of_le Nat.two_pos hbase.1) (by omega) (e :: es)
    have hbelow : (valueFrom base 0 (e :: es) : Int) < v.toInt := by
      rw [Int64.lt_iff_toInt_lt, Int64.toInt_zero] at hnonneg
      omega
    have hmax : v.toInt < 2 ^ 63 := v.toInt_lt
    have hrange : InRange (valueFrom base 0 (e :: es)) := by
      simp only [InRange, Int64.toInt_minValue, Int64.toInt_maxValue]
      omega
    refine Or.inr ⟨.ofInt (valueFrom base 0 (e :: es)), ?_, decodeChars_map_digitChar hbase
      (List.cons_ne_nil e es) (fun x hx => hlt x (List.mem_cons_of_mem d hx)) hrange⟩
    rw [Int64.lt_iff_toInt_lt, Int64.toInt_ofInt_of_le (by omega) (by omega)]
    exact hbelow

end Textbank.Numeral
