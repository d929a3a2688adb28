import Textbank.Proofs.Numeral.Positional
/-!
# One numeral for each id

An id has many numerals: letters may be in either case, zeros may stand in front, and zero may have
a minus.  Writing picks one of them for each width.  Without padding it is the one that is left when
none of this freedom is used.

* `digits_eq_reverse` : the digits that are written are those of `Nat.digits`;
* `digits_valueFrom` : they are the digits that were read, without leading zeros;
* `canonical` : a token in lower case, without leading zeros and without a minus at zero;
* `encode_canonical` : what is written at each width, and that writing what a token is read as gives
  the canonical form of the token.
-/

namespace Textbank.Numeral

open List (Forall₂)

/-! ### Digits that are written -/

section Digits

variable {base : Nat} {ds : List Nat}

theorem digits_eq_reverse (hbase : 2 ≤ base) (n : Nat) :
    digits base n = (Nat.digits base n).reverse := by
  induction n using Nat.strongRecOn with
  | ind n ih =>
    by_cases hn : n = 0
    · subst hn
      simp
    · rw [digits_eq hbase hn, ih _ (Nat.div_lt_self (by omega) (by omega)),
        Nat.digits_def' hbase (Nat.pos_of_ne_zero hn), List.reverse_cons]

theorem length_paddedDigits (hbase : 2 ≤ base) (width n : Nat) :
    (paddedDigits base width n).length = max (max width (Nat.digits base n).length) 1 := by
  rw [paddedDigits, List.length_append, List.length_replicate, digits_eq_reverse hbase,
    List.length_reverse]
  omega

theorem valueFrom_dropWhile_zero (base : Nat) (ds : List Nat) :
    valueFrom base 0 (ds.dropWhile (· = 0)) = valueFrom base 0 ds := by
  induction ds with
  | nil => rfl
  | cons d ds ih =>
    by_cases hd : d = 0
    · subst hd
      simpa using ih
    · simp [hd]

/-- Digits that are read are written again, without leading zeros. -/
theorem digits_valueFrom (hbase : 2 ≤ base) (hds : ∀ d ∈ ds, d < base) :
    digits base (valueFrom base 0 ds) = ds.dropWhile (· = 0) := by
  have hrest : ∀ d ∈ (ds.dropWhile (· = 0)).reverse, d < base := fun d hd =>
    hds d ((List.dropWhile_sublist _).subset (List.mem_reverse.1 hd))
  have hfirst : ∀ h : (ds.dropWhile (· = 0)).reverse ≠ [],
      (ds.dropWhile (· = 0)).reverse.getLast h ≠ 0 := by
    intro h
    rw [List.getLast_reverse]
    exact of_decide_eq_false (List.head_dropWhile_not (· = 0) (List.reverse_ne_nil_iff.1 h))
  rw [← valueFrom_dropWhile_zero, valueFrom_zero, digits_eq_reverse hbase,
    Nat.digits_ofDigits base hbase _ hrest hfirst, List.reverse_reverse]

/-- Without padding, zero is written as one digit, and nothing but a sign stands before other
digits. -/
theorem encodeChars_unpadded (hbase : ValidBase base) (v : Int64) :
    encodeChars base 0 v =
      let ds := (digits base v.toInt.natAbs).map digitChar
      if ds = [] then ['0'] else if v < 0 then '-' :: ds else ds := by
  rw [encodeChars_eq, writtenBase_eq hbase, paddedDigits]
  by_cases hds : digits base v.toInt.natAbs = []
  · have hzero : v.toInt.natAbs = 0 := by rw [← valueFrom_digits hbase.1 v.toInt.natAbs, hds]; rfl
    have hnonneg : ¬v < 0 := by rw [Int64.lt_iff_toInt_lt, Int64.toInt_zero]; omega
    rw [hds, if_neg hnonneg]
    rfl
  · have hpadding : max 0 1 - (digits base v.toInt.natAbs).length = 0 := by
      have := List.length_pos_iff.2 hds
      omega
    simp only [hpadding, List.replicate_zero, List.nil_append, List.map_eq_nil_iff, if_neg hds]
    split <;> rfl

theorem map_toLower {cs : List Char} (h : Forall₂ (IsDigit base) cs ds) :
    cs.map Char.toLower = ds.map digitChar := by
  induction h with
  | nil => rfl
  | cons hd _ ih => rw [List.map_cons, List.map_cons, hd.2.2, ih]

theorem dropWhile_map_digitChar (hds : ∀ d ∈ ds, d < 36) :
    (ds.map digitChar).dropWhile (· = '0') = (ds.dropWhile (· = 0)).map digitChar := by
  have hzero : ∀ d < 36, digitChar d = '0' ↔ d = 0 := by decide
  induction ds with
  | nil => rfl
  | cons d ds ih =>
    obtain ⟨hd, hrest⟩ := List.forall_mem_cons.1 hds
    by_cases h : d = 0
    · subst h
      exact ih hrest
    · have hd' := (hzero d hd).not.2 h
      simp [h, hd']

end Digits

/-! ### Canonical tokens -/

/-- A token in lower case, without leading zeros and without a minus at zero. -/
def canonicalChars (token : List Char) : List Char :=
  let (sign, body) := splitSign token
  let ds := (body.map Char.toLower).dropWhile (· = '0')
  if ds = [] then ['0'] else if sign < 0 then '-' :: ds else ds

/-- The canonical form of a token, as a string. -/
def canonical (token : String) : String := .ofList (canonicalChars token.toList)

/-- Writing what a token is read as gives its canonical form. -/
theorem encodeChars_of_decodeChars {base : Nat} (hbase : ValidBase base) {token : List Char}
    {v : Int64} (h : decodeChars base token = .ok v) :
    encodeChars base 0 v = canonicalChars token := by
  have hanswer := answer_decodeChars base token
  rw [h] at hanswer
  cases hanswer with
  | @value sign body n v hparts hbody hspells hv =>
    obtain ⟨ds, hds, hn⟩ := hspells
    have hlt := lt_of_forall₂_isDigit hds
    have habs : v.toInt.natAbs = n := by
      rcases hparts.sign_eq with rfl | rfl <;> omega
    have hdigits : (body.map Char.toLower).dropWhile (· = '0') =
        (digits base v.toInt.natAbs).map digitChar := by
      rw [map_toLower hds, dropWhile_map_digitChar fun d hd => (hlt d hd).trans_le hbase.2,
        habs, ← hn, ← valueFrom_zero, digits_valueFrom hbase.1 hlt]
    have hneg : (digits base v.toInt.natAbs).map digitChar ≠ [] → (v < 0 ↔ sign < 0) := by
      intro hne
      have hn : n ≠ 0 := fun hn => hne (by rw [habs, hn, digits_zero, List.map_nil])
      rw [Int64.lt_iff_toInt_lt, Int64.toInt_zero, hv]
      rcases hparts.sign_eq with rfl | rfl <;> omega
    rw [encodeChars_unpadded hbase]
    simp only [canonicalChars, hparts.splitSign_eq, hdigits]
    split
    next => rfl
    next hne => simp only [hneg hne]

/-- **Numerals are padded, and one of them is canonical.**  In every base that numerals are written
in, the numeral of an id is a minus exactly if the id is negative, and then as many digits in lower
case as the width asks for or the number has, one at least; it is read as the id.  A token that is
read as an id has for its canonical form the numeral of this id at width zero, so that two tokens
are read as one id exactly if they have one canonical form. -/
theorem encode_canonical {base : Nat} (hbase : ValidBase base) :
    (∀ (width : Nat) (v : Int64),
      (∃ ds : List Nat, (∀ d ∈ ds, d < base) ∧
        ds.length = max (max width (Nat.digits base v.toInt.natAbs).length) 1 ∧
        encode base width v = .ofList ((if v < 0 then ['-'] else []) ++ ds.map digitChar)) ∧
      decode base (encode base width v) = .ok v) ∧
    ∀ token v, decode base token = .ok v →
      encode base 0 v = canonical token ∧
      ∀ token' v', decode base token' = .ok v' → (v' = v ↔ canonical token' = canonical token) := by
  have hcanonical : ∀ token v, decode base token = .ok v → encode base 0 v = canonical token :=
    fun token v h => congrArg String.ofList (encodeChars_of_decodeChars hbase h)
  refine ⟨fun width v => ⟨?_, ?_⟩, fun token v h => ⟨hcanonical token v h, fun token' v' h' => ?_⟩⟩
  · refine ⟨paddedDigits base width v.toInt.natAbs, fun d hd => lt_of_mem_paddedDigits hbase.1 hd,
      length_paddedDigits hbase.1 width _, ?_⟩
    rw [encode, encodeChars_eq, writtenBase_eq hbase]
  · rw [decode, encode, String.toList_ofList, decodeChars_encodeChars hbase]
  · rw [← hcanonical token v h, ← hcanonical token' v' h']
    refine ⟨congrArg (encode base 0), fun heq => ?_⟩
    exact encodeChars_injective hbase (String.ofList_injective heq)

theorem encode_canonical_minValue :
    ValidBase 36 ∧ encode 36 16 .minValue = "-0001y2p0ij32e8e8" ∧
    decode 36 "-0001y2p0ij32e8e8" = .ok .minValue ∧ decode 36 "-1Y2P0IJ32E8E8" = .ok .minValue ∧
    encode 36 0 .minValue = canonical "-1Y2P0IJ32E8E8" ∧
    canonical "-0001y2p0ij32e8e8" = canonical "-1Y2P0IJ32E8E8" := by
  have hbase : ValidBase 36 := by decide
  have hencode : encode 36 16 .minValue = "-0001y2p0ij32e8e8" := by decide +kernel
  obtain ⟨hwritten, hread⟩ := encode_canonical hbase
  have hlower : decode 36 "-0001y2p0ij32e8e8" = .ok .minValue := by
    rw [← hencode]
    exact (hwritten 16 .minValue).2
  have hupper : decode 36 "-1Y2P0IJ32E8E8" = .ok .minValue := by decide +kernel
  obtain ⟨hcanonical, hsame⟩ := hread _ _ hupper
  exact ⟨hbase, hencode, hlower, hupper, hcanonical, (hsame _ _ hlower).1 rfl⟩

/-- Zero has no minus. -/
example : canonical "-00" = "0" := by decide +kernel

end Textbank.Numeral
