import Textbank.Json.Printer
import Textbank.Json.Reader
import Textbank.Proofs.Numeral.Canonical
/-!
# Strings and whole numbers of JSON

What is written for a string is read as the string, whatever its characters are, and the numerals of
whole numbers are read as they are written.

* `Json.escapeChar_cases` : a character is written as it is or by an escape of its own;
* `Json.string?_stringChars` : strings are read back;
* `Json.IsWhole` : the digits of a whole number, and `Json.unsigned?_append` : they are read up to
  the first character that continues no number;
* `Json.isWhole_decimal`, `Json.isInteger_encode` : numbers and ids are written with such digits.
-/

namespace Textbank.Json

/-! ### Strings -/

theorem hexValue?_digitChar : ∀ d < 16, hexValue? (Nat.digitChar d) = some d := by decide

/-- The escape of a control character is read as the character. -/
theorem escape?_hexPair {c : Char} (h : c.toNat < 32) (rest : List Char) :
    escape? ('u' :: '0' :: '0' :: (hexPair c.toNat ++ rest)) = some (c, rest) := by
  have hhigh := hexValue?_digitChar (c.toNat / 16) (by omega)
  have hlow := hexValue?_digitChar (c.toNat % 16) (by omega)
  have hzero : hexValue? '0' = some 0 := by decide
  have hvalue : ((0 * 16 + 0) * 16 + c.toNat / 16) * 16 + c.toNat % 16 = c.toNat := by omega
  have hunit : hex4? ('0' :: '0' :: (hexPair c.toNat ++ rest)) = some (c.toNat, rest) := by
    simp only [hexPair, List.cons_append, List.nil_append, hex4?, hzero, hhigh, hlow]
    exact congrArg (fun n => some (n, rest)) hvalue
  simp only [escape?, hunit]
  have hhighSurrogate : ¬(0xD800 ≤ c.toNat ∧ c.toNat < 0xDC00) := by omega
  have hlowSurrogate : ¬(0xDC00 ≤ c.toNat ∧ c.toNat < 0xE000) := by omega
  simp [hhighSurrogate, hlowSurrogate, Char.ofNat_toNat]

/-- A character is written as it is, or by an escape that is read as the character. -/
theorem escapeChar_cases (c : Char) :
    (escapeChar c = [c] ∧ c ≠ '\x22' ∧ c ≠ '\\' ∧ ¬c.toNat < 32) ∨
      ∃ e, escapeChar c = '\\' :: e ∧ ∀ rest, escape? (e ++ rest) = some (c, rest) := by
  unfold escapeChar
  split_ifs with hmark hbackslash hbackspace hfeed hnewline hreturn htab hcontrol
  · subst hmark
    exact Or.inr ⟨_, rfl, fun rest => rfl⟩
  · subst hbackslash
    exact Or.inr ⟨_, rfl, fun rest => rfl⟩
  · subst hbackspace
    exact Or.inr ⟨_, rfl, fun rest => rfl⟩
  · subst hfeed
    exact Or.inr ⟨_, rfl, fun rest => rfl⟩
  · subst hnewline
    exact Or.inr ⟨_, rfl, fun rest => rfl⟩
  · subst hreturn
    exact Or.inr ⟨_, rfl, fun rest => rfl⟩
  · subst htab
    exact Or.inr ⟨_, rfl, fun rest => rfl⟩
  · exact Or.inr ⟨_, rfl, fun rest => escape?_hexPair hcontrol rest⟩
  · exact Or.inl ⟨rfl, hmark, hbackslash, hcontrol⟩

theorem characters?_flatMap {limit : Nat} {cs : List Char} (h : cs.length < limit)
    (rest : List Char) :
    characters? limit (cs.flatMap escapeChar ++ '\x22' :: rest) = some (cs, rest) := by
  induction cs generalizing limit with
  | nil =>
    obtain ⟨n, rfl⟩ := Nat.exists_eq_succ_of_ne_zero (Nat.ne_of_gt h)
    rfl
  | cons c cs ih =>
    obtain ⟨n, rfl⟩ := Nat.exists_eq_succ_of_ne_zero (Nat.ne_of_gt (Nat.zero_lt_of_lt h))
    have hcs := ih (Nat.lt_of_succ_lt_succ h)
    rw [List.flatMap_cons, List.append_assoc]
    rcases escapeChar_cases c with ⟨hc, hmark, hbackslash, hcontrol⟩ | ⟨e, hc, hread⟩
    · rw [hc, List.singleton_append]
      simp only [characters?, if_neg hcontrol, hcs]
      rfl
    · rw [hc, List.cons_append]
      simp [characters?, hread, hcs]

theorem length_le_length_stringChars (s : String) :
    s.toList.length + 2 ≤ (stringChars s).length := by
  have hchar : ∀ c, 1 ≤ (escapeChar c).length := fun c => by
    rcases escapeChar_cases c with ⟨hc, -⟩ | ⟨e, hc, -⟩ <;> simp [hc]
  have hchars : ∀ cs : List Char, cs.length ≤ (cs.flatMap escapeChar).length := fun cs => by
    induction cs with
    | nil => exact Nat.le_refl 0
    | cons c cs ih =>
      have hc := hchar c
      rw [List.flatMap_cons, List.length_append, List.length_cons]
      omega
  have hs := hchars s.toList
  simp only [stringChars, List.length_append, List.length_cons, List.length_nil]
  omega

/-- A string is read back, whatever its characters are. -/
theorem string?_stringChars {limit : Nat} {s : String} (h : (stringChars s).length ≤ limit) :
    ∃ body, stringChars s = '\x22' :: body ∧
      ∀ rest, string? limit (body ++ rest) = some (s, rest) := by
  have hlength := length_le_length_stringChars s
  refine ⟨s.toList.flatMap escapeChar ++ ['\x22'], rfl, fun rest => ?_⟩
  rw [string?, List.append_assoc, List.singleton_append, characters?_flatMap (by omega) rest]
  simp only [Option.map_some, String.ofList_toList]

/-! ### Whole numbers -/

/-- The digits of a whole number of 64 bits, without leading zeros. -/
structure IsWhole (ds : List Char) : Prop where
  ne_nil : ds ≠ []
  isDigit : ∀ c ∈ ds, c.isDigit = true
  leading : ds.head? = some '0' → ds = ['0']
  lt_size : digitsValue ds < UInt64.size

/-- The digits of a whole number with a minus or without. -/
def IsInteger (s : List Char) : Prop := IsWhole s ∨ ∃ ds, s = '-' :: ds ∧ IsWhole ds

/-- A text that does not continue a number. -/
def EndsNumber (s : List Char) : Prop :=
  ∀ c ∈ s.head?, c.isDigit = false ∧ c ≠ '.' ∧ c ≠ 'e' ∧ c ≠ 'E'

theorem digitsValue_append (ds es : List Char) :
    digitsValue (ds ++ es) = es.foldl (fun n d => 10 * n + (d.toNat - 48)) (digitsValue ds) :=
  List.foldl_append

/-- Digits of a 64-bit number are all taken. -/
theorem foldl_pushWhole {ds : List Char} (h : digitsValue ds < UInt64.size) :
    (ds.map fun c => c.toNat - 48).foldl Magnitude.pushWhole ⟨0, 0⟩ = ⟨digitsValue ds, 0⟩ := by
  induction ds using List.reverseRecOn with
  | nil => rfl
  | append_singleton ds d ih =>
    rw [digitsValue_append, List.foldl_cons, List.foldl_nil] at h ⊢
    have hds : digitsValue ds < UInt64.size := by omega
    rw [List.map_append, List.foldl_append, ih hds]
    have hnext : digitsValue ds * 10 + (d.toNat - 48) = 10 * digitsValue ds + (d.toNat - 48) := by
      omega
    simp [Magnitude.pushWhole, hnext, h]

theorem nearestDouble_le (n : Nat) : Magnitude.nearestDouble n ≤ 2 * n + 1 := by
  have hunit : Nat.pow 2 (n.log2 + 1 - 53) ≤ n + 1 := by
    by_cases hn : n = 0
    · subst hn
      decide
    · calc Nat.pow 2 (n.log2 + 1 - 53) ≤ 2 ^ n.log2 :=
          Nat.pow_le_pow_right Nat.two_pos (by omega)
        _ ≤ n := Nat.log2_self_le hn
        _ ≤ n + 1 := Nat.le_succ n
  have hbelow := Nat.div_mul_le_self n (Nat.pow 2 (n.log2 + 1 - 53))
  unfold Magnitude.nearestDouble
  simp only
  split
  · rw [Nat.add_mul, Nat.one_mul]
    omega
  · omega

/-- No 64-bit number is too large. -/
theorem tooLarge_eq_false {n : Nat} (h : n < UInt64.size) : Magnitude.tooLarge ⟨n, 0⟩ = false := by
  have hn := nearestDouble_le n
  have hone : Magnitude.nearestDouble (Nat.pow 10 (0 : Int).toNat) = 1 := by decide
  have hproduct := nearestDouble_le (Magnitude.nearestDouble n * 1)
  have hpow : ∀ k, 67 ≤ k → 2 ^ 67 ≤ Nat.pow 2 k := fun k => Nat.pow_le_pow_right Nat.two_pos
  have hlt : Magnitude.nearestDouble (Magnitude.nearestDouble n * 1) < Nat.pow 2 1024 :=
    calc Magnitude.nearestDouble (Magnitude.nearestDouble n * 1)
      _ < 2 ^ 67 := by
        rw [show UInt64.size = 2 ^ 64 from rfl] at h
        omega
      _ ≤ Nat.pow 2 1024 := hpow 1024 (by decide)
  simp only [Magnitude.tooLarge, hone, Nat.not_le.2 hlt]
  simp

theorem takeDigits_append {ds rest : List Char} (hds : ∀ c ∈ ds, c.isDigit = true)
    (hrest : EndsNumber rest) : takeDigits (ds ++ rest) = ds := by
  rw [takeDigits, List.takeWhile_append_of_pos hds]
  cases rest with
  | nil => rw [List.takeWhile_nil, List.append_nil]
  | cons c rest => rw [List.takeWhile_cons_of_neg (by simp [(hrest c rfl).1]), List.append_nil]

theorem wholePart?_append {ds rest : List Char} (h : IsWhole ds) (hrest : EndsNumber rest) :
    wholePart? (ds ++ rest) = some ds := by
  rw [wholePart?, takeDigits_append h.isDigit hrest]
  split
  next => exact absurd rfl h.ne_nil
  next => exact absurd (h.leading rfl) (by simp)
  next => rfl

theorem fractionPart?_eq {rest : List Char} (hrest : EndsNumber rest) :
    fractionPart? rest = some [] := by
  unfold fractionPart?
  split
  next s => exact absurd rfl (hrest '.' rfl).2.1
  next => rfl

theorem exponentPart?_eq {rest : List Char} (hrest : EndsNumber rest) :
    exponentPart? rest = some ([], 0) := by
  unfold exponentPart?
  split
  next e s =>
    obtain ⟨-, -, hlower, hupper⟩ := hrest e rfl
    rw [if_neg (not_or_intro hlower hupper)]
  next => rfl

/-- The digits of a whole number are read up to where they end. -/
theorem unsigned?_append {ds rest : List Char} (h : IsWhole ds) (hrest : EndsNumber rest) :
    unsigned? (ds ++ rest) = some (ds, rest) := by
  have hsize := foldl_pushWhole h.lt_size
  simp only [unsigned?, wholePart?_append h hrest, Option.bind_eq_bind, Option.bind_some,
    List.drop_left, fractionPart?_eq hrest, List.length_nil, List.drop_zero,
    exponentPart?_eq hrest, hsize]
  simp [Magnitude.pushFraction, tooLarge_eq_false h.lt_size]

/-! ### Numerals -/

section Numerals

open Numeral

theorem digitsValue_map_digitChar {ds : List Nat} (h : ∀ d ∈ ds, d < 10) :
    digitsValue (ds.map digitChar) = valueFrom 10 0 ds := by
  have hdigit : ∀ d < 10, (digitChar d).toNat - 48 = d := by decide
  induction ds using List.reverseRecOn with
  | nil => rfl
  | append_singleton ds d ih =>
    have hds := ih fun e he => h e (List.mem_append_left _ he)
    have hd := hdigit d (h d (by simp))
    rw [List.map_append, digitsValue_append, hds, valueFrom_append]
    simp only [List.map_cons, List.map_nil, List.foldl_cons, List.foldl_nil, valueFrom_cons,
      valueFrom_nil, hd]
    omega

theorem digitsValue_encodeNat (n : Nat) : digitsValue (encodeNat 10 0 n) = n := by
  rw [encodeNat_eq, digitsValue_map_digitChar fun d hd => lt_of_mem_paddedDigits (by decide) hd,
    valueFrom_paddedDigits (by decide)]

theorem isDigit_of_mem_encodeNat {n : Nat} : ∀ c ∈ encodeNat 10 0 n, c.isDigit = true := by
  have hdigit : ∀ d < 10, (digitChar d).isDigit = true := by decide
  intro c hc
  rw [encodeNat_eq] at hc
  obtain ⟨d, hd, rfl⟩ := List.mem_map.1 hc
  exact hdigit d (lt_of_mem_paddedDigits (by decide) hd)

/-- Without padding, only zero starts with a zero. -/
theorem head?_encodeNat_ne {n : Nat} (hn : n ≠ 0) : (encodeNat 10 0 n).head? ≠ some '0' := by
  have hbase : 2 ≤ 10 := by decide
  have hdigits : digits 10 n = (digits 10 n).dropWhile (· = 0) := by
    conv_lhs => rw [← valueFrom_digits hbase n]
    exact digits_valueFrom hbase fun d hd => lt_of_mem_digits hbase hd
  have hpadding : max 0 1 - (digits 10 n).length = 0 := by
    rw [digits_eq hbase hn, List.length_append, List.length_singleton]
    omega
  have hchar : ∀ d < 10, digitChar d = '0' → d = 0 := by decide
  rw [encodeNat_eq, paddedDigits, hpadding, List.replicate_zero, List.nil_append, List.head?_map]
  intro h
  obtain ⟨d, hd, hzero⟩ := Option.map_eq_some_iff.1 h
  have hlt := lt_of_mem_digits hbase (List.mem_of_mem_head? hd)
  rw [hdigits] at hd
  have hnonzero := not_of_mem_head?_dropWhile hd
  exact of_decide_eq_false hnonzero (hchar d hlt hzero)

theorem isWhole_encodeNat {n : Nat} (h : n < UInt64.size) : IsWhole (encodeNat 10 0 n) where
  ne_nil := by simp [encodeNat_eq, paddedDigits_ne_nil]
  isDigit := isDigit_of_mem_encodeNat
  leading := by
    intro h
    by_cases hn : n = 0
    · subst hn
      simp [encodeNat]
    · exact absurd h (head?_encodeNat_ne hn)
  lt_size := by rwa [digitsValue_encodeNat]

theorem isWhole_decimal {n : Nat} (h : n < UInt64.size) : IsWhole (decimal n).toList := by
  rw [decimal, String.toList_ofList]
  exact isWhole_encodeNat h

/-- A number of 64 bits is read from its numeral. -/
theorem natural?_decimal {n : Nat} (h : n < UInt64.size) :
    natural? (.number (decimal n)) = some (.ofNat n) := by
  have hwhole := isWhole_decimal h
  have hvalue : digitsValue (decimal n).toList = n := by
    rw [decimal, String.toList_ofList, digitsValue_encodeNat]
  rw [natural?, if_pos ⟨hwhole.ne_nil, List.all_eq_true.2 hwhole.isDigit, hwhole.lt_size⟩, hvalue]

/-- Ids are written as whole numbers, negative ones with a minus. -/
theorem isInteger_encode (id : Int64) : IsInteger (encode 10 0 id).toList := by
  have hsize : id.toInt.natAbs < UInt64.size := by
    have hmin := id.le_toInt
    have hmax := id.toInt_lt
    rw [show UInt64.size = 2 ^ 64 from rfl]
    omega
  have hbase : (if ValidBase 10 then 10 else 10) = 10 := by decide
  rw [encode, String.toList_ofList, encodeChars]
  simp only [hbase]
  split
  · exact Or.inr ⟨_, rfl, isWhole_encodeNat hsize⟩
  · exact Or.inl (isWhole_encodeNat hsize)

end Numerals

end Textbank.Json
