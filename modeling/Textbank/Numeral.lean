/-!
# Numerals

Bank, register and address ids are signed 64-bit integers, written as zero-padded numerals in a
base from 2 to 36 with the digits `0`–`9` and `a`–`z`.  Main definitions:

* `Numeral.encode` : the numeral of an id in a base, padded to a width;
* `Numeral.decode` : the id of a numeral, letters in either case;
* `Numeral.Fault` : why a token is no numeral.

Writing never fails; reading checks each digit against the base and the running value against
the 64-bit range, from left to right, so the first character at fault decides the answer.
-/

namespace Textbank

namespace Numeral

/-- The bases that numerals are written in. -/
def ValidBase (base : Nat) : Prop := 2 ≤ base ∧ base ≤ 36

instance (base : Nat) : Decidable (ValidBase base) := inferInstanceAs (Decidable (_ ∧ _))

/-! ### Digits -/

/-- The character of a digit value below 36. -/
def digitChar (d : Nat) : Char := Char.ofNat (if d < 10 then 48 + d else 87 + d)

/-- The value of a digit character, letters counting from ten in either case. -/
def digitValue? (c : Char) : Option Nat :=
  if '0' ≤ c ∧ c ≤ '9' then some (c.toNat - 48)
  else if 'a' ≤ c ∧ c ≤ 'z' then some (c.toNat - 87)
  else if 'A' ≤ c ∧ c ≤ 'Z' then some (c.toNat - 55)
  else none

/-- The value of a character that is a digit of the base. -/
def digitOf? (base : Nat) (c : Char) : Option Nat := (digitValue? c).filter (· < base)

/-- The digits of a number in a base, most significant first; zero has none. -/
def digits (base n : Nat) : List Nat :=
  if _h : base < 2 ∨ n = 0 then [] else digits base (n / base) ++ [n % base]
termination_by n
decreasing_by exact Nat.div_lt_self (by omega) (by omega)

/-! ### Writing -/

/-- The digits of a number, padded with zeros to a width and to one digit at least. -/
def encodeNat (base width n : Nat) : List Char :=
  let ds := (digits base n).map digitChar
  List.replicate (max width 1 - ds.length) '0' ++ ds

/-- The numeral of a value.  The sign stands outside the width, and a base that no numeral is
written in counts as ten. -/
def encodeChars (base width : Nat) (value : Int64) : List Char :=
  let base := if ValidBase base then base else 10
  -- the absolute value is taken in the integers, where the least id has one
  (if value < 0 then ['-'] else []) ++ encodeNat base width value.toInt.natAbs

/-- The numeral of a value, as a string. -/
def encode (base width : Nat) (value : Int64) : String := .ofList (encodeChars base width value)

/-- The decimal numeral of a natural number. -/
def decimal (n : Nat) : String := .ofList (encodeNat 10 0 n)

/-! ### Reading -/

/-- Why a token is no numeral. -/
inductive Fault where
  /-- Nothing follows the optional sign. -/
  | empty
  /-- A character is no digit of the base. -/
  | invalidDigit (digit : Char) (base : Nat)
  /-- The value leaves the 64-bit range. -/
  | overflow (token : String)
deriving DecidableEq, Repr

/-- The wording of a fault. -/
def Fault.message : Fault → String
  | .empty => "empty numeral"
  | .invalidDigit digit base => s!"invalid digit '{digit}' for base {decimal base}"
  | .overflow token => s!"numeral overflows: {token}"

/-- The integers of 64-bit ids. -/
def InRange (v : Int) : Prop := Int64.minValue.toInt ≤ v ∧ v ≤ Int64.maxValue.toInt

instance (v : Int) : Decidable (InRange v) := inferInstanceAs (Decidable (_ ∧ _))

/-- Why reading digits stopped: at a character that is no digit, or out of range. -/
inductive Stop where
  | badDigit (c : Char)
  | outOfRange
deriving DecidableEq, Repr

/-- Read digits after a value already read, adding each of them towards the sign. -/
def accumulate (base : Nat) (sign : Int) (value : Int) : List Char → Except Stop Int
  | [] => .ok value
  | c :: cs =>
    match digitOf? base c with
    | none => .error (.badDigit c)
    | some d =>
      let next := value * base + sign * d
      if InRange next then accumulate base sign next cs else .error .outOfRange

/-- A token as its sign and what follows it. -/
def splitSign : List Char → Int × List Char
  | '-' :: cs => (-1, cs)
  | cs => (1, cs)

/-- The value of a token in a base. -/
def decodeChars (base : Nat) (token : List Char) : Except Fault Int64 :=
  let (sign, ds) := splitSign token
  if ds = [] then .error .empty
  else
    match accumulate base sign 0 ds with
    | .ok v => .ok (.ofInt v)
    | .error (.badDigit c) => .error (.invalidDigit c base)
    | .error .outOfRange => .error (.overflow (.ofList token))

/-- The value of a token in a base, as a string. -/
def decode (base : Nat) (token : String) : Except Fault Int64 := decodeChars base token.toList

end Numeral

end Textbank
