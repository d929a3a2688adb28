import Textbank.Json.Basic
/-!
# Reading JSON

`Json.parse?` reads the JSON text of one value.  It is strict: lists and objects nest less than
128 deep, every escape makes a character, and a number has to be one that a double-precision
number can be near to (`Magnitude.tooLarge`).
-/

namespace Textbank

/-! ### The size of numbers -/

/-- A number other than zero by its leading digits and a power of ten. -/
structure Magnitude where
  /-- The leading digits, as many of them as make a 64-bit number. -/
  digits : Nat
  /-- The power of ten they are multiplied by. -/
  exponent : Int

namespace Magnitude

/-- A natural number rounded to 53 binary places, ties to even. -/
def nearestDouble (n : Nat) : Nat :=
  let unit := Nat.pow 2 (n.log2 + 1 - 53)
  let below := n / unit
  let rest := n % unit
  let up := unit < 2 * rest ∨ (2 * rest = unit ∧ below % 2 = 1)
  (if up then below + 1 else below) * unit

/-- Whether a number is beyond the largest double-precision number, its digits and the power of
ten being rounded before they are multiplied. -/
def tooLarge (m : Magnitude) : Bool :=
  m.digits ≠ 0 && 0 ≤ m.exponent &&
    (308 < m.exponent ||
      Nat.pow 2 1024 ≤
        nearestDouble (nearestDouble m.digits * nearestDouble (Nat.pow 10 m.exponent.toNat)))

/-- Take one more digit before the point. -/
def pushWhole (m : Magnitude) (d : Nat) : Magnitude :=
  -- once a digit has been left out, every later one is, however small
  if m.exponent = 0 ∧ m.digits * 10 + d < UInt64.size then ⟨m.digits * 10 + d, 0⟩
  else ⟨m.digits, m.exponent + 1⟩

/-- Take the digits after the point, until one no longer fits. -/
def pushFraction (m : Magnitude) : List Nat → Magnitude
  | [] => m
  | d :: ds =>
    -- a digit after the point can fit even where one before it did not
    if m.digits * 10 + d < UInt64.size then pushFraction ⟨m.digits * 10 + d, m.exponent - 1⟩ ds else m

end Magnitude

namespace Json

/-! ### Tokens -/

/-- The white space of JSON. -/
def isSpace (c : Char) : Bool := c = ' ' || c = '\t' || c = '\n' || c = '\r'

/-- A text without the white space before it. -/
def skipSpace (s : List Char) : List Char := s.dropWhile isSpace

/-- The value of a hexadecimal digit. -/
def hexValue? (c : Char) : Option Nat :=
  if '0' ≤ c ∧ c ≤ '9' then some (c.toNat - 48)
  else if 'a' ≤ c ∧ c ≤ 'f' then some (c.toNat - 87)
  else if 'A' ≤ c ∧ c ≤ 'F' then some (c.toNat - 55)
  else none

/-- The value of four hexadecimal digits. -/
def hex4? : List Char → Option (Nat × List Char)
  | a :: b :: c :: d :: rest => do
    let a ← hexValue? a
    let b ← hexValue? b
    let c ← hexValue? c
    let d ← hexValue? d
    return (((a * 16 + b) * 16 + c) * 16 + d, rest)
  | _ => none

/-- The character of an escape, the backslash being read; a high surrogate needs a low one in an
escape of its own right after it. -/
def escape? : List Char → Option (Char × List Char)
  | '\x22' :: s => some ('\x22', s)
  | '\\' :: s => some ('\\', s)
  | '/' :: s => some ('/', s)
  | 'b' :: s => some ('\x08', s)
  | 'f' :: s => some ('\x0c', s)
  | 'n' :: s => some ('\n', s)
  | 'r' :: s => some ('\r', s)
  | 't' :: s => some ('\t', s)
  | 'u' :: s => do
    let (unit, s) ← hex4? s
    if 0xD800 ≤ unit ∧ unit < 0xDC00 then
      match s with
      | '\\' :: 'u' :: s =>
        let (low, s) ← hex4? s
        if 0xDC00 ≤ low ∧ low < 0xE000 then
          return (Char.ofNat (0x10000 + (unit - 0xD800) * 0x400 + (low - 0xDC00)), s)
        else none
      | _ => none
    else if 0xDC00 ≤ unit ∧ unit < 0xE000 then none
    else return (Char.ofNat unit, s)
  | _ => none

/-- The characters of a string up to its closing mark, the opening one being read.  The first
argument bounds the number of characters. -/
def characters? : Nat → List Char → Option (List Char × List Char)
  | 0, _ => none
  | _, [] => none
  | _, '\x22' :: s => some ([], s)
  | n + 1, '\\' :: s => do
    let (c, s) ← escape? s
    let (cs, s) ← characters? n s
    return (c :: cs, s)
  | n + 1, c :: s =>
    if c.toNat < 32 then none
    else do
      let (cs, s) ← characters? n s
      return (c :: cs, s)

/-- A string of less than `limit` characters, its opening mark being read. -/
def string? (limit : Nat) (s : List Char) : Option (String × List Char) :=
  (characters? limit s).map fun (cs, s) => (.ofList cs, s)

/-! ### Numbers -/

/-- The digits that a text starts with. -/
def takeDigits (s : List Char) : List Char := s.takeWhile Char.isDigit

/-- The digits of the whole part: a zero stands alone. -/
def wholePart? (s : List Char) : Option (List Char) :=
  match takeDigits s with
  | [] => none
  | '0' :: _ :: _ => none
  | ds => some ds

/-- The digits after a point, if there is a point; it needs one digit at least. -/
def fractionPart? : List Char → Option (List Char)
  | '.' :: s => if takeDigits s = [] then none else some ('.' :: takeDigits s)
  | _ => some []

/-- The sign and digits of an exponent, if there is one; it needs one digit at least. -/
def exponentPart? : List Char → Option (List Char × Int)
  | e :: s =>
    if e = 'e' ∨ e = 'E' then
      let (sign, s) := match s with
        | '+' :: s => (['+'], s)
        | '-' :: s => (['-'], s)
        | s => ([], s)
      let ds := takeDigits s
      if ds = [] then none
      else some (e :: sign ++ ds, (if sign = ['-'] then -1 else 1) * digitsValue ds)
    else some ([], 0)
  | [] => some ([], 0)

/-- A number without its sign. -/
def unsigned? (s : List Char) : Option (List Char × List Char) := do
  let whole ← wholePart? s
  let s := s.drop whole.length
  let fraction ← fractionPart? s
  let s := s.drop fraction.length
  let (scale, exponent) ← exponentPart? s
  let digit (c : Char) : Nat := c.toNat - 48
  let size := ((whole.map digit).foldl Magnitude.pushWhole ⟨0, 0⟩).pushFraction
    ((fraction.drop 1).map digit)
  if Magnitude.tooLarge ⟨size.digits, size.exponent + exponent⟩ then none
  else return (whole ++ fraction ++ scale, s.drop scale.length)

/-! ### Values -/

/-- A word that stands for a value. -/
def word? (word : List Char) (value : Json) (s : List Char) : Option (Json × List Char) :=
  if word.isPrefixOf s then some (value, s.drop word.length) else none

/-- A value that holds no other values. -/
def scalar? (limit : Nat) : List Char → Option (Json × List Char)
  | '\x22' :: s => (string? limit s).map fun (t, s) => (text t, s)
  | '-' :: s => (unsigned? s).map fun (n, s) => (number (.ofList ('-' :: n)), s)
  | 'n' :: s => word? ['u', 'l', 'l'] null s
  | 't' :: s => word? ['r', 'u', 'e'] (bool true) s
  | 'f' :: s => word? ['a', 'l', 's', 'e'] (bool false) s
  | s => (unsigned? s).map fun (n, s) => (number (.ofList n), s)

/-- Items with commas between them up to the closing character.  The first argument bounds their
number. -/
def items? {α : Type} (item? : List Char → Option (α × List Char)) (close : Char) :
    Nat → List Char → Option (List α × List Char)
  | 0, _ => none
  | n + 1, s => do
    let (x, s) ← item? s
    match skipSpace s with
    | ',' :: s =>
      let (xs, s) ← items? item? close n s
      return (x :: xs, s)
    | c :: s => if c = close then return ([x], s) else none
    | [] => none

/-- At most `limit` items up to the closing character, the opening one being read. -/
def sequence? {α : Type} (limit : Nat) (item? : List Char → Option (α × List Char))
    (close : Char) (s : List Char) : Option (List α × List Char) :=
  match skipSpace s with
  | c :: rest => if c = close then some ([], rest) else items? item? close limit s
  | [] => none

/-- A field of an object. -/
def member? (limit : Nat) (value? : List Char → Option (Json × List Char)) (s : List Char) :
    Option ((String × Json) × List Char) :=
  match skipSpace s with
  | '\x22' :: s => do
    let (name, s) ← string? limit s
    match skipSpace s with
    | ':' :: s =>
      let (v, s) ← value? s
      return ((name, v), s)
    | _ => none
  | _ => none

/-- A value with at most `room` lists and objects inside one another.  No list, object or string
of it is longer than `limit`, which the length of a text is for all that stands in the text. -/
def value? (limit : Nat) : Nat → List Char → Option (Json × List Char)
  | 0, s => scalar? limit (skipSpace s)
  | room + 1, s =>
    match skipSpace s with
    | '[' :: s => (sequence? limit (value? limit room) ']' s).map fun (xs, s) => (list xs, s)
    | '\x7b' :: s =>
      (sequence? limit (member? limit (value? limit room)) '\x7d' s).map
        fun (fs, s) => (object fs, s)
    | s => scalar? limit s

/-- How many lists and objects may stand inside one another. -/
def maxNesting : Nat := 127

/-- The value of a JSON text. -/
def parse? (text : String) : Option Json := do
  let s := text.toList
  let (v, rest) ← value? s.length maxNesting s
  if skipSpace rest = [] then return v else none

end Json

end Textbank
