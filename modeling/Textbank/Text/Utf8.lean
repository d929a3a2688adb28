/-!
# Lenient decoding

Bytes that are not UTF-8 are read as far as they go: each longest start of a character that
cannot be completed, and each byte that starts none, becomes one replacement character.
-/

namespace Textbank.Utf8

/-- The character that stands for bytes without one. -/
def replacement : Char := '\uFFFD'

/-- Whether a byte lies in a range. -/
def within (lo hi b : UInt8) : Bool := lo ≤ b && b ≤ hi

/-- What a first byte promises: how many bytes follow it, the range of the next one, and the bits
it carries itself. -/
def lead? (b : UInt8) : Option (Nat × UInt8 × UInt8 × Nat) :=
  if b < 0x80 then some (0, 0x80, 0xBF, b.toNat)
  else if within 0xC2 0xDF b then some (1, 0x80, 0xBF, b.toNat - 0xC0)
  else if b = 0xE0 then some (2, 0xA0, 0xBF, 0)
  else if b = 0xED then some (2, 0x80, 0x9F, 0xD)
  else if within 0xE1 0xEF b then some (2, 0x80, 0xBF, b.toNat - 0xE0)
  else if b = 0xF0 then some (3, 0x90, 0xBF, 0)
  else if b = 0xF4 then some (3, 0x80, 0x8F, 4)
  else if within 0xF1 0xF3 b then some (3, 0x80, 0xBF, b.toNat - 0xF0)
  else none

/-- Where decoding stands inside a character: the bytes still to come, the range of the next of
them, and the bits so far. -/
structure Pending where
  missing : Nat
  lo : UInt8
  hi : UInt8
  bits : Nat

/-- Read a byte where a character may start. -/
def start (b : UInt8) : List Char × Option Pending :=
  match lead? b with
  | none => ([replacement], none)
  | some (0, _, _, bits) => ([Char.ofNat bits], none)
  | some (n + 1, lo, hi, bits) => ([], some ⟨n + 1, lo, hi, bits⟩)

/-- Read one byte. -/
def step (pending : Option Pending) (b : UInt8) : List Char × Option Pending :=
  match pending with
  | none => start b
  | some p =>
    if within p.lo p.hi b then
      let bits := p.bits * 64 + (b.toNat - 0x80)
      if p.missing ≤ 1 then ([Char.ofNat bits], none)
      else ([], some ⟨p.missing - 1, 0x80, 0xBF, bits⟩)
    else
      let (cs, next) := start b
      (replacement :: cs, next)

/-- Read bytes in a given state. -/
def decodeFrom (pending : Option Pending) : List UInt8 → List Char
  | [] => if pending.isSome then [replacement] else []
  | b :: bs =>
    let (cs, next) := step pending b
    cs ++ decodeFrom next bs

/-- The text of bytes, with replacement characters where they are not UTF-8. -/
def decodeLossy (bytes : ByteArray) : String := .ofList (decodeFrom none bytes.toList)

end Textbank.Utf8
