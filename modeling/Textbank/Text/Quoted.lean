import Textbank.Text.Unprintable
import Textbank.Text.Extender
/-!
# Quoted text

How a message quotes a text or a character: in quotation marks, with an escape for the mark
itself, for the backslash and for every character that would not be seen as it is.
-/

namespace Textbank

/-- The hexadecimal digits of a number, without padding. -/
def hexDigits (n : Nat) : List Char := Nat.toDigits 16 n

/-- A character inside quotation marks of the kind `mark`. -/
def escapeIn (mark c : Char) : List Char :=
  if c = '\t' then ['\\', 't']
  else if c = '\n' then ['\\', 'n']
  else if c = '\r' then ['\\', 'r']
  else if c = '\x00' then ['\\', '0']
  else if c = '\\' then ['\\', '\\']
  else if c = mark then ['\\', c]
  else if CharSet.extender.has c || CharSet.unprintable.has c then
    ['\\', 'u', '\x7b'] ++ hexDigits c.toNat ++ ['\x7d']
  else [c]

/-- A text in double quotation marks. -/
def quoted (s : String) : String :=
  .ofList ('\x22' :: s.toList.flatMap (escapeIn '\x22') ++ ['\x22'])

/-- A character in single quotation marks. -/
def quotedChar (c : Char) : String := .ofList ('\x27' :: escapeIn '\x27' c ++ ['\x27'])

end Textbank
