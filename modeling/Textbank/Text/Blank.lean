/-!
# Blank characters

White space in the sense of the Unicode property of that name, and trimming.
-/

namespace Textbank

/-- Whether a character is white space. -/
def isBlank (c : Char) : Bool :=
  c = ' ' || ('\t' ≤ c && c ≤ '\r') || c = '\u0085' || c = '\u00a0' || c = '\u1680'
    || ('\u2000' ≤ c && c ≤ '\u200a') || c = '\u2028' || c = '\u2029' || c = '\u202f'
    || c = '\u205f' || c = '\u3000'

/-- A text without the blanks it starts with. -/
def trimStart (s : List Char) : List Char := s.dropWhile isBlank

/-- A text without the blanks it ends with. -/
def trimEnd (s : List Char) : List Char := (s.reverse.dropWhile isBlank).reverse

/-- A text without the blanks around it. -/
def trim (s : List Char) : List Char := trimEnd (trimStart s)

/-- Whether a text holds nothing but blanks. -/
def allBlank (s : List Char) : Bool := s.all isBlank

end Textbank
