import Textbank.Json.Basic
import Textbank.Text.Cut
/-!
# Writing JSON

`Json.pretty` writes a value over several lines with two blanks for each level, and
`Json.compact` on one line without any blanks.
-/

namespace Textbank.Json

/-- The two hexadecimal digits of a control character. -/
def hexPair (n : Nat) : List Char := [Nat.digitChar (n / 16), Nat.digitChar (n % 16)]

/-- A character inside a string. -/
def escapeChar (c : Char) : List Char :=
  if c = '\x22' then ['\\', '\x22']
  else if c = '\\' then ['\\', '\\']
  else if c = '\x08' then ['\\', 'b']
  else if c = '\x0c' then ['\\', 'f']
  else if c = '\n' then ['\\', 'n']
  else if c = '\r' then ['\\', 'r']
  else if c = '\t' then ['\\', 't']
  else if c.toNat < 32 then ['\\', 'u', '0', '0'] ++ hexPair c.toNat
  else [c]

/-- A string in its marks. -/
def stringChars (s : String) : List Char := '\x22' :: s.toList.flatMap escapeChar ++ ['\x22']

/-- A line break and the blanks of a level. -/
def lineBreak (level : Nat) : List Char := '\n' :: List.replicate (2 * level) ' '

/-- Parts between two brackets, each on a line of the next level. -/
def block (level : Nat) (opening closing : Char) (parts : List (List Char)) : List Char :=
  if parts = [] then [opening, closing]
  else
    opening :: joinWith ',' (parts.map (lineBreak (level + 1) ++ ·)) ++ lineBreak level
      ++ [closing]

mutual

/-- A value written at a level. -/
def prettyChars (level : Nat) : Json → List Char
  | null => ['n', 'u', 'l', 'l']
  | bool b => if b then ['t', 'r', 'u', 'e'] else ['f', 'a', 'l', 's', 'e']
  | number literal => literal.toList
  | text s => stringChars s
  | list items => block level '[' ']' (prettyItems (level + 1) items)
  | object fields => block level '\x7b' '\x7d' (prettyFields (level + 1) fields)

/-- The items of a list. -/
def prettyItems (level : Nat) : List Json → List (List Char)
  | [] => []
  | v :: vs => prettyChars level v :: prettyItems level vs

/-- The fields of an object. -/
def prettyFields (level : Nat) : List (String × Json) → List (List Char)
  | [] => []
  | (name, v) :: fs =>
    (stringChars name ++ [':', ' '] ++ prettyChars level v) :: prettyFields level fs

end

/-- A value over several lines. -/
def pretty (j : Json) : String := .ofList (prettyChars 0 j)

mutual

/-- A value on one line. -/
def compactChars : Json → List Char
  | null => ['n', 'u', 'l', 'l']
  | bool b => if b then ['t', 'r', 'u', 'e'] else ['f', 'a', 'l', 's', 'e']
  | number literal => literal.toList
  | text s => stringChars s
  | list items => '[' :: joinWith ',' (compactItems items) ++ [']']
  | object fields => '\x7b' :: joinWith ',' (compactFields fields) ++ ['\x7d']

/-- The items of a list. -/
def compactItems : List Json → List (List Char)
  | [] => []
  | v :: vs => compactChars v :: compactItems vs

/-- The fields of an object. -/
def compactFields : List (String × Json) → List (List Char)
  | [] => []
  | (name, v) :: fs => (stringChars name ++ [':'] ++ compactChars v) :: compactFields fs

end

/-- A value on one line, as a string. -/
def compact (j : Json) : String := .ofList (compactChars j)

/-- A value as a person reads it: a text without its marks, anything else as it is written. -/
def plain : Json → String
  | text s => s
  | j => j.compact

end Textbank.Json
