import Textbank.Text.Casing
/-!
# Lower case

Lower-casing of whole texts.  Every character has a lower-case form of its own (`I` with a dot
above has two characters), except that a capital sigma at the end of a word becomes a final one.
-/

namespace Textbank

/-- The lower-case form of a character in the middle of a word. -/
def lowerChar (c : Char) : List Char :=
  if c.toNat < 128 then [c.toLower]
  else if c = 'İ' then ['i', '\u0307']
  else
    match lowerRuns.find? fun (first, last, step, _) =>
        first ≤ c.toNat && c.toNat ≤ last && (c.toNat - first) % step = 0 with
    | some (_, _, _, shift) => [Char.ofNat (c.toNat + shift).toNat]
    | none => [c]

/-- Whether the first character that counts is a cased letter. -/
def meetsCased (s : List Char) : Bool :=
  match s.dropWhile CharSet.caseIgnorable.has with
  | [] => false
  | c :: _ => CharSet.cased.has c

/-- Lower-case `rest`, which stands after `before` (last character first). -/
def lowerAfter (before : List Char) : List Char → List Char
  | [] => []
  | c :: rest =>
    -- what surrounds a sigma is looked at as it was written
    (if c = 'Σ' then [if meetsCased before && !meetsCased rest then 'ς' else 'σ']
      else lowerChar c) ++ lowerAfter (c :: before) rest

/-- A text in lower case. -/
def lowerCase (s : List Char) : List Char := lowerAfter [] s

end Textbank
