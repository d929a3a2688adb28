/-!
# JSON values

A JSON value keeps its numbers as they are written, because a number that is written with a point,
an exponent or a sign counts as no natural number here whatever its value, and its object fields
in the order of the text.
-/

namespace Textbank

/-- A JSON value. -/
inductive Json where
  | null
  | bool (b : Bool)
  /-- A number, as it is written. -/
  | number (literal : String)
  | text (s : String)
  | list (items : List Json)
  | object (fields : List (String × Json))
deriving Inhabited

namespace Json

/-- The value of a field; of several with the same name the last one counts. -/
def field? (name : String) : List (String × Json) → Option Json
  | [] => none
  | (n, v) :: rest => (field? name rest).orElse fun _ => if n = name then some v else none

/-- The value of a field of an object. -/
def get? (j : Json) (name : String) : Option Json :=
  match j with
  | object fields => field? name fields
  | _ => none

/-- The text of a text value. -/
def text? : Json → Option String
  | text s => some s
  | _ => none

/-- The items of a list value. -/
def list? : Json → Option (List Json)
  | list items => some items
  | _ => none

/-- The value of a run of decimal digits. -/
def digitsValue (ds : List Char) : Nat := ds.foldl (fun n d => 10 * n + (d.toNat - 48)) 0

/-- The value of a number that is written with digits only and fits into 64 bits. -/
def natural? : Json → Option UInt64
  | number literal =>
    let ds := literal.toList
    if ds ≠ [] ∧ ds.all Char.isDigit ∧ digitsValue ds < UInt64.size then
      some (.ofNat (digitsValue ds))
    else none
  | _ => none

end Json

end Textbank
