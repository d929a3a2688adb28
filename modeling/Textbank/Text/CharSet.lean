/-!
# Sets of characters

A property of characters is given by its *bounds*: the code points, ascending, at which it begins
and ends to hold by turns.  A character has the property when an odd number of the bounds are at
or below it, so a table of a standard is one short list of numbers.
-/

namespace Textbank

/-- A set of characters, as the ascending code points where membership changes. -/
structure CharSet where
  /-- Where membership begins, ends, begins again and so on. -/
  bounds : List Nat

namespace CharSet

/-- Whether an odd number of bounds are at or below a code point. -/
def oddBelow (n : Nat) : List Nat → Bool
  | [] => false
  | b :: bs => if n < b then false else !oddBelow n bs

/-- Membership. -/
def has (s : CharSet) (c : Char) : Bool := oddBelow c.toNat s.bounds

end CharSet

end Textbank
