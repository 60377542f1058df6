/-!
# Ranges of code points

Properties of characters are tables. A set is an ascending list of closed
intervals; a map is an ascending list of runs, each of which sends every
`step`-th code point from `first` to `last` to the code point equally far
after `image`. The tables are those of Unicode 15.1.
-/

namespace Chatline.Text

/-- Whether a code point lies in one of the intervals of an ascending list. -/
def inRanges : List (Nat × Nat) → Nat → Bool
  | [], _ => false
  | (lo, hi) :: rest, n => if n < lo then false else n ≤ hi || inRanges rest n

/-- A stretch of code points that are mapped by one and the same distance. -/
structure Run where
  /-- The first code point of the stretch. -/
  first : Nat
  /-- The last code point of the stretch. -/
  last : Nat
  /-- The distance between two mapped code points. -/
  step : Nat
  /-- What the first code point is mapped to. -/
  image : Nat
deriving Repr, DecidableEq

/-- The image of a code point under an ascending list of runs, if one maps it. -/
def imageOf : List Run → Nat → Option Nat
  | [], _ => none
  | r :: rest, n =>
    if n < r.first then none
    else if n ≤ r.last && (n - r.first) % r.step == 0 then some (r.image + (n - r.first))
    else imageOf rest n

/-- What a list of exceptions writes for a code point, if it is one of them. -/
def expansionOf : List (Nat × List Nat) → Nat → Option (List Nat)
  | [], _ => none
  | (m, image) :: rest, n => if m == n then some image else expansionOf rest n

end Chatline.Text
