import Chatline.Floating
/-!
# Places on the number line

Numbers of different types are compared by where they stand on the number line,
which has an end on either side. What has no size stands nowhere: it is neither
below anything nor the same as anything.
-/

namespace Chatline

/-- Where a number stands. -/
inductive Place where
  /-- Below all fractions. -/
  | lowest
  /-- At a fraction. -/
  | fraction (num : Int) (den : Nat)
  /-- Above all fractions. -/
  | highest
  /-- Not on the line. -/
  | nowhere
deriving Repr, DecidableEq

namespace Place

/-- The place of a whole number. -/
def ofInt (n : Int) : Place := fraction n 1

/-- Whether a place is below another. -/
def isBelow : Place → Place → Bool
  | fraction m p, fraction n q => decide (m * q < n * p)
  | lowest, fraction .. | lowest, highest | fraction .., highest => true
  | _, _ => false

/-- Whether two places are the same. -/
def isSame : Place → Place → Bool
  | fraction m p, fraction n q => m * q == n * p
  | lowest, lowest | highest, highest => true
  | _, _ => false

/-- Whether a place is below another or the same. -/
def isAtMost (a b : Place) : Bool := a.isBelow b || a.isSame b

end Place

namespace Floating

/-- Where a floating number stands. -/
def place : Floating → Place
  | finite negative mantissa exponent =>
    let (num, den) := fraction negative mantissa exponent
    .fraction num den
  | infinite negative => if negative then .lowest else .highest
  | undefined => .nowhere

end Floating

end Chatline
