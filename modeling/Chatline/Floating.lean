/-!
# Floating numbers

A number that is written with a point is kept as so many units of a power of
two, in at most 53 binary digits. Whatever is computed is computed exactly and
then rounded once: `ofFraction` takes the nearest number that can be kept, and
of two that are equally near the one with the even mantissa. What is beyond all
of them is infinite, and a sum of infinite numbers of both signs is undefined.
-/

namespace Chatline

/-- A floating number. -/
inductive Floating where
  /-- The number `mantissa * 2 ^ exponent`, or its negative; the mantissa is less
  than `2 ^ 53`. Zero has both signs. -/
  | finite (negative : Bool) (mantissa : Nat) (exponent : Int)
  /-- A number beyond the greatest that can be kept, on either side. -/
  | infinite (negative : Bool)
  /-- What has no size at all. -/
  | undefined
deriving Repr, DecidableEq

namespace Floating

/-- The whole number nearest to a fraction; of two that are equally near, the
even one. -/
def nearestWhole (num den : Nat) : Nat :=
  let below := num / den
  let twice := 2 * (num % den)
  if twice < den || (twice == den && below % 2 == 0) then below else below + 1

/-- The greatest power of a base that a positive fraction reaches, given one that
is right or one too great. -/
def settled (base num den : Nat) (guess : Int) : Int :=
  if num * base.pow (-guess).toNat < den * base.pow guess.toNat then guess - 1 else guess

/-- The unit of the smallest numbers. -/
def leastExponent : Int := -1074

/-- The unit of the greatest numbers. -/
def greatestExponent : Int := 971

/-- Whether a number is zero, of either sign. -/
def isZero : Floating → Bool
  | finite _ mantissa _ => mantissa == 0
  | _ => false

/-- Whether a number is beyond the greatest that can be kept. -/
def isInfinite : Floating → Bool
  | infinite _ => true
  | _ => false

/-- A number of some units, which may be too great to be kept. -/
def bounded (negative : Bool) (mantissa : Nat) (exponent : Int) : Floating :=
  if greatestExponent < exponent then infinite negative else finite negative mantissa exponent

/-- The number with a mantissa that rounding may have carried to `2 ^ 53`. -/
def carried (negative : Bool) (mantissa : Nat) (exponent : Int) : Floating :=
  if mantissa < Nat.pow 2 53 then bounded negative mantissa exponent
  else bounded negative (Nat.pow 2 52) (exponent + 1)

/-- The number nearest to a fraction or to its negative. -/
def ofFraction (negative : Bool) (num den : Nat) : Floating :=
  if num = 0 then finite negative 0 leastExponent
  else
    let power := settled 2 num den ((num.log2 : Int) - den.log2)
    let exponent := max (power - 52) leastExponent
    carried negative
      (nearestWhole (num * Nat.pow 2 (-exponent).toNat) (den * Nat.pow 2 exponent.toNat)) exponent

/-- The number nearest to `digits * 10 ^ exponent` or to its negative. What is far
beyond all numbers is not written out. -/
def ofDecimal (negative : Bool) (digits : Nat) (exponent : Int) : Floating :=
  let places : Int := (Nat.toDigits 10 digits).length + exponent
  if places < -330 then ofFraction negative 0 1
  else if 310 < places && digits != 0 then infinite negative
  else ofFraction negative (digits * Nat.pow 10 exponent.toNat) (Nat.pow 10 (-exponent).toNat)

/-- The number nearest to a whole number. -/
def ofInt (n : Int) : Floating := ofFraction (n < 0) n.natAbs 1

/-- Units of a power of two as a fraction. -/
def size (mantissa : Nat) (exponent : Int) : Nat × Nat :=
  (mantissa * Nat.pow 2 exponent.toNat, Nat.pow 2 (-exponent).toNat)

/-- Units of a power of two, or their negative, as a fraction. -/
def fraction (negative : Bool) (mantissa : Nat) (exponent : Int) : Int × Nat :=
  let (num, den) := size mantissa exponent
  (if negative then -num else num, den)

/-- The sum of two numbers. A sum of zero is only negative if both numbers are;
what is infinite stays so, and infinite numbers of both signs have no sum. -/
def add : Floating → Floating → Floating
  | finite a m e, finite b n f =>
    let (p, q) := fraction a m e
    let (r, s) := fraction b n f
    let total := p * s + r * q
    ofFraction (if total = 0 then a && b else total < 0) total.natAbs (q * s)
  | infinite a, infinite b => if a = b then infinite a else undefined
  | infinite a, finite .. => infinite a
  | finite .., infinite b => infinite b
  | _, _ => undefined

end Floating

end Chatline
