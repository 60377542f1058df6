import Chatline.Floating
/-!
# Printing floating numbers

A floating number is written with the fewest digits that read back as the same
number, and with the nearest such digits. Small and large numbers have an
exponent, all others have a point.
-/

namespace Chatline

namespace Floating

/-- The number of units of a power of ten that reads back as a positive number,
if either neighbour of the number on that grid does; the nearer one first. -/
def onGrid? (mantissa : Nat) (exponent unit : Int) : Option Nat :=
  let (num, den) := size mantissa exponent
  let num := num * Nat.pow 10 (-unit).toNat
  let den := den * Nat.pow 10 unit.toNat
  let nearest := nearestWhole num den
  let other := if nearest = num / den then nearest + 1 else nearest - 1
  [nearest, other].find? fun digits => ofDecimal false digits unit == finite false mantissa exponent

/-- The power of ten of the leading digit of a positive number. -/
def leadingTen (mantissa : Nat) (exponent : Int) : Int :=
  let (num, den) := size mantissa exponent
  settled 10 num den (((Nat.toDigits 10 num).length : Int) - (Nat.toDigits 10 den).length)

/-- A positive number in all its digits, with the power of ten that is their
unit. -/
def exactly (mantissa : Nat) (exponent : Int) : Nat × Int :=
  if 0 ≤ exponent then (mantissa * Nat.pow 2 exponent.natAbs, 0)
  else (mantissa * Nat.pow 5 exponent.natAbs, exponent)

/-- The fewest digits that read back as a positive number, with the power of ten
that is their unit: the coarsest grid with such digits is taken. -/
def shortest (mantissa : Nat) (exponent : Int) : Nat × Int :=
  let found := (List.range 17).findSome? fun (more : Nat) =>
    let unit := leadingTen mantissa exponent - more
    (onGrid? mantissa exponent unit).map fun digits => (digits, unit)
  found.getD (exactly mantissa exponent)

/-- Digits with a point, which stands after so many of them. -/
def positional (digits : List Char) (point : Int) : List Char :=
  if point ≤ 0 then ['0', '.'] ++ List.replicate (-point).toNat '0' ++ digits
  else
    let whole := digits.take point.toNat
    let rest := digits.drop point.toNat
    whole ++ List.replicate (point.toNat - whole.length) '0' ++
      '.' :: (if rest.isEmpty then ['0'] else rest)

/-- Digits with a point after the first, and the power of ten of that one in two
or more digits. -/
def scientific (digits : List Char) (power : Int) : List Char :=
  let size := Nat.toDigits 10 power.natAbs
  digits.take 1 ++ (if digits.length ≤ 1 then [] else '.' :: digits.drop 1) ++
    'e' :: (if power < 0 then '-' else '+') :: (List.replicate (2 - size.length) '0' ++ size)

/-- The digits of a number as they are laid out: a number with more than sixteen
places before the point, or four zeros behind it, has an exponent. -/
def layout (digits : Nat) (unit : Int) : List Char :=
  let written := Nat.toDigits 10 digits
  let point := (written.length : Int) + unit
  let significant := (written.reverse.dropWhile (· == '0')).reverse
  if -3 ≤ point && point ≤ 16 then positional significant point
  else scientific significant (point - 1)

/-- The sign that a number is written with. -/
def sign (negative : Bool) : String := if negative then "-" else ""

/-- A number as it is written. -/
def text : Floating → String
  | finite negative 0 _ => sign negative ++ "0.0"
  | finite negative mantissa exponent =>
    let (digits, unit) := shortest mantissa exponent
    sign negative ++ String.ofList (layout digits unit)
  | infinite negative => sign negative ++ "inf"
  | undefined => "nan"

end Floating

end Chatline
