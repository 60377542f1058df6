import Chatline.Failure.Mismatch
import Chatline.Floating.Place
/-!
# Host data

The host hands over plain data: defaults, results of callbacks, options of a
fault. `Datum` is that data, together with the mark `unset` for a value that
was not given. It has a truth value, equality as the host sees it, and a clean
copy in which sequences are lists and nothing is left unset.
-/

namespace Chatline

/-- A value that the host hands over. -/
inductive Datum where
  /-- The absent value, which is a value of its own. -/
  | null
  /-- A truth value. -/
  | bool (b : Bool)
  /-- A whole number. -/
  | int (n : Int)
  /-- A floating number. -/
  | floating (x : Floating)
  /-- A text. -/
  | text (s : String)
  /-- A list. -/
  | list (items : List Datum)
  /-- A sequence of fixed length. -/
  | tuple (items : List Datum)
  /-- A set; no two items are the same. -/
  | set (items : List Datum)
  /-- A map in the order of its insertions. -/
  | map (entries : List (Datum × Datum))
  /-- The mark of a value that was not given. -/
  | unset

instance : Inhabited Datum := ⟨.null⟩

namespace Datum

/-- The name of a value's type, as messages write it. -/
def typeName : Datum → String
  | null => "NoneType"
  | bool _ => "bool"
  | int _ => "int"
  | floating _ => "float"
  | text _ => "str"
  | list _ => "list"
  | tuple _ => "tuple"
  | set _ => "set"
  | map _ => "dict"
  | unset => "UnsetType"

/-- The text that a value is, if it is one. -/
def text? : Datum → Option String
  | text s => some s
  | _ => none

/-- Whether a value counts as true: the absent and unset values, zero and
whatever is empty do not. -/
def truthy : Datum → Bool
  | null => false
  | bool b => b
  | int n => n != 0
  | floating x => !x.isZero
  | text s => s != ""
  | list items => !items.isEmpty
  | tuple items => !items.isEmpty
  | set items => !items.isEmpty
  | map entries => !entries.isEmpty
  | unset => false

/-- Where a numeric value stands on the number line; truth values count as zero
and one. -/
def place? : Datum → Option Place
  | bool b => some (.ofInt (if b then 1 else 0))
  | int n => some (.ofInt n)
  | floating x => some x.place
  | _ => none

/-- Whether two values are numbers of the same size. -/
def sameNumber (a b : Datum) : Bool :=
  match a.place?, b.place? with
  | some p, some q => p.isSame q
  | _, _ => false

/-- Whether a whole number is greater than a value; there is no answer for what is
no number. -/
def isExceededBy? (d : Datum) (n : Int) : Option Bool := d.place?.map (·.isBelow (.ofInt n))

/-- Whether a whole number is at most a value; there is no answer for what is no
number. -/
def isAtLeast? (d : Datum) (n : Int) : Option Bool := d.place?.map (Place.ofInt n).isAtMost

/-- Whether a value is at most a whole number; there is no answer for what is no
number. -/
def isAtMost? (d : Datum) (n : Int) : Option Bool := d.place?.map (·.isAtMost (.ofInt n))

/-- The whole number that a value is; truth values count as zero and one. -/
def whole? : Datum → Option Int
  | bool b => some (if b then 1 else 0)
  | int n => some n
  | _ => none

/-- The floating number that a numeric value is, or that is nearest to it. -/
def floating? : Datum → Option Floating
  | floating x => some x
  | value => value.whole?.map Floating.ofInt

/-- Whether a value is a whole number too large to be made a floating one. -/
def isTooLarge (d : Datum) : Bool :=
  match d.whole? with
  | some n => (Floating.ofInt n).isInfinite
  | none => false

/-- The sum of two numbers, which is a floating number if one of them is. A whole
number may be too large to be made one. -/
def sum? (a b : Datum) : Option (Except Mismatch Datum) :=
  match a.whole?, b.whole?, a.floating?, b.floating? with
  | some m, some n, _, _ => some (.ok (int (m + n)))
  | _, _, some x, some y =>
    some (if a.isTooLarge || b.isTooLarge then .error .tooLarge else .ok (floating (x.add y)))
  | _, _, _, _ => none

/-- One value after the other: texts and lists are joined and numbers are
added. -/
def plus (a b : Datum) : Except Mismatch Datum :=
  match a, b with
  | text s, text t => .ok (text (s ++ t))
  | list items, list others => .ok (list (items ++ others))
  | text _, _ => .error (.notJoinable a.typeName b.typeName)
  | list _, _ => .error (.notJoinable a.typeName b.typeName)
  | _, _ => (sum? a b).getD (.error (.notAddable a.typeName b.typeName))

mutual

/-- Whether two values are equal. Numbers are compared by size, whatever their
type; maps and sets are equal to nothing here. -/
def same : Datum → Datum → Bool
  | null, null => true
  | unset, unset => true
  | text s, text t => s == t
  | list items, list others => sameItems items others
  | tuple items, tuple others => sameItems items others
  | a, b => sameNumber a b

/-- Whether two sequences are equal item by item. -/
def sameItems : List Datum → List Datum → Bool
  | [], [] => true
  | item :: items, other :: others => same item other && sameItems items others
  | _, _ => false

end

mutual

/-- The type of the first part of a value that keeps it out of sets: a
container that can change. -/
def changeable? : Datum → Option String
  | list _ => some "list"
  | set _ => some "set"
  | map _ => some "dict"
  | tuple items => changeableAmong? items
  | _ => none

/-- The type of the first part of some values that keeps them out of sets. -/
def changeableAmong? : List Datum → Option String
  | [] => none
  | item :: items => (changeable? item).or (changeableAmong? items)

end

/-- The items without those that equal an earlier one. -/
def distinct (items : List Datum) : List Datum :=
  items.foldl (fun kept item => if kept.any (same item) then kept else kept ++ [item]) []

/-- The set of some values, if each of them may be put into one. -/
def setOf (items : List Datum) : Except Mismatch Datum :=
  match changeableAmong? items with
  | some type => .error (.unhashable type)
  | none => .ok (.set (distinct items))

/-- The entries of a map after one more: a key that equals one that is there
gives its value to it. -/
def putSame (entries : List (Datum × Datum)) (key value : Datum) : List (Datum × Datum) :=
  match entries with
  | [] => [(key, value)]
  | (k, v) :: rest => if same k key then (k, value) :: rest else (k, v) :: putSame rest key value

/-- The value, or `fallback` where none was given. -/
def coalesce (value fallback : Datum) : Datum :=
  match value with
  | unset => fallback
  | value => value

mutual

/-- A clean copy: sequences become lists, maps keep their keys and order, sets
hold the copies of their items, and what is unset becomes null. A set whose
items cannot stay in a set once they are copied has no copy. -/
def copy : Datum → Except Mismatch Datum
  | list items => (copyItems items).map list
  | tuple items => (copyItems items).map list
  | map entries => (copyEntries entries).map map
  | set items => (copyItems items).bind setOf
  | unset => .ok null
  | value => .ok value

/-- The clean copies of some values. -/
def copyItems : List Datum → Except Mismatch (List Datum)
  | [] => .ok []
  | item :: items =>
    match copy item, copyItems items with
    | .ok item, .ok items => .ok (item :: items)
    | .error e, _ => .error e
    | _, .error e => .error e

/-- The entries with clean copies of their values. -/
def copyEntries : List (Datum × Datum) → Except Mismatch (List (Datum × Datum))
  | [] => .ok []
  | (key, value) :: entries =>
    match copy value, copyEntries entries with
    | .ok value, .ok entries => .ok ((key, value) :: entries)
    | .error e, _ => .error e
    | _, .error e => .error e

end

/-- The items of a value that can be gone through: a text has its characters
and a map its keys. -/
def items? : Datum → Except Mismatch (List Datum)
  | text s => .ok (s.toList.map fun c => text (String.singleton c))
  | list items => .ok items
  | tuple items => .ok items
  | set items => .ok items
  | map entries => .ok (entries.map (·.1))
  | value => .error (.notIterable value.typeName)

/-- The two items that a value is taken apart into. -/
def pair? (d : Datum) : Except Mismatch (Datum × Datum) :=
  match d.items? with
  | .ok [first, second] => .ok (first, second)
  | .ok [] => .error (.tooFewParts 2 0)
  | .ok [_] => .error (.tooFewParts 2 1)
  | .ok (_ :: _ :: _) => .error (.tooManyParts 2)
  | .error _ => .error (.notParted d.typeName)

/-- The first of one or two values, or the second in its place where the first
is unset. -/
def coalesced : List Datum → Except Mismatch Datum
  | [] => .error (.missingOperand "coalesce" "object")
  | [value] => .ok (value.coalesce null)
  | [value, fallback] => .ok (value.coalesce fallback)
  | values => .error (.extraOperands "coalesce" 1 2 values.length)

end Datum

end Chatline
