/-
  Values.

  Parameters, settings and rows hold values of many types, and what is done with
  a value depends on its type: `Value` is the sum of these types.  A value of a
  foreign class is known by what it holds, what it is equal to and what its
  hooks answer (`Custom`).  A class derived from that of floats shows its
  numbers in its own way (`DerivedFloat`).

  The module also says which values are sequences, which are mappings, what a
  value's type is called, which values count as true, and how many elements a
  value has and which.
-/
import SqlWeave.Calendar
import SqlWeave.Numeral.Decimal
import SqlWeave.Numeral.Shortest
import SqlWeave.Raised

namespace SqlWeave

open Numeral (Decimal)
open Calendar (Date Moment)

/-- The number that a value denotes. -/
inductive Quantity where
  /-- A number. -/
  | number (r : Rat)
  /-- An infinity. -/
  | infinite (negative : Bool)
  deriving DecidableEq

/-! ## Values of foreign classes -/

/-- What a value of a foreign class is equal to. -/
inductive Likeness where
  /-- Whatever denotes this number. -/
  | number (q : Quantity)
  /-- The values of this mark: itself, and those that its class holds equal to it. -/
  | own (mark : Nat)
  deriving DecidableEq

/-- What a value of a foreign class holds. -/
inductive Contents (α : Type) where
  /-- Nothing that one could go through. -/
  | nothing
  /-- Elements that come one after another and are not counted. -/
  | ahead (xs : List α)
  /-- Elements of a collection that is no sequence. -/
  | collection (xs : List α)
  /-- Elements of a sequence that is neither a text nor a byte string. -/
  | sequence (xs : List α)
  /-- Entries of a mapping. -/
  | mapping (entries : List (α × α))

namespace Contents

variable {α : Type}

/-- The elements that one meets: the keys of a mapping. -/
def elements? : Contents α → Option (List α)
  | nothing => none
  | ahead xs | collection xs | sequence xs => some xs
  | mapping es => some (es.map Prod.fst)

/-- The number of elements, if they are counted. -/
def length? : Contents α → Option Nat
  | nothing | ahead _ => none
  | collection xs | sequence xs => some xs.length
  | mapping es => some es.length

/-- As many elements as are counted are met. -/
theorem length_elements {c : Contents α} {n : Nat} (h : c.length? = some n) :
    (c.elements?.getD []).length = n := by
  cases c <;> simp_all [length?, elements?]

end Contents

/-- A value of a foreign class.  `α` is the type of what a conversion may give, which need not be a
    number, and of the elements. -/
structure Custom (α : Type) where
  typeName : String
  /-- The text of the value. -/
  text : Except Raised String
  /-- The text of the value for a reader. -/
  shown : Except Raised String
  /-- Its conversion to an integer. -/
  toInt : Option (Except Raised α)
  /-- Its conversion to a float. -/
  toFloat : Option (Except Raised α)
  /-- Its use as an index. -/
  toIndex : Option (Except Raised α)
  contents : Contents α
  likeness : Likeness
  /-- Whether it can be a key. -/
  isKey : Bool

/-- The character begins neither a string nor a comment, and ends none. -/
def IsHarmless (c : Char) : Prop := c ∉ ['\'', '-', '/', '*']

instance (c : Char) : Decidable (IsHarmless c) := inferInstanceAs (Decidable (c ∉ _))

/-- A float of a derived class.  For a reader it is the text of the number between two others, such as
    the name of the class and a bracket, or the one of an enumerated constant. -/
structure DerivedFloat where
  typeName : String
  number : Float
  /-- The text of the value. -/
  text : Except Raised String
  /-- What stands before the number for a reader. -/
  opening : List Char
  /-- What stands after it. -/
  closing : List Char
  /-- Nothing around the number can be taken for SQL of another kind. -/
  harmless : ∀ c ∈ opening ++ closing, IsHarmless c

/-- The text of a float of a derived class for a reader. -/
def DerivedFloat.shown (x : DerivedFloat) : List Char :=
  x.opening ++ Numeral.floatText x.number ++ x.closing

/-! ## Values -/

/-- A value. -/
inductive Value where
  /-- The absent value. -/
  | none
  | bool (b : Bool)
  /-- An integer of any size. -/
  | int (n : Int)
  /-- A binary floating-point number. -/
  | float (x : Float)
  /-- A floating-point number of a class derived from that of the others. -/
  | derivedFloat (x : DerivedFloat)
  | text (s : String)
  | bytes (bs : List UInt8)
  /-- A byte string that can be changed. -/
  | byteArray (bs : List UInt8)
  | list (xs : List Value)
  | tuple (xs : List Value)
  /-- A double-ended queue. -/
  | deque (xs : List Value)
  /-- The integers from `start` to before `stop` in steps of `step`. -/
  | range (start stop step : Int)
  /-- A set, in the order of its elements' listing. -/
  | set (xs : List Value)
  /-- A set that cannot be changed. -/
  | frozenSet (xs : List Value)
  /-- A mapping in insertion order. -/
  | dict (entries : List (Value × Value))
  /-- A view of a mapping that cannot change it. -/
  | dictView (entries : List (Value × Value))
  | decimal (d : Decimal)
  | date (d : Date)
  /-- A date with a time of day. -/
  | moment (t : Moment)
  /-- A value of a foreign class. -/
  | custom (c : Custom Value)
  deriving Inhabited

namespace Value

/-- The name of a value's type. -/
def typeName : Value → String
  | none => "NoneType"
  | bool _ => "bool"
  | int _ => "int"
  | float _ => "float"
  | derivedFloat x => x.typeName
  | text _ => "str"
  | bytes _ => "bytes"
  | byteArray _ => "bytearray"
  | list _ => "list"
  | tuple _ => "tuple"
  | deque _ => "deque"
  | range .. => "range"
  | set _ => "set"
  | frozenSet _ => "frozenset"
  | dict _ => "dict"
  | dictView _ => "mappingproxy"
  | decimal _ => "Decimal"
  | date _ => "date"
  | moment _ => "datetime"
  | custom c => c.typeName

/-- The name of a value's type, with the module it is defined in. -/
def qualifiedTypeName : Value → String
  | deque _ => "collections.deque"
  | decimal _ => "decimal.Decimal"
  | date _ => "datetime.date"
  | moment _ => "datetime.datetime"
  | v => v.typeName

/-- Whether the value is a sequence of elements; texts and byte strings are not. -/
def isSequence : Value → Bool
  | list _ | tuple _ | deque _ | range .. => true
  | custom c => match c.contents with
    | .sequence _ => true
    | _ => false
  | _ => false

/-- The entries of a mapping. -/
def entries? : Value → Option (List (Value × Value))
  | dict es | dictView es => some es
  | custom c => match c.contents with
    | .mapping es => some es
    | _ => Option.none
  | _ => Option.none

/-- Whether the value is a mapping. -/
def isMapping (v : Value) : Bool := v.entries?.isSome

/-- How many integers a range holds; none for a step of zero. -/
def rangeLength (start stop step : Int) : Nat :=
  if 0 < step then ((stop - start + step - 1) / step).toNat
  else if step < 0 then ((start - stop - step - 1) / -step).toNat
  else 0

/-- The integers of a range. -/
def rangeElements (start stop step : Int) : List Value :=
  (List.range (rangeLength start stop step)).map fun (i : Nat) => .int (start + i * step)

/-- How many elements a value has, if it can tell. -/
def length? : Value → Option Nat
  | text s => some s.length
  | bytes bs | byteArray bs => some bs.length
  | list xs | tuple xs | deque xs | set xs | frozenSet xs => some xs.length
  | range a b c => some (rangeLength a b c)
  | dict es | dictView es => some es.length
  | custom c => c.contents.length?
  | _ => Option.none

/-- The elements that one meets when going through a value: characters of a text, numbers of a byte
    string, keys of a mapping. -/
def elements? : Value → Option (List Value)
  | text s => some (s.toList.map fun c => .text (String.singleton c))
  | bytes bs | byteArray bs => some (bs.map fun b => .int b.toNat)
  | list xs | tuple xs | deque xs | set xs | frozenSet xs => some xs
  | range a b c => some (rangeElements a b c)
  | dict es | dictView es => some (es.map Prod.fst)
  | custom c => c.contents.elements?
  | _ => Option.none

/-- Whether a value counts as true: it is not absent, not false, not zero and not empty. -/
def isTrue : Value → Bool
  | none => false
  | bool b => b
  | int n => n != 0
  | float x => x != 0
  | derivedFloat x => x.number != 0
  | decimal d => d.isNonzero
  | v => v.length?.all (· != 0)

end Value

end SqlWeave
