/-
  Values as keys.

  Numbers of different types are equal if they denote the same number, so `1`,
  `1.0` and `true` are one key; what is no number equals nothing, not even
  itself.  A value of a foreign class equals what its class says, itself at
  least.  Sets are equal if they have the same elements, in whatever order these
  are listed.  Values that can change are no keys.

  * `Value.equal` is equality of values;
  * `Value.checkKey` refuses what cannot be a key;
  * `insert` puts a value under a key: an equal key keeps its place and its
    spelling, and the new value replaces the old one;
  * `lookup?` is the value under a key.
-/
import SqlWeave.Fault

namespace SqlWeave

open Numeral (Decimal)

namespace Value

/-- The number that a float is, if it is one. -/
def quantityOfFloat? (x : Float) : Option Quantity :=
  match Numeral.parts x with
  | .infinite s => some (.infinite s)
  | p => p.toRat?.map .number

/-- The number that a value denotes, if it is one. -/
def quantity? : Value → Option Quantity
  | bool b => some (.number (if b then 1 else 0))
  | int n => some (.number n)
  | float x => quantityOfFloat? x
  | derivedFloat x => quantityOfFloat? x.number
  | decimal (.infinite s) => some (.infinite s)
  | decimal d => d.toRat?.map .number
  | custom c => match c.likeness with
    | .number q => some q
    | .own _ => Option.none
  | _ => Option.none

/-- What a value is like, if it is known by that: a number, or a value of a foreign class. -/
def likeness? : Value → Option Likeness
  | custom c => some c.likeness
  | v => v.quantity?.map .number

/-- Whether two ranges hold the same integers. -/
def sameRange (a b c a' b' c' : Int) : Bool :=
  let n := rangeLength a b c
  n == rangeLength a' b' c' && (n == 0 || a == a' && (n == 1 || c == c'))

mutual

/-- Equality of values. -/
def equal (a b : Value) : Bool :=
  match a with
  | none => match b with
    | none => true
    | _ => false
  | text s => match b with
    | text t => s == t
    | _ => false
  | bytes x => match b with
    | bytes y => x == y
    | _ => false
  | tuple xs => match b with
    | tuple ys => equalAll xs ys
    | _ => false
  | frozenSet xs => match b with
    | frozenSet ys => eachOccurs xs ys && ys.all fun y => occurs xs y
    | _ => false
  | range start stop step => match b with
    | range start' stop' step' => sameRange start stop step start' stop' step'
    | _ => false
  | date x => match b with
    | date y => x == y
    | _ => false
  | moment x => match b with
    | moment y => x.same y
    | _ => false
  | a => match a.likeness?, b.likeness? with
    | some x, some y => x == y
    | _, _ => false
termination_by structural a

/-- Equality element by element. -/
def equalAll (xs ys : List Value) : Bool :=
  match xs with
  | [] => ys.isEmpty
  | x :: xs => match ys with
    | [] => false
    | y :: ys => equal x y && equalAll xs ys
termination_by structural xs

/-- Whether each of some values equals one of others. -/
def eachOccurs (xs ys : List Value) : Bool :=
  match xs with
  | [] => true
  | x :: xs => (ys.any fun y => equal x y) && eachOccurs xs ys
termination_by structural xs

/-- Whether one of some values equals `y`. -/
def occurs (xs : List Value) (y : Value) : Bool :=
  match xs with
  | [] => false
  | x :: xs => equal x y || occurs xs y
termination_by structural xs

end

mutual

/-- Refuses a value that cannot be a key. -/
def checkKey : Value → Except Fault Unit
  | tuple xs => checkKeys xs
  | frozenSet xs => checkKeys xs
  | decimal (.nan _ true _) => .error .signallingKey
  | v@(byteArray _) | v@(list _) | v@(deque _) | v@(set _) | v@(dict _) | v@(dictView _) =>
    .error (.unhashable v.qualifiedTypeName)
  | custom c => if c.isKey then .ok () else .error (.unhashable c.typeName)
  | _ => .ok ()

/-- Refuses values of which one cannot be a key. -/
def checkKeys : List Value → Except Fault Unit
  | [] => .ok ()
  | x :: xs => do
    checkKey x
    checkKeys xs

end

end Value

/-! ## Entries by key -/

namespace Entries

variable {α : Type}

/-- The value under a key equal to `k`. -/
def lookup? (k : Value) : List (Value × α) → Option α
  | [] => none
  | (k', v) :: es => if k'.equal k then some v else lookup? k es

/-- `v` put under the key `k`: an equal key keeps its place and spelling. -/
def insert (k : Value) (v : α) : List (Value × α) → List (Value × α)
  | [] => [(k, v)]
  | (k', v') :: es => if k'.equal k then (k', v) :: es else (k', v') :: insert k v es

/-- `v` put under the key `k`, if that can be a key. -/
def insert? (es : List (Value × α)) (k : Value) (v : α) : Except Fault (List (Value × α)) := do
  k.checkKey
  return insert k v es

end Entries

end SqlWeave
