/-
  Loose numeric casts.

  A loose cast always has an answer for plain data: a number is taken, a text or
  byte string gives the number it starts with, and anything that has no numeric
  reading gives zero.

  * `Value.castInteger` cuts off at the point and keeps integers of any size
    exact;
  * `Value.castFloat` takes a comma in a text for the decimal point, and gives
    zero for what is not finite.

  Two kinds of input fail all the same: a number after an information separator,
  which is blank but not stripped, and an integer text of too many digits; and
  what a foreign value's hook raises, unless it tells of a failed conversion,
  passes through.
-/
import SqlWeave.Numeral.Leading
import SqlWeave.Text.Utf8
import SqlWeave.Value.Number

namespace SqlWeave

open Numeral (Leading leading?)

namespace Value

/-- The text of a text or byte string. -/
def chars? : Value → Option (List Char)
  | text s => some s.toList
  | bytes bs | byteArray bs => some (Text.Utf8.decode bs)
  | _ => Option.none

/-- The whole part of a finite float, zero for any other. -/
def wholeOfFloat (x : Float) : Int := (Numeral.parts x).truncate?.getD 0

/-- A finite float, zero for any other. -/
def finiteOrZero (x : Float) : Float := if Numeral.isFinite x then x else 0

/-- The answer of a strict conversion, and `zero` where the value has no numeric reading. -/
def orZero {α : Type} (zero : α) : Except Fault α → Except Fault α
  | .ok a => .ok a
  | .error f => if f.isConversionError then .ok zero else .error f

/-- The float of a leading number. -/
def floatOfLeading (l : Leading) : Except Fault Float :=
  if l.isSeparated then .error (.notDecimal (String.ofList (Text.quoted l.source)))
  else .ok l.toFloat

/-- The integer of a leading number: exact if it has neither point nor exponent, and through a
    float otherwise. -/
def integerOfLeading (l : Leading) : Except Fault Int :=
  if l.isInteger then
    if l.isSeparated then
      .error (.notInteger (String.ofList ((Text.quoted l.source).take quoteLimit)))
    else if Numeral.maxDigits < l.whole.length then .error (.numeralTooLong l.whole.length)
    else .ok l.integer
  else (floatOfLeading l).map wholeOfFloat

/-- A comma read as the decimal point. -/
def commaAsPoint (cs : List Char) : List Char := cs.map fun c => if c = ',' then '.' else c

/-- The loose integer cast. -/
def castInteger (v : Value) : Except Fault Int :=
  match v with
  | bool b => .ok (if b then 1 else 0)
  | int n => .ok n
  | float x => .ok (wholeOfFloat x)
  | derivedFloat x => .ok (wholeOfFloat x.number)
  | v => match v.chars? with
    | some cs => match leading? cs with
      | some l => integerOfLeading l
      | Option.none => .ok 0
    | Option.none => orZero 0 v.toInteger

/-- The loose float cast. -/
def castFloat (v : Value) : Except Fault Float :=
  match v with
  | float x => .ok (finiteOrZero x)
  | derivedFloat x => .ok (finiteOrZero x.number)
  | v => match v.chars? with
    | some cs => match leading? (commaAsPoint cs) with
      | some l => (floatOfLeading l).map finiteOrZero
      | Option.none => .ok 0
    | Option.none => orZero 0 (v.toDouble.map finiteOrZero)

end Value

end SqlWeave
