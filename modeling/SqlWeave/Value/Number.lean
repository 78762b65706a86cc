/-
  The integer and the float that a value denotes.

  These are the strict conversions: a value without a numeric reading is
  refused, with the cause.  `Value.toInteger` cuts a number off at its point and
  reads texts as integers; `Value.toDouble` rounds to the nearest float.  A
  foreign value answers by its own hooks, the one for the wanted type before the
  one for an index, and what a hook gives must have that type.
-/
import SqlWeave.Value.Display

namespace SqlWeave

open Numeral (Decimal)

namespace Value

/-- The greatest length of a text that an error message quotes. -/
def quoteLimit : Nat := 200

/-- The fault for a text refused as an integer. -/
def integerFault (shown : List Char) : Numeral.Refusal → Fault
  | .malformed => .notInteger (String.ofList (shown.take quoteLimit))
  | .tooLong n => .numeralTooLong n

/-- The integer that a text denotes. -/
def integerOfChars (cs : List Char) : Except Fault Int :=
  (Numeral.read cs).mapError (integerFault (Text.quoted cs))

/-- The integer that a byte string denotes. -/
def integerOfBytes (bs : List UInt8) : Except Fault Int :=
  (Numeral.readBytes bs).mapError (integerFault (Text.quotedBytes bs))

/-- The whole part of a float. -/
def integerOfFloat (x : Float) : Except Fault Int :=
  match Numeral.parts x with
  | .nan => .error (.nanToInteger "float NaN")
  | .infinite _ => .error (.infinityToInteger "float infinity")
  | .finite s m q => .ok (Numeral.signed s (Numeral.wholePart m q))

/-- The whole part of a decimal. -/
def integerOfDecimal (d : Decimal) : Except Fault Int :=
  match d with
  | .infinite _ => .error (.infinityToInteger "Infinity")
  | .nan .. => .error (.nanToInteger "NaN")
  | d => .ok (d.truncate?.getD 0)

/-- The integer that the hook `hook` of a foreign value gives. -/
def hookInteger (hook : String) : Except Raised Value → Except Fault Int
  | .error e => .error (.raised e)
  | .ok (int n) => .ok n
  | .ok (bool b) => .ok (if b then 1 else 0)
  | .ok v => .error (.hookResult hook "int" v.qualifiedTypeName)

/-- The integer that a value denotes. -/
def toInteger : Value → Except Fault Int
  | bool b => .ok (if b then 1 else 0)
  | int n => .ok n
  | float x => integerOfFloat x
  | derivedFloat x => integerOfFloat x.number
  | text s => integerOfChars s.toList
  | bytes bs | byteArray bs => integerOfBytes bs
  | decimal d => integerOfDecimal d
  | custom c => match c.toInt, c.toIndex with
    | some hook, _ => hookInteger "__int__" hook
    | Option.none, some hook => hookInteger "__index__" hook
    | Option.none, Option.none => .error (.noIntegerReading c.typeName)
  | v => .error (.noIntegerReading v.qualifiedTypeName)

/-- The float nearest to an integer. -/
def floatOfInteger (n : Int) : Except Fault Float :=
  match Numeral.ofInt? n with
  | some x => .ok x
  | Option.none => .error .integerTooLarge

/-- The float nearest to a decimal. -/
def floatOfDecimal : Decimal → Except Fault Float
  | .finite s d e => .ok (Numeral.ofDecimal s d e)
  | .infinite s => .ok (Float.ofBits (if s then 0xFFF0000000000000 else 0x7FF0000000000000))
  | .nan _ true _ => .error .signallingToFloat
  | .nan _ false _ => .ok (Float.ofBits 0x7FF8000000000000)

/-- The float that a value that is neither a text nor a byte string denotes. -/
def toDouble : Value → Except Fault Float
  | bool b => .ok (if b then 1 else 0)
  | int n => floatOfInteger n
  | float x => .ok x
  | derivedFloat x => .ok x.number
  | decimal d => floatOfDecimal d
  | custom c => match c.toFloat, c.toIndex with
    | some (.error e), _ => .error (.raised e)
    | some (.ok (float x)), _ => .ok x
    | some (.ok (derivedFloat x)), _ => .ok x.number
    | some (.ok v), _ => .error (.hookResult (c.typeName ++ ".__float__") "float" v.qualifiedTypeName)
    | Option.none, some hook => do floatOfInteger (← hookInteger "__index__" hook)
    | Option.none, Option.none => .error (.noFloatReading c.typeName)
  | v => .error (.noFloatReading v.qualifiedTypeName)

end Value

end SqlWeave
