/-
  Generic SQL literals.

  The escaping for products whose driver has none: `NULL`, `TRUE` and `FALSE`,
  bare finite numbers as they are shown to a reader, byte strings in hexadecimal,
  and for anything else its text between single quotes, each single quote in it
  written twice.
-/
import SqlWeave.Value.Display

namespace SqlWeave

/-- A text with every single quote written twice. -/
def doubleQuotes (cs : List Char) : List Char :=
  cs.flatMap fun c => if c = '\'' then ['\'', '\''] else [c]

theorem doubleQuotes_cons (c : Char) (cs : List Char) :
    doubleQuotes (c :: cs) = (if c = '\'' then ['\'', '\''] else [c]) ++ doubleQuotes cs :=
  List.flatMap_cons

/-- A text as an SQL string. -/
def sqlString (cs : List Char) : List Char := '\'' :: doubleQuotes cs ++ ['\'']

/-- A byte string as an SQL literal. -/
def sqlBytes (bs : List UInt8) : List Char := 'X' :: '\'' :: Text.hexBytes bs ++ ['\'']

/-- A value as an SQL literal. -/
def literal : Value → Except Fault (List Char)
  | .none => .ok "NULL".toList
  | .bool b => .ok (if b then "TRUE" else "FALSE").toList
  | .int n => Value.integerText n
  | .float x => .ok (if Numeral.isFinite x then Numeral.floatText x else "NULL".toList)
  | .derivedFloat x => .ok (if Numeral.isFinite x.number then x.shown else "NULL".toList)
  | .bytes bs | .byteArray bs => .ok (sqlBytes bs)
  | v => return sqlString (← v.plain)

end SqlWeave
