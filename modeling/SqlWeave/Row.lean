/-
  Rows as named values.

  A `Row` has a value under the name of each column.  Columns of equal names
  share one place, the first, and hold the last one's value.  Names and values
  are paired from the left, and a row of another length than the names fails
  where the shorter one ends (`Row.ofValues`).

  * `Connection.rows` gives all remaining rows of a cursor, and
    `Connection.row?` the next one;
  * a cursor without columns has no rows, and is not asked for any.
-/
import SqlWeave.Connection
import SqlWeave.Value.Key

namespace SqlWeave

/-- Values by the names of their columns. -/
abbrev Row := List (Value × Value)

namespace Row

/-- A row with more columns. -/
def extend (row : Row) : (names values : List Value) → Except Fault Row
  | [], [] => .ok row
  | [], _ :: _ => .error .rowTooLong
  | _ :: _, [] => .error .rowTooShort
  | n :: ns, v :: vs => do
    let row ← Entries.insert? row n v
    extend row ns vs

/-- The row of some values under the names of their columns. -/
def ofValues (names values : List Value) : Except Fault Row := extend [] names values

/-- The value of a column by its name. -/
def value? (row : Row) (name : Value) : Except Fault (Option Value) := do
  name.checkKey
  return Entries.lookup? name row

/-- The value of a column by its name, which the row must have. -/
def value (row : Row) (name : Value) : Except Fault Value := do
  match ← row.value? name with
  | some v => return v
  | none => throw (.missingColumn (String.ofList (← name.shown)))

/-- The value at a place, counted from 0. -/
def valueAt? (row : Row) (i : Int) : Option Value :=
  if 0 ≤ i then (row[i.toNat]?).map Prod.snd else none

/-- Rows under the values of one column: an equal value keeps its place, and the last row counts. -/
def keyed (key : Value) : List (Value × Row) → List Row → Except Fault (List (Value × Row))
  | es, [] => .ok es
  | es, row :: rows => do
    let es ← Entries.insert? es (← row.value key) row
    keyed key es rows

end Row

namespace Connection

variable {d : Type}

/-- All remaining rows of a cursor. -/
def rows (conn : Connection d) (c : CursorId) : Act (World d) (List Row) := do
  match ← look (conn.description c) with
  | none | some [] => return []
  | some names =>
    let values ← ask (.fetchAll c) (conn.fetchAll c)
    Act.ofExcept (values.mapM (Row.ofValues names))

/-- The next row of a cursor. -/
def row? (conn : Connection d) (c : CursorId) : Act (World d) (Option Row) := do
  match ← look (conn.description c) with
  | none | some [] => return none
  | some names =>
    match ← ask (.fetchOne c) (conn.fetchOne c) with
    | none => return none
    | some values => return some (← Act.ofExcept (Row.ofValues names values))

end Connection

end SqlWeave
