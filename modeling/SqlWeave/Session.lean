/-
  Sessions.

  A session runs statements on one connection and remembers the cursor of the
  last one, the current statement, from which rows are read.  Only a statement
  that was executed becomes current, and closing the session leaves none.

  The connection, its product and the escaper never change; what changes is
  `Session.State`, the world with the current statement.
-/
import SqlWeave.Compile
import SqlWeave.Opening
import SqlWeave.Row

namespace SqlWeave

/-- What a session works with. -/
structure Session (d : Type) where
  connection : Connection d
  product : Option Designation
  quote : Quote (World d)

/-- The choice of an escaper for a session. -/
inductive Escaping (d : Type) where
  /-- The escaper of the product. -/
  | ofProduct
  /-- Generic literals, whatever the product. -/
  | generic
  /-- The caller's own function. -/
  | own (quote : Value → Reply d (List Char))

/-- What `results` gives. -/
inductive Results where
  /-- Rows in their order. -/
  | rows (rows : List Row)
  /-- Rows under the values of a column. -/
  | keyed (entries : List (Value × Row))

/-- What `result` gives; the absent value if there is no row, or not this column. -/
inductive Result where
  | row (r : Row)
  | value (v : Value)

namespace Session

variable {d α : Type}

/-- What changes in a session. -/
structure State (d : Type) where
  /-- The driver and the journal. -/
  world : World d
  /-- The cursor of the current statement. -/
  current : Option CursorId

/-- An action of a session that leaves the current statement alone. -/
def onWorld (a : Act (World d) α) : Act (State d) α :=
  a.within State.world fun s w => { s with world := w }

/-- Makes `c` the current statement. -/
def setCurrent (c : Option CursorId) : Act (State d) Unit :=
  Act.ofFn fun s => (.ok (), { s with current := c })

/-- A session on an open connection, for the given product or else the recognised one. -/
def start (conn : Connection d) (escaping : Escaping d) (product : Option Designation) :
    Except Fault (Session d) := do
  let product := conn.designation? product
  match escaping with
  | .ofProduct => return ⟨conn, product, ← conn.makeQuote product⟩
  | .generic => return ⟨conn, product, literalQuote⟩
  | .own quote => return ⟨conn, product, fun v => ask (.quote v) (quote v)⟩

/-- A session on a new connection for a request. -/
def connect (settings : Settings) (driver : OpenCall → Reply d (Connection d)) (r : Request) :
    Act (World d) (Session d) := do
  let conn ← SqlWeave.connect settings driver r .none
  let product := match r.product with
    | .text name => Designation.ofName? name
    | _ => none
  Act.ofExcept (start conn .ofProduct product)

section
variable (s : Session d)

/-- A statement with its parameters put in; without parameters it is taken as it is. -/
def prepare (sql : String) (parameters : List Value) : Act (State d) String :=
  if parameters.isEmpty then pure sql
  else onWorld (Template.compile sql (.tuple parameters) s.quote)

/-- Executes a statement, which becomes the current one. -/
def query (sql : String) (parameters : List Value) : Act (State d) CursorId := do
  let sql ← s.prepare sql parameters
  onWorld (log .debug (.ok ("Executing SQL: " ++ sql)))
  let c ← onWorld (s.connection.run sql)
  setCurrent (some c)
  return c

/-- The cursor of the current statement, if there is one. -/
def cursor? : Act (State d) (Option CursorId) := Act.ofFn fun st => (.ok st.current, st)

/-- The cursor of the current statement, which there must be. -/
def currentCursor : Act (State d) CursorId := do
  match ← cursor? with
  | some c => return c
  | none => throw .noActiveStatement

/-- All remaining rows of the current statement, under the values of the column `key` if one is
    named. -/
def results (key : Value) : Act (State d) Results := do
  let c ← currentCursor
  let rows ← onWorld (s.connection.rows c)
  if key.isTrue then return .keyed (← Act.ofExcept (Row.keyed key [] rows))
  else return .rows rows

/-- What a column of a row holds: an integer counts columns from 0, and any other value names one. -/
def pick (row : Row) (column : Value) : Except Fault Result :=
  let atPlace := fun i => .ok (.value ((row.valueAt? i).getD .none))
  match column with
  | .none => .ok (.row row)
  | .int i => atPlace i
  | .bool b => atPlace (if b then 1 else 0)
  | name => (row.value? name).map fun v => .value (v.getD .none)

/-- The next row of the current statement, or one column of it. -/
def result (column : Value) : Act (State d) Result := do
  let c ← currentCursor
  match ← onWorld (s.connection.row? c) with
  | none => return .value .none
  | some row => Act.ofExcept (pick row column)

/-- The identifier generated by the last insertion. -/
def lastInsertId : Act (State d) Value := do
  let c ← cursor?
  onWorld (s.connection.lastInsertId c s.product)

/-- Closes the connection; there is no current statement any more. -/
def close : Act (State d) Unit := do
  setCurrent none
  onWorld (ask .close s.connection.close)

/-- Runs a block of work and closes the session afterwards, however the block ends.  An error of
    closing replaces one of the block. -/
def during (block : Act (State d) α) : Act (State d) α := do
  let r ← Act.attempt block
  s.close
  Act.ofExcept r

end

end Session

end SqlWeave
