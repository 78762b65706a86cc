/-
  Connections.

  A `Connection` is what a driver offers on an open connection, over a state `d`
  of the driver's own about which nothing is known.  A `World` is the driver's
  state and the journal: every exchange with the driver and every log record is
  written into it before it happens, so the journal tells what was asked of the
  driver and in which order, also when the driver fails.

  * `ask` is the one way to a driver: it notes an event and passes the request
    on;
  * `World.events` and `World.logs` are the two parts of the journal.
-/
import SqlWeave.Conversion
import SqlWeave.Product

namespace SqlWeave

/-- A cursor, as its connection names it. -/
abbrev CursorId := Nat

/-- A driver's argument: a value, or what identifies a user. -/
inductive Argument where
  | value (v : Value)
  /-- A user's name and password. -/
  | credentials (user password : Value)

/-- The call that opens a connection. -/
structure OpenCall where
  product : Product
  /-- The arguments by position. -/
  positional : List Value
  /-- The arguments by name, each name once. -/
  keywords : List (String × Argument)

/-- Something asked of a driver. -/
inductive Event where
  /-- A connection is opened. -/
  | opened (call : OpenCall)
  | cursor
  | execute (c : CursorId) (sql : String)
  | fetchAll (c : CursorId)
  | fetchOne (c : CursorId)
  | closeCursor (c : CursorId)
  | close
  /-- The connection escapes a value. -/
  | escape (v : Value)
  /-- The driver writes a value as a literal for the connection. -/
  | literal (v : Value)
  /-- The caller's own escaper is called. -/
  | quote (v : Value)

/-- How grave a log record is. -/
inductive Level where
  /-- For those who follow the program. -/
  | debug
  /-- A failure. -/
  | error
  deriving DecidableEq, Repr

/-- A log record.  It is made before its message is written, and stays when that fails. -/
structure Record where
  level : Level
  message : Except Fault String

/-- A line of the journal. -/
inductive Entry where
  /-- Something was asked of the driver. -/
  | event (e : Event)
  /-- Something was logged. -/
  | log (r : Record)

/-- The state of a driver, and what has been asked of it and logged so far. -/
structure World (d : Type) where
  /-- The driver's own state. -/
  driver : d
  /-- What happened, in order. -/
  journal : List Entry

/-- How a driver answers: with an outcome and a new state. -/
abbrev Reply (d α : Type) := d → Except Fault α × d

namespace World

variable {d : Type}

/-- The world with one more line in its journal. -/
def note (e : Entry) (w : World d) : World d := { w with journal := w.journal ++ [e] }

/-- What was asked of the driver. -/
def events (w : World d) : List Event :=
  w.journal.filterMap fun
    | .event e => some e
    | .log _ => none

/-- What was logged. -/
def logs (w : World d) : List Record :=
  w.journal.filterMap fun
    | .event _ => none
    | .log r => some r

@[simp] theorem events_note_event (e : Event) (w : World d) :
    (w.note (.event e)).events = w.events ++ [e] := by simp [events, note]
@[simp] theorem logs_note_event (e : Event) (w : World d) :
    (w.note (.event e)).logs = w.logs := by simp [logs, note]
@[simp] theorem events_note_log (r : Record) (w : World d) :
    (w.note (.log r)).events = w.events := by simp [events, note]
@[simp] theorem logs_note_log (r : Record) (w : World d) :
    (w.note (.log r)).logs = w.logs ++ [r] := by simp [logs, note]

end World

section
variable {d α : Type}

/-- Notes an event and passes the request on to the driver. -/
def ask (e : Event) (reply : Reply d α) : Act (World d) α :=
  Act.ofFn fun w =>
    let w := w.note (.event e)
    let (r, s) := reply w.driver
    (r, { w with driver := s })

/-- Reads the driver's state. -/
def look (read : d → α) : Act (World d) α := Act.ofFn fun w => (.ok (read w.driver), w)

/-- Makes a log record. -/
def log (level : Level) (message : Except Fault String) : Act (World d) Unit :=
  Act.ofFn fun w => (.ok (), w.note (.log ⟨level, message⟩))

end

/-- What a driver offers on an open connection. -/
structure Connection (d : Type) where
  className : String
  /-- The product that the class belongs to, if it is recognised. -/
  product? : Option Product
  cursor : Reply d CursorId
  execute : CursorId → String → Reply d Unit
  /-- The names of the columns of a cursor's rows, if it has rows. -/
  description : CursorId → d → Option (List Value)
  /-- Gives all remaining rows of a cursor. -/
  fetchAll : CursorId → Reply d (List (List Value))
  /-- Gives the next row of a cursor. -/
  fetchOne : CursorId → Reply d (Option (List Value))
  /-- The identifier of the last inserted row; absent if the driver has none. -/
  lastRowId : CursorId → d → Value
  closeCursor : CursorId → Reply d Unit
  close : Reply d Unit
  /-- The connection's own escaping, if it has one. -/
  escape? : Option (Value → Reply d (List Char))
  /-- The driver's literal for a value on this connection. -/
  literal : Value → Reply d (List Char)

/-! ## Products of connections -/

/-- A product as a caller names it: one that is not known is taken on trust. -/
inductive Designation where
  | known (p : Product)
  | other (name : String)
  deriving DecidableEq, Repr

namespace Designation

/-- The designation by a name; the empty name designates nothing. -/
def ofName? (s : String) : Option Designation :=
  if s = "" then none
  else match Product.ofName? s with
    | some p => some (.known p)
    | none => some (.other s)

end Designation

namespace Connection

variable {d : Type}

/-- The product of a connection: the given one, or else the one its class belongs to. -/
def designation? (conn : Connection d) (given : Option Designation) : Option Designation :=
  given.or (conn.product?.map .known)

/-- The escaper for a connection.  MySQL and PostgreSQL escape by the driver, which knows the
    server's rules; other products have generic literals. -/
def makeQuote (conn : Connection d) (given : Option Designation) : Except Fault (Quote (World d)) :=
  match conn.designation? given with
  | none => .error (.noEscaper conn.className)
  | some (.known .mysql) => match conn.escape? with
    | some escape => .ok fun v => ask (.escape v) (escape v)
    | none => .error (.noMember conn.className "escape")
  | some (.known .postgres) => .ok fun v => ask (.literal v) (conn.literal v)
  | some _ => .ok literalQuote

/-- Executes a statement on a new cursor. -/
def run (conn : Connection d) (sql : String) : Act (World d) CursorId := do
  let c ← ask .cursor conn.cursor
  ask (.execute c sql) (conn.execute c sql)
  return c

/-- The statement that asks PostgreSQL for the last generated identifier. -/
def lastIdStatement : String := "SELECT lastval()"

/-- The first value of the only row of a statement, whose cursor is closed afterwards. -/
def firstValue (conn : Connection d) (c : CursorId) : Act (World d) Value := do
  let row ← Act.attempt (ask (.fetchOne c) (conn.fetchOne c))
  ask (.closeCursor c) (conn.closeCursor c)
  return ((← Act.ofExcept row).bind List.head?).getD .none

/-- The identifier generated by the last insertion.  PostgreSQL is asked by a statement of its own;
    with other products the cursor of the insertion knows. -/
def lastInsertId (conn : Connection d) (cursor : Option CursorId) (product : Option Designation) :
    Act (World d) Value := do
  if product = some (.known .postgres) then
    conn.firstValue (← conn.run lastIdStatement)
  else match cursor with
    | none => return .none
    | some c => look (conn.lastRowId c)

end Connection

end SqlWeave
