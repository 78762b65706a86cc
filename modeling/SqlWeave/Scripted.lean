/-
  Connections that follow a script.

  A scripted connection answers each statement with the next part of a script,
  and an exhausted script answers with nothing.  Its state is plain data, so a
  whole session on it can be computed.

  * `Script` is what the connection will answer, `Scripted` the state of all
    cursors and of the caller's own escaper;
  * `Scripted.connection` is the connection.
-/
import SqlWeave.Connection

namespace SqlWeave

/-- The answer to one statement. -/
structure Reaction where
  /-- The error that executing it raises. -/
  error : Option Raised
  /-- The error that fetching its rows raises. -/
  fetchError : Option Raised
  /-- The names of the columns. -/
  description : Option (List Value)
  rows : List (List Value)
  /-- The identifier of the inserted row; absent if there is none. -/
  lastRowId : Value
  deriving Inhabited

/-- What a scripted connection will answer. -/
structure Script where
  /-- The answers to the statements. -/
  reactions : List Reaction
  /-- The error that asking for a cursor raises. -/
  cursorError : Option Raised
  /-- The error that closing the connection raises. -/
  closeError : Option Raised
  deriving Inhabited

/-- A class of scripted connections. -/
structure ScriptedClass where
  name : String
  /-- The product it belongs to, if it is recognised. -/
  product? : Option Product
  /-- Whether its connections can escape. -/
  canEscape : Bool
  /-- The mark of what its connections escape. -/
  escapeMark : String
  /-- The mark of its driver's literals. -/
  literalMark : String
  deriving Inhabited

/-- The state of a scripted connection and of the caller's own escaper. -/
structure Scripted where
  /-- What is still to be answered. -/
  script : Script
  /-- What each cursor was answered, without the rows already fetched. -/
  cursors : List Reaction
  /-- How often the caller's own escaper was called. -/
  quoted : Nat
  deriving Inhabited

namespace Scripted

/-- A nothing of an answer. -/
def silence : Reaction := ⟨none, none, none, [], .none⟩

/-- The state at the beginning. -/
def init (script : Script) : Scripted := ⟨script, [], 0⟩

/-- An outcome that fails with a given error, if there is one. -/
def failingWith {α : Type} (error : Option Raised) (a : α) : Except Fault α :=
  match error with
  | some e => .error (.raised e)
  | none => .ok a

/-- What a cursor was answered. -/
def reaction (s : Scripted) (c : CursorId) : Reaction := (s.cursors[c]?).getD silence

/-- The state with another answer for a cursor. -/
def setReaction (s : Scripted) (c : CursorId) (r : Reaction) : Scripted :=
  { s with cursors := s.cursors.set c r }

/-- A new cursor. -/
def cursor : Reply Scripted CursorId := fun s =>
  match s.script.cursorError with
  | some e => (.error (.raised e), s)
  | none => (.ok s.cursors.length, { s with cursors := s.cursors ++ [silence] })

/-- A statement, answered by the next part of the script. -/
def execute (c : CursorId) : Reply Scripted Unit := fun s =>
  let r := (s.script.reactions.head?).getD silence
  let s := { s with script := { s.script with reactions := s.script.reactions.drop 1 } }
  match r.error with
  | some e => (.error (.raised e), s)
  | none => (.ok (), s.setReaction c r)

/-- All remaining rows. -/
def fetchAll (c : CursorId) : Reply Scripted (List (List Value)) := fun s =>
  let r := s.reaction c
  match r.fetchError with
  | some e => (.error (.raised e), s)
  | none => (.ok r.rows, s.setReaction c { r with rows := [] })

/-- The next row. -/
def fetchOne (c : CursorId) : Reply Scripted (Option (List Value)) := fun s =>
  let r := s.reaction c
  match r.fetchError with
  | some e => (.error (.raised e), s)
  | none => (.ok r.rows.head?, s.setReaction c { r with rows := r.rows.drop 1 })

/-- A value's text in angle brackets after a mark, which tells who escaped it. -/
def marked (mark : String) (v : Value) : Except Fault (List Char) :=
  v.plain.map fun cs => mark.toList ++ '<' :: cs ++ ['>']

/-- A connection of a class that follows its script. -/
def connection (c : ScriptedClass) : Connection Scripted where
  className := c.name
  product? := c.product?
  cursor := cursor
  execute := fun k _ => execute k
  description := fun k s => (s.reaction k).description
  fetchAll := fetchAll
  fetchOne := fetchOne
  lastRowId := fun k s => (s.reaction k).lastRowId
  closeCursor := fun _ s => (.ok (), s)
  close := fun s => (failingWith s.script.closeError (), s)
  escape? := if c.canEscape then some fun v s => (marked c.escapeMark v, s) else none
  literal := fun v s => (marked c.literalMark v, s)

/-- An escaper that marks values, counts its calls and fails at the call `failAt`. -/
def tag (mark : String) (failAt : Option (Nat × Raised)) (v : Value) : Reply Scripted (List Char) :=
  fun s =>
    let n := s.quoted + 1
    let s := { s with quoted := n }
    match failAt with
    | some (k, e) => if n = k then (.error (.raised e), s) else (marked mark v, s)
    | none => (marked mark v, s)

end Scripted

end SqlWeave
