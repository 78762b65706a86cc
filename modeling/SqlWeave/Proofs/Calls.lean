/-
  Calls of a session, one after another.

  An `Operation` is what can be asked of a session, and a `Call` is an operation
  performed in some state, with its outcome and the state after it.  A call that
  fails does not end the session, so `Session.calls` goes on with the state that
  the failure left.

  * `exec_run`, `exec_query`, `exec_lastInsertId`: what the operations do that
    execute statements;
  * `keeps_prepare`: preparing a statement does no more than the escaper;
  * `beside_results`, `beside_result`: reading rows does no more than fetching
    them.
-/
import SqlWeave.Proofs.Keeping
import SqlWeave.Session

namespace SqlWeave

variable {d : Type}

open Act (Keeps exec_bind exec_bind_pure)

/-- What can be asked of a session. -/
inductive Operation where
  | prepare (sql : String) (parameters : List Value)
  | query (sql : String) (parameters : List Value)
  | results (key : Value)
  | result (column : Value)
  | lastInsertId
  | close

/-- What an operation gives. -/
inductive Answer where
  | text (sql : String)
  | cursor (c : CursorId)
  | results (r : Results)
  | result (r : Result)
  | identifier (v : Value)
  | closed

/-- An operation performed in some state. -/
structure Call (d : Type) where
  operation : Operation
  before : Session.State d
  outcome : Except Fault Answer
  after : Session.State d

namespace Session

section
variable (s : Session d)

/-- The action of an operation. -/
def perform : Operation → Act (State d) Answer
  | .prepare sql parameters => do return .text (← s.prepare sql parameters)
  | .query sql parameters => do return .cursor (← s.query sql parameters)
  | .results key => do return .results (← s.results key)
  | .result column => do return .result (← s.result column)
  | .lastInsertId => do return .identifier (← s.lastInsertId)
  | .close => do
    s.close
    return .closed

/-- The call of an operation in a state. -/
def call (op : Operation) (st : State d) : Call d :=
  ⟨op, st, (Act.exec (s.perform op) st).1, (Act.exec (s.perform op) st).2⟩

/-- Calls one after another, whether they fail or not. -/
def calls : List Operation → State d → List (Call d)
  | [], _ => []
  | op :: ops, st => s.call op st :: calls ops (s.call op st).after

/-- The state after calls. -/
def after (ops : List Operation) (st : State d) : State d :=
  ops.foldl (fun st op => (s.call op st).after) st

@[simp] theorem after_nil (st : State d) : s.after [] st = st := rfl

@[simp] theorem after_cons (op : Operation) (ops : List Operation) (st : State d) :
    s.after (op :: ops) st = s.after ops (s.call op st).after := rfl

/-- Each call of a run is one of an operation, in the state before it. -/
theorem eq_call_of_mem_calls {ops : List Operation} {st : State d} {c : Call d}
    (h : c ∈ s.calls ops st) : c = s.call c.operation c.before := by
  induction ops generalizing st with
  | nil => cases h
  | cons op ops ih =>
    rcases List.mem_cons.1 h with rfl | h
    · rfl
    · exact ih h

end

/-! ## On the world -/

theorem exec_onWorld {α : Type} (a : Act (World d) α) (st : State d) :
    Act.exec (onWorld a) st =
      ((Act.exec a st.world).1, { st with world := (Act.exec a st.world).2 }) := rfl

theorem exec_setCurrent (c : Option CursorId) (st : State d) :
    Act.exec (setCurrent c) st = (.ok (), { st with current := c }) := rfl

theorem exec_cursor? (st : State d) : Act.exec cursor? st = (.ok st.current, st) := rfl

/-- The current statement stays, and the worlds are related. -/
def Beside (R : World d → World d → Prop) (st st' : State d) : Prop :=
  st'.current = st.current ∧ R st.world st'.world

end Session

theorem exec_ask {α : Type} (e : Event) (reply : Reply d α) (w : World d) :
    Act.exec (ask e reply) w =
      ((reply w.driver).1, ⟨(reply w.driver).2, w.journal ++ [.event e]⟩) := rfl

theorem exec_look {α : Type} (read : d → α) (w : World d) :
    Act.exec (look read) w = (.ok (read w.driver), w) := rfl

theorem exec_log (level : Level) (message : Except Fault String) (w : World d) :
    Act.exec (log level message) w = (.ok (), w.note (.log ⟨level, message⟩)) := rfl

/-! ## On the connection -/

namespace Connection

variable (conn : Connection d)

/-- A statement is executed on a new cursor, if there is one. -/
theorem exec_run (sql : String) (w : World d) :
    Act.exec (conn.run sql) w = match conn.cursor w.driver with
      | (.error f, x) => (.error f, ⟨x, w.journal ++ [.event .cursor]⟩)
      | (.ok c, x) =>
        ((conn.execute c sql x).1.map fun _ => c,
          ⟨(conn.execute c sql x).2, w.journal ++ [.event .cursor, .event (.execute c sql)]⟩) := by
  rw [run, exec_bind, exec_ask]
  rcases conn.cursor w.driver with ⟨f | c, x⟩
  · rfl
  · simp only
    rw [exec_bind, exec_ask]
    rcases conn.execute c sql x with ⟨_ | _, y⟩ <;> simp [Except.map]

/-- A cursor without columns is not asked for rows. -/
theorem exec_rows_of_no_columns {c : CursorId} {w : World d}
    (h : conn.description c w.driver = none ∨ conn.description c w.driver = some []) :
    Act.exec (conn.rows c) w = (.ok [], w) := by
  rw [rows, exec_bind, exec_look]
  rcases h with h | h <;> rw [h] <;> rfl

theorem exec_row?_of_no_columns {c : CursorId} {w : World d}
    (h : conn.description c w.driver = none ∨ conn.description c w.driver = some []) :
    Act.exec (conn.row? c) w = (.ok none, w) := by
  rw [row?, exec_bind, exec_look]
  rcases h with h | h <;> rw [h] <;> rfl

/-- All rows that are fetched are paired with the names of the columns. -/
theorem exec_rows_of_columns {c : CursorId} {w : World d} {names : List Value}
    (h : conn.description c w.driver = some names) (hne : names ≠ []) :
    Act.exec (conn.rows c) w =
      ((conn.fetchAll c w.driver).1.bind fun rows => rows.mapM (Row.ofValues names),
        ⟨(conn.fetchAll c w.driver).2, w.journal ++ [.event (.fetchAll c)]⟩) := by
  obtain ⟨n, ns, rfl⟩ := List.exists_cons_of_ne_nil hne
  rw [rows, exec_bind, exec_look, h]
  simp only
  rw [exec_bind, exec_ask]
  rcases conn.fetchAll c w.driver with ⟨f | rows, x⟩ <;> rfl

/-- And so is the next row, if one is fetched. -/
theorem exec_row?_of_columns {c : CursorId} {w : World d} {names : List Value}
    (h : conn.description c w.driver = some names) (hne : names ≠ []) :
    Act.exec (conn.row? c) w =
      ((conn.fetchOne c w.driver).1.bind fun row =>
          row.elim (.ok none) fun values => (Row.ofValues names values).map some,
        ⟨(conn.fetchOne c w.driver).2, w.journal ++ [.event (.fetchOne c)]⟩) := by
  obtain ⟨n, ns, rfl⟩ := List.exists_cons_of_ne_nil hne
  rw [row?, exec_bind, exec_look, h]
  simp only
  rw [exec_bind, exec_ask]
  rcases conn.fetchOne c w.driver with ⟨f | _ | values, x⟩
  · rfl
  · rfl
  · simp only [exec_bind, Act.exec_ofExcept, Except.bind, Option.elim_some]
    rcases Row.ofValues (n :: ns) values with f | row <;> rfl

/-- Either nothing is asked, and there are no rows, or all rows are fetched. -/
theorem exec_rows (c : CursorId) (w : World d) :
    Act.exec (conn.rows c) w = (.ok [], w) ∨
      (Act.exec (conn.rows c) w).2 =
        ⟨(conn.fetchAll c w.driver).2, w.journal ++ [.event (.fetchAll c)]⟩ := by
  rcases h : conn.description c w.driver with _ | ⟨_ | ⟨n, ns⟩⟩
  · exact .inl (conn.exec_rows_of_no_columns (.inl h))
  · exact .inl (conn.exec_rows_of_no_columns (.inr h))
  · right
    rw [conn.exec_rows_of_columns h (List.cons_ne_nil n ns)]

/-- Either nothing is asked, and there is no row, or the next row is fetched. -/
theorem exec_row? (c : CursorId) (w : World d) :
    Act.exec (conn.row? c) w = (.ok none, w) ∨
      (Act.exec (conn.row? c) w).2 =
        ⟨(conn.fetchOne c w.driver).2, w.journal ++ [.event (.fetchOne c)]⟩ := by
  rcases h : conn.description c w.driver with _ | ⟨_ | ⟨n, ns⟩⟩
  · exact .inl (conn.exec_row?_of_no_columns (.inl h))
  · exact .inl (conn.exec_row?_of_no_columns (.inr h))
  · right
    rw [conn.exec_row?_of_columns h (List.cons_ne_nil n ns)]

section
variable {R : World d → World d → Prop} [IsPreorder (World d) R] {c : CursorId}

theorem keeps_rows (h : Keeps R (ask (.fetchAll c) (conn.fetchAll c))) : Keeps R (conn.rows c) := by
  intro w
  rcases conn.exec_rows c w with hr | hr
  · rw [hr]
    exact Std.Refl.refl w
  · rw [hr]
    exact h w

theorem keeps_row? (h : Keeps R (ask (.fetchOne c) (conn.fetchOne c))) : Keeps R (conn.row? c) := by
  intro w
  rcases conn.exec_row? c w with hr | hr
  · rw [hr]
    exact Std.Refl.refl w
  · rw [hr]
    exact h w

theorem keeps_firstValue (hf : Keeps R (ask (.fetchOne c) (conn.fetchOne c)))
    (hc : Keeps R (ask (.closeCursor c) (conn.closeCursor c))) : Keeps R (conn.firstValue c) :=
  hf.attempt.bind fun _ => hc.bind fun _ => (Keeps.ofExcept _).bind fun _ => Keeps.pure _

end

end Connection

/-! ## The operations -/

namespace Session

variable (s : Session d) (st : State d)

theorem call_prepare (sql : String) (parameters : List Value) :
    s.call (.prepare sql parameters) st =
      let r := Act.exec (s.prepare sql parameters) st
      ⟨.prepare sql parameters, st, r.1.map .text, r.2⟩ := by
  rw [call, perform, exec_bind_pure]

theorem call_query (sql : String) (parameters : List Value) :
    s.call (.query sql parameters) st =
      let r := Act.exec (s.query sql parameters) st
      ⟨.query sql parameters, st, r.1.map .cursor, r.2⟩ := by
  rw [call, perform, exec_bind_pure]

theorem call_results (key : Value) :
    s.call (.results key) st =
      let r := Act.exec (s.results key) st
      ⟨.results key, st, r.1.map .results, r.2⟩ := by
  rw [call, perform, exec_bind_pure]

theorem call_result (column : Value) :
    s.call (.result column) st =
      let r := Act.exec (s.result column) st
      ⟨.result column, st, r.1.map .result, r.2⟩ := by
  rw [call, perform, exec_bind_pure]

theorem call_lastInsertId :
    s.call .lastInsertId st =
      let r := Act.exec s.lastInsertId st
      ⟨.lastInsertId, st, r.1.map .identifier, r.2⟩ := by
  rw [call, perform, exec_bind_pure]

theorem call_close :
    s.call .close st =
      let r := Act.exec s.close st
      ⟨.close, st, r.1.map fun _ => .closed, r.2⟩ := by
  rw [call, perform, exec_bind_pure]

/-- Preparing a statement does to the world no more than the escaper. -/
theorem keeps_prepare {R : World d → World d → Prop} [IsPreorder (World d) R]
    (hq : ∀ v, Keeps R (s.quote v)) (sql : String) (parameters : List Value) :
    Keeps (Beside R) (s.prepare sql parameters) := by
  intro st
  rw [prepare]
  split
  · exact ⟨rfl, Std.Refl.refl _⟩
  · exact ⟨rfl, Keeps.compile hq _ _ _⟩

theorem current_prepare (sql : String) (parameters : List Value) :
    (Act.exec (s.prepare sql parameters) st).2.current = st.current := by
  rw [prepare]
  split <;> rfl

/-- A query prepares its statement, logs it and executes it on a new cursor, and only then the
    cursor becomes the current one. -/
theorem exec_query (sql : String) (parameters : List Value) :
    Act.exec (s.query sql parameters) st = match Act.exec (s.prepare sql parameters) st with
      | (.error f, st') => (.error f, st')
      | (.ok text, st') =>
        match Act.exec (s.connection.run text)
          (st'.world.note (.log ⟨.debug, .ok ("Executing SQL: " ++ text)⟩)) with
        | (.error f, w) => (.error f, { st' with world := w })
        | (.ok c, w) => (.ok c, ⟨w, some c⟩) := by
  rw [query, exec_bind]
  rcases Act.exec (s.prepare sql parameters) st with ⟨f | text, st'⟩
  · rfl
  · simp only
    rw [exec_bind, exec_onWorld, exec_log]
    simp only
    rw [exec_bind, exec_onWorld]
    rcases Act.exec (s.connection.run text) _ with ⟨f | c, w⟩ <;> rfl

theorem exec_currentCursor :
    Act.exec currentCursor st = match st.current with
      | some c => (.ok c, st)
      | none => (.error .noActiveStatement, st) := by
  rw [currentCursor, exec_bind, exec_cursor?]
  rcases st.current with _ | c <;> rfl

/-- Without a current statement there are no rows, and the driver is not asked for any. -/
theorem exec_results_of_none {st : State d} (h : st.current = none) (key : Value) :
    Act.exec (s.results key) st = (.error .noActiveStatement, st) := by
  rw [results, exec_bind, exec_currentCursor, h]

theorem exec_result_of_none {st : State d} (h : st.current = none) (column : Value) :
    Act.exec (s.result column) st = (.error .noActiveStatement, st) := by
  rw [result, exec_bind, exec_currentCursor, h]

/-- Of all rows, what is asked for is made of them and nothing else is done. -/
theorem exec_results_of_some {st : State d} {c : CursorId} (h : st.current = some c) (key : Value) :
    Act.exec (s.results key) st =
      let r := Act.exec (s.connection.rows c) st.world
      (r.1.bind fun rows =>
        if key.isTrue then (Row.keyed key [] rows).map .keyed else .ok (.rows rows),
        { st with world := r.2 }) := by
  obtain ⟨w, current⟩ := st
  obtain rfl : current = some c := h
  rw [results, exec_bind, exec_currentCursor]
  simp only
  rw [exec_bind, exec_onWorld]
  rcases Act.exec (s.connection.rows c) w with ⟨f | rows, w'⟩
  · rfl
  · simp only [Except.bind]
    split
    · rw [exec_bind_pure]
      rfl
    · rfl

theorem exec_result_of_some {st : State d} {c : CursorId} (h : st.current = some c)
    (column : Value) :
    Act.exec (s.result column) st =
      let r := Act.exec (s.connection.row? c) st.world
      (r.1.bind fun row => row.elim (.ok (.value .none)) fun row => pick row column,
        { st with world := r.2 }) := by
  obtain ⟨w, current⟩ := st
  obtain rfl : current = some c := h
  rw [result, exec_bind, exec_currentCursor]
  simp only
  rw [exec_bind, exec_onWorld]
  rcases Act.exec (s.connection.row? c) w with ⟨f | _ | row, w'⟩ <;> rfl

section
variable {R : World d → World d → Prop} [IsPreorder (World d) R] {st : State d}

/-- Reading rows does no more to the world than fetching them from the current cursor. -/
theorem beside_results (h : ∀ c ∈ st.current, Keeps R (s.connection.rows c)) (key : Value) :
    Beside R st (Act.exec (s.results key) st).2 := by
  rcases hc : st.current with _ | c
  · rw [s.exec_results_of_none hc]
    exact ⟨rfl, Std.Refl.refl _⟩
  · rw [s.exec_results_of_some hc]
    exact ⟨rfl, h c hc st.world⟩

theorem beside_result (h : ∀ c ∈ st.current, Keeps R (s.connection.row? c)) (column : Value) :
    Beside R st (Act.exec (s.result column) st).2 := by
  rcases hc : st.current with _ | c
  · rw [s.exec_result_of_none hc]
    exact ⟨rfl, Std.Refl.refl _⟩
  · rw [s.exec_result_of_some hc]
    exact ⟨rfl, h c hc st.world⟩

end

theorem exec_lastInsertId :
    Act.exec s.lastInsertId st =
      Act.exec (onWorld (s.connection.lastInsertId st.current s.product)) st := by
  rw [lastInsertId, exec_bind, exec_cursor?]

theorem exec_close :
    Act.exec s.close st =
      ((s.connection.close st.world.driver).1,
        ⟨⟨(s.connection.close st.world.driver).2, st.world.journal ++ [.event .close]⟩, none⟩) := by
  rw [close, exec_bind, exec_setCurrent]
  rfl

end Session

end SqlWeave
