/-
  The journal of a session's calls.

  The escaper and the reading of rows write into the journal too, so a journal is
  read by its trail: the log records, the cursors asked for and the statements
  executed.

  * `Session.trail` is what a call should leave on the trail, and `statements`
    and `records` are the statements and the log records in it;
  * `trail_call`: a call leaves what it should, whatever the driver answers;
  * `rejection?` is the error with which a query is rejected before anything is
    escaped;
  * `journal_after`: the journal of any calls, and of the rejected ones.
-/
import Mathlib.Data.List.Basic
import SqlWeave.Proofs.Calls
import SqlWeave.Scripted

namespace SqlWeave

variable {d : Type}

open Act (Keeps)

/-! ## The trail of a journal -/

namespace Entry

/-- Whether a line belongs to the trail: a log record, a cursor asked for or a statement
    executed. -/
def onTrail : Entry → Bool
  | .log _ | .event .cursor | .event (.execute ..) => true
  | _ => false

/-- The statement that is executed at a line. -/
def statement? : Entry → Option String
  | .event (.execute _ sql) => some sql
  | _ => none

/-- The record that is logged at a line. -/
def record? : Entry → Option Record
  | .log r => some r
  | .event _ => none

theorem statement?_of_not_onTrail {e : Entry} (h : e.onTrail = false) : e.statement? = none := by
  fun_cases Entry.statement? e with
  | case1 => cases h
  | case2 => rfl

theorem record?_of_not_onTrail {e : Entry} (h : e.onTrail = false) : e.record? = none := by
  cases e with
  | event => rfl
  | log => cases h

end Entry

namespace World

/-- The log records, the cursors asked for and the statements executed, in order. -/
def trail (w : World d) : List Entry := w.journal.filter Entry.onTrail

/-- The statements executed, in order. -/
def executed (w : World d) : List String := w.journal.filterMap Entry.statement?

@[simp] theorem trail_append (x : d) (es fs : List Entry) :
    trail ⟨x, es ++ fs⟩ = es.filter Entry.onTrail ++ fs.filter Entry.onTrail :=
  List.filter_append ..

theorem trail_note_log (r : Record) (w : World d) :
    (w.note (.log r)).trail = w.trail ++ [.log r] := List.filter_append ..

theorem filterMap_trail {α : Type} {f : Entry → Option α}
    (h : ∀ {e : Entry}, e.onTrail = false → f e = none) (w : World d) :
    w.trail.filterMap f = w.journal.filterMap f := by
  rw [trail, List.filterMap_filter]
  refine List.filterMap_congr fun e _ => ?_
  by_cases he : e.onTrail = true
  · rw [if_pos he]
  · rw [if_neg he, h (Bool.eq_false_iff.2 he)]

theorem executed_eq (w : World d) : w.executed = w.trail.filterMap Entry.statement? :=
  (w.filterMap_trail Entry.statement?_of_not_onTrail).symm

theorem logs_eq (w : World d) : w.logs = w.trail.filterMap Entry.record? := by
  rw [w.filterMap_trail Entry.record?_of_not_onTrail, logs]
  exact List.filterMap_congr fun e _ => by cases e <;> rfl

/-- Nothing comes onto the trail. -/
def SameTrail (w w' : World d) : Prop := w'.trail = w.trail

instance : IsPreorder (World d) SameTrail where
  refl _ := rfl
  trans _ _ _ h h' := h'.trans h

end World

open World (SameTrail)

theorem sameTrail_ask {α : Type} {e : Event} (he : (Entry.event e).onTrail = false)
    (reply : Reply d α) : Keeps SameTrail (ask e reply) := by
  intro w
  rw [exec_ask, SameTrail, World.trail_append]
  simp [he, World.trail]

/-! ## What calls should leave -/

/-- The running of a statement: a cursor is asked for, and on it the statement is executed. -/
def Connection.trail (conn : Connection d) (sql : String) (x : d) : List Entry :=
  match (conn.cursor x).1 with
  | .ok c => [.event .cursor, .event (.execute c sql)]
  | .error _ => [.event .cursor]

namespace Session

variable (s : Session d)

/-- The record of a statement that is going to be executed. -/
def announcement (text : String) : Record := ⟨.debug, .ok ("Executing SQL: " ++ text)⟩

/-- What a call should leave on the trail.  A query whose statement can be prepared is announced and
    then run.  Asking PostgreSQL for the last identifier runs a statement as well. -/
def trail (c : Call d) : List Entry :=
  match c.operation with
  | .query sql ps => match Act.exec (s.prepare sql ps) c.before with
    | (.ok text, st) =>
      .log (announcement text) :: s.connection.trail text st.world.driver
    | (.error _, _) => []
  | .lastInsertId =>
    if s.product = some (.known .postgres) then
      s.connection.trail Connection.lastIdStatement c.before.world.driver
    else []
  | _ => []

/-- The statements that a call should execute: a query, if its statement can be prepared and there is
    a cursor for it, exactly that statement. -/
def statements (c : Call d) : List String :=
  match c.operation with
  | .query sql ps => match Act.exec (s.prepare sql ps) c.before with
    | (.ok text, st) => if (s.connection.cursor st.world.driver).1.isOk then [text] else []
    | (.error _, _) => []
  | .lastInsertId =>
    if s.product = some (.known .postgres) ∧ (s.connection.cursor c.before.world.driver).1.isOk then
      [Connection.lastIdStatement]
    else []
  | _ => []

/-- The records that a call should log: a query, if its statement can be prepared, exactly one of that
    statement. -/
def records (c : Call d) : List Record :=
  match c.operation with
  | .query sql ps => match (Act.exec (s.prepare sql ps) c.before).1 with
    | .ok text => [announcement text]
    | .error _ => []
  | _ => []

theorem statements_trail (c : Call d) : (s.trail c).filterMap Entry.statement? = s.statements c := by
  obtain ⟨op, before, -, -⟩ := c
  cases op with
  | query sql ps =>
    simp only [trail, statements]
    rcases Act.exec (s.prepare sql ps) before with ⟨f | text, st⟩
    · rfl
    · simp only [Connection.trail]
      rcases (s.connection.cursor st.world.driver).1 with f | c <;> rfl
  | lastInsertId =>
    simp only [trail, statements]
    by_cases h : s.product = some (.known .postgres)
    · rw [if_pos h, Connection.trail]
      rcases (s.connection.cursor before.world.driver).1 with f | c <;>
        simp only [h, Except.isOk, Except.toBool, and_self] <;> rfl
    · simp [h]
  | prepare | results | result | close => rfl

theorem records_trail (c : Call d) : (s.trail c).filterMap Entry.record? = s.records c := by
  obtain ⟨op, before, -, -⟩ := c
  have hrun : ∀ sql x, (s.connection.trail sql x).filterMap Entry.record? = [] := by
    intro sql x
    rw [Connection.trail]
    split <;> rfl
  cases op with
  | query sql ps =>
    simp only [trail, records]
    rcases Act.exec (s.prepare sql ps) before with ⟨f | text, st⟩
    · rfl
    · simp [Entry.record?, hrun]
  | lastInsertId =>
    simp only [trail, records]
    split
    · exact hrun _ _
    · rfl
  | prepare | results | result | close => rfl

end Session

/-! ## What calls leave -/

theorem Connection.trail_run (conn : Connection d) (sql : String) (w : World d) :
    (Act.exec (conn.run sql) w).2.trail = w.trail ++ conn.trail sql w.driver := by
  rw [exec_run, Connection.trail]
  rcases conn.cursor w.driver with ⟨f | c, x⟩ <;> simp [World.trail, Entry.onTrail]

theorem Connection.trail_lastInsertId (conn : Connection d) (current : Option CursorId)
    (product : Option Designation) (w : World d) :
    (Act.exec (conn.lastInsertId current product) w).2.trail =
      w.trail ++ if product = some (.known .postgres) then conn.trail lastIdStatement w.driver
        else [] := by
  unfold lastInsertId
  split
  · have hr := conn.trail_run lastIdStatement w
    rw [Act.exec_bind]
    generalize Act.exec (conn.run lastIdStatement) w = r at hr ⊢
    rcases r with ⟨f | c, w'⟩
    · exact hr
    · have hv : Keeps SameTrail (conn.firstValue c) :=
        conn.keeps_firstValue (sameTrail_ask rfl _) (sameTrail_ask rfl _)
      exact (hv w').trans hr
  · rw [List.append_nil]
    rcases current with _ | c <;> rfl

namespace Session

variable {s : Session d}

/-- No escaper of a session logs anything or runs a statement. -/
theorem sameTrail_quote {conn : Connection d} {escaping : Escaping d} {product : Option Designation}
    (hs : start conn escaping product = .ok s) (v : Value) : Keeps SameTrail (s.quote v) := by
  cases escaping with
  | generic =>
    cases hs
    exact .ofExcept _
  | own quote =>
    cases hs
    exact sameTrail_ask rfl _
  | ofProduct =>
    obtain ⟨quote, hq, rfl⟩ := map_eq_ok_iff.1 hs
    simp only [Connection.makeQuote] at hq
    split at hq
    · cases hq
    · split at hq
      · cases hq
        exact sameTrail_ask rfl _
      · cases hq
    · cases hq
      exact sameTrail_ask rfl _
    · cases hq
      exact .ofExcept _

section
variable (hq : ∀ v, Keeps SameTrail (s.quote v))

include hq

theorem trail_query (sql : String) (parameters : List Value) (st : State d) :
    (Act.exec (s.query sql parameters) st).2.world.trail =
      st.world.trail ++ s.trail (s.call (.query sql parameters) st) := by
  have hp : (Act.exec (s.prepare sql parameters) st).2.world.trail = st.world.trail :=
    (s.keeps_prepare hq sql parameters st).2
  rw [exec_query, trail]
  simp only [call]
  generalize Act.exec (s.prepare sql parameters) st = r at hp ⊢
  rcases r with ⟨f | text, st'⟩
  · simpa using hp
  · have hr := s.connection.trail_run text (st'.world.note (.log (announcement text)))
    rw [World.trail_note_log, hp, List.append_assoc] at hr
    simp only [announcement] at hr ⊢
    generalize Act.exec (s.connection.run text) _ = r at hr ⊢
    rcases r with ⟨f | c, w⟩ <;> exact hr

/-- A call leaves on the trail what it should, whatever the driver answers. -/
theorem trail_call (op : Operation) (st : State d) :
    (s.call op st).after.world.trail = st.world.trail ++ s.trail (s.call op st) := by
  cases op with
  | prepare sql ps =>
    rw [call_prepare, trail, List.append_nil]
    exact (s.keeps_prepare hq sql ps st).2
  | query sql ps =>
    rw [← trail_query hq, call_query]
  | results key =>
    rw [call_results, trail, List.append_nil]
    exact (s.beside_results (fun c _ => s.connection.keeps_rows (sameTrail_ask rfl _)) key).2
  | result column =>
    rw [call_result, trail, List.append_nil]
    exact (s.beside_result (fun c _ => s.connection.keeps_row? (sameTrail_ask rfl _)) column).2
  | lastInsertId =>
    rw [call_lastInsertId, exec_lastInsertId]
    exact s.connection.trail_lastInsertId st.current s.product st.world
  | close =>
    rw [call_close, exec_close, trail, World.trail_append, List.append_nil]
    exact List.append_nil _

/-- What a run leaves on the trail: what each of its calls should, in their order. -/
theorem trail_after (ops : List Operation) (st : State d) :
    (s.after ops st).world.trail = st.world.trail ++ (s.calls ops st).flatMap s.trail := by
  induction ops generalizing st with
  | nil => exact (List.append_nil _).symm
  | cons op ops ih =>
    rw [after_cons, ih, trail_call hq, calls, List.flatMap_cons, List.append_assoc]

end

/-! ## Rejected queries -/

/-- The error with which a query is rejected before anything is escaped: there are parameters and
    markers, but not as many of the one as of the other, or a parameter does not fit its marker. -/
def rejection? (sql : String) (parameters : List Value) : Option Fault :=
  let t := Template.ofString sql
  if parameters = [] ∨ t.count = 0 then none
  else if parameters.length ≠ t.count then some (.arity t.count parameters.length sql)
  else ((t.kinds.zip parameters).find? fun p => !p.1.accepts p.2).map fun p =>
    .shape p.1 p.2.typeName

/-- A query that is rejected does nothing at all. -/
theorem exec_query_of_rejection {sql : String} {parameters : List Value} {f : Fault}
    (h : rejection? sql parameters = some f) (st : State d) :
    Act.exec (s.query sql parameters) st = (.error f, st) := by
  suffices hp : Act.exec (s.prepare sql parameters) st = (.error f, st) by rw [exec_query, hp]
  simp only [rejection?] at h
  split at h
  · cases h
  rename_i hne
  obtain ⟨hps, h0⟩ := not_or.1 hne
  rw [prepare, if_neg (by simpa using hps), exec_onWorld]
  split at h
  · rename_i hn
    cases h
    rw [Template.exec_compile_of_arity _ _ h0 (Value.length_tuple parameters) hn]
  · rename_i hn
    obtain ⟨⟨k, v⟩, hkv, rfl⟩ := Option.map_eq_some_iff.1 h
    have hlength : (Value.tuple parameters).length = .ok (Template.ofString sql).count := by
      rw [Value.length_tuple, not_not.1 hn]
    rw [Template.exec_compile_of_misfit _ _ h0 hlength hkv]

/-- **What a session executes and logs.**  Whatever the driver answers, the statements executed during
    any calls are, in the order of the calls, for each query whose statement can be prepared and for
    which there is a cursor, that statement, and for each last identifier asked of PostgreSQL for
    which there is a cursor, the statement that asks for it.  The records logged are one for each query
    whose statement can be prepared, and the trail of each call tells that it comes before the cursor
    is asked for.  A statement without parameters is prepared as it is, and a query that is rejected
    leaves no line in the journal. -/
theorem journal_after {conn : Connection d} {escaping : Escaping d} {product : Option Designation}
    (hs : start conn escaping product = .ok s) (ops : List Operation) (st : State d) :
    (s.after ops st).world.executed =
        st.world.executed ++ (s.calls ops st).flatMap s.statements ∧
      (s.after ops st).world.logs = st.world.logs ++ (s.calls ops st).flatMap s.records ∧
      (∀ c ∈ s.calls ops st, c.after.world.trail = c.before.world.trail ++ s.trail c) ∧
      (∀ sql (st : State d), Act.exec (s.prepare sql []) st = (.ok sql, st)) ∧
      ∀ sql ps f, rejection? sql ps = some f →
        ∀ st : State d, Act.exec (s.query sql ps) st = (.error f, st) := by
  have hq := sameTrail_quote hs
  have htrail := trail_after hq ops st
  refine ⟨?_, ?_, fun c hc => ?_, fun sql st => rfl, fun sql ps f h => exec_query_of_rejection h⟩
  · rw [World.executed_eq, World.executed_eq, htrail, List.filterMap_append,
      List.filterMap_flatMap, funext s.statements_trail]
  · rw [World.logs_eq, World.logs_eq, htrail, List.filterMap_append, List.filterMap_flatMap,
      funext s.records_trail]
  · rw [s.eq_call_of_mem_calls hc]
    exact trail_call hq c.operation c.before

/-- A query that PostgreSQL refuses, one that is rejected, and a last identifier. -/
theorem journal_after_refusal :
    let conn := Scripted.connection ⟨"Scripted", some .postgres, false, "", "E"⟩
    let s : Session Scripted :=
      ⟨conn, some (.known .postgres), fun v => ask (.literal v) (conn.literal v)⟩
    let refusal : Reaction :=
      { Scripted.silence with error := some ⟨⟨none, "ValueError"⟩, [], .ok "no table"⟩ }
    let st : State Scripted := ⟨⟨Scripted.init ⟨[refusal], none, none⟩, []⟩, none⟩
    let ops : List Operation :=
      [.query "SELECT a FROM t WHERE b = ?s" [.text "x"], .query "SELECT ?s, ?a" [.text "x", .text "y"],
        .lastInsertId]
    start conn .ofProduct none = .ok s ∧
      (s.after ops st).world.executed = ["SELECT a FROM t WHERE b = E<x>", "SELECT lastval()"] ∧
      (s.after ops st).world.logs =
        [⟨.debug, .ok "Executing SQL: SELECT a FROM t WHERE b = E<x>"⟩] ∧
      rejection? "SELECT ?s, ?a" [.text "x", .text "y"] = some (.shape .array "str") ∧
      Act.exec (s.query "SELECT ?s, ?a" [.text "x", .text "y"]) st =
        (.error (.shape .array "str"), st) := by
  intro conn s refusal st ops
  have hs : start conn .ofProduct none = .ok s := rfl
  have hr : rejection? "SELECT ?s, ?a" [.text "x", .text "y"] = some (.shape .array "str") := rfl
  obtain ⟨hexecuted, hlogs, -, -, hrejected⟩ := journal_after hs ops st
  exact ⟨hs, hexecuted, hlogs, hr, hrejected _ _ _ hr st⟩

end Session

end SqlWeave
