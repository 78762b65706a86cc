/-
  The current statement of a session.

  Calls may succeed or fail in any order, and the driver and the escaper may
  answer as they like.

  * `Call.settles` says what one call decides about the current statement, and
    `currentOf` what the calls so far have decided;
  * `Cursors.Spared` compares two states of a driver: no cursor is lost, and all
    but the one that was worked on have the same rows to give;
  * `current_statement`: after any calls the current statement is that of the
    latest query that succeeded, if the session was not closed since, and a
    call that does not concern it leaves it and its rows as they are.
-/
import SqlWeave.Proofs.Calls
import SqlWeave.Proofs.Faults
import SqlWeave.Scripted

namespace SqlWeave

variable {d ρ : Type}

open Act (Keeps)

/-! ## Which statement is current -/

/-- What a call decides about the current statement.  A query that succeeds makes its cursor the
    current one, and after closing, whether that fails or not, there is none. -/
def Call.settles (c : Call d) : Option (Option CursorId) :=
  match c.operation, c.outcome with
  | .query .., .ok (.cursor k) => some (some k)
  | .close, _ => some none
  | _, _ => none

/-- What the latest call that decides about the current statement has made it; at first there is
    none. -/
def currentOf (cs : List (Call d)) : Option CursorId := (cs.reverse.findSome? Call.settles).getD none

namespace Session

variable (s : Session d)

theorem current_query (sql : String) (parameters : List Value) (st : State d) :
    (Act.exec (s.query sql parameters) st).2.current =
      match (Act.exec (s.query sql parameters) st).1 with
      | .ok c => some c
      | .error _ => st.current := by
  have hp := s.current_prepare st sql parameters
  rw [exec_query]
  generalize Act.exec (s.prepare sql parameters) st = r at hp ⊢
  rcases r with ⟨f | text, st'⟩
  · exact hp
  · simp only
    generalize Act.exec (s.connection.run text) _ = r
    rcases r with ⟨f | c, w⟩
    · exact hp
    · rfl

/-- One call changes the current statement as it decides, and in no other way. -/
theorem current_call (op : Operation) (st : State d) :
    (s.call op st).after.current = (s.call op st).settles.getD st.current := by
  cases op with
  | prepare sql ps =>
    rw [call_prepare]
    exact s.current_prepare st sql ps
  | query sql ps =>
    have hq := s.current_query sql ps st
    rw [call_query]
    generalize Act.exec (s.query sql ps) st = r at hq ⊢
    rcases r with ⟨f | c, st'⟩ <;> exact hq
  | results key =>
    rw [call_results]
    rcases hc : st.current with _ | c
    · rw [s.exec_results_of_none hc]
      exact hc
    · rw [s.exec_results_of_some hc]
      exact hc
  | result column =>
    rw [call_result]
    rcases hc : st.current with _ | c
    · rw [s.exec_result_of_none hc]
      exact hc
    · rw [s.exec_result_of_some hc]
      exact hc
  | lastInsertId =>
    rw [call_lastInsertId, exec_lastInsertId]
    rfl
  | close =>
    rw [call_close, exec_close]
    rfl

theorem current_after (ops : List Operation) (st : State d) :
    (s.after ops st).current =
      ((s.calls ops st).reverse.findSome? Call.settles).getD st.current := by
  induction ops generalizing st with
  | nil => rfl
  | cons op ops ih =>
    rw [after_cons, ih, current_call, calls, List.reverse_cons, List.findSome?_append]
    rcases (s.calls ops _).reverse.findSome? Call.settles with _ | c <;>
      rcases h : (s.call op st).settles with _ | c' <;> simp [h]

/-! ## Rows without a current statement -/

theorem failsWith_pick (row : Row) (column : Value) : FailsWith Fault.IsOfRow (pick row column) := by
  unfold pick
  dsimp only
  split
  · exact .ok _
  · exact .ok _
  · exact .ok _
  · exact (Row.failsWith_value? row _).map _

end Session

/-- No fetch of the driver replies that there is no current statement, which is not for the driver to
    say. -/
structure Connection.IsForeign (conn : Connection d) : Prop where
  fetchAll (c : CursorId) (x : d) : (conn.fetchAll c x).1 ≠ .error .noActiveStatement
  fetchOne (c : CursorId) (x : d) : (conn.fetchOne c x).1 ≠ .error .noActiveStatement

namespace Session

section
variable {s : Session d} (hf : s.connection.IsForeign)
include hf

theorem failsWith_rows (c : CursorId) (w : World d) :
    FailsWith (· ≠ .noActiveStatement) (Act.exec (s.connection.rows c) w).1 := by
  rcases hd : s.connection.description c w.driver with _ | ⟨_ | ⟨n, ns⟩⟩
  · rw [s.connection.exec_rows_of_no_columns (.inl hd)]
    exact .ok _
  · rw [s.connection.exec_rows_of_no_columns (.inr hd)]
    exact .ok _
  · rw [s.connection.exec_rows_of_columns hd (List.cons_ne_nil n ns)]
    refine FailsWith.bind (fun f h e => hf.fetchAll c w.driver (e ▸ h)) fun rows => ?_
    exact .mapM (fun values => (Row.failsWith_ofValues _ values).imp fun _ =>
      Fault.IsOfRow.ne_noActiveStatement) rows

theorem failsWith_row? (c : CursorId) (w : World d) :
    FailsWith (· ≠ .noActiveStatement) (Act.exec (s.connection.row? c) w).1 := by
  rcases hd : s.connection.description c w.driver with _ | ⟨_ | ⟨n, ns⟩⟩
  · rw [s.connection.exec_row?_of_no_columns (.inl hd)]
    exact .ok _
  · rw [s.connection.exec_row?_of_no_columns (.inr hd)]
    exact .ok _
  · rw [s.connection.exec_row?_of_columns hd (List.cons_ne_nil n ns)]
    refine FailsWith.bind (fun f h e => hf.fetchOne c w.driver (e ▸ h)) fun row => ?_
    cases row with
    | none => exact .ok _
    | some values =>
      exact ((Row.failsWith_ofValues _ values).imp fun _ =>
        Fault.IsOfRow.ne_noActiveStatement).map some

/-- Whenever there is a current statement, nothing tells of a missing one. -/
theorem results_eq_noActiveStatement_iff (key : Value) (st : State d) :
    (Act.exec (s.results key) st).1 = .error .noActiveStatement ↔ st.current = none := by
  refine ⟨fun h => ?_, fun h => by rw [s.exec_results_of_none h]⟩
  rcases hc : st.current with _ | c
  · rfl
  rw [s.exec_results_of_some hc] at h
  refine absurd rfl (FailsWith.bind (failsWith_rows hf c st.world) (fun rows => ?_) _ h)
  split
  · exact ((Row.failsWith_keyed key [] rows).imp fun _ =>
      Fault.IsOfRow.ne_noActiveStatement).map _
  · exact .ok _

theorem result_eq_noActiveStatement_iff (column : Value) (st : State d) :
    (Act.exec (s.result column) st).1 = .error .noActiveStatement ↔ st.current = none := by
  refine ⟨fun h => ?_, fun h => by rw [s.exec_result_of_none h]⟩
  rcases hc : st.current with _ | c
  · rfl
  rw [s.exec_result_of_some hc] at h
  refine absurd rfl (FailsWith.bind (failsWith_row? hf c st.world) (fun row => ?_) _ h)
  cases row with
  | none => exact .ok _
  | some row => exact (failsWith_pick row column).imp fun _ => Fault.IsOfRow.ne_noActiveStatement

end

end Session

/-! ## Cursors of a driver -/

/-- What there is to see of a driver's cursors. -/
structure Cursors (d ρ : Type) where
  /-- The cursors that the driver has made. -/
  known : d → CursorId → Prop
  /-- What a cursor has still to give. -/
  unread : d → CursorId → ρ

namespace Cursors

variable (cs : Cursors d ρ)

/-- From `x` to `y` no cursor is lost, and all but `touched` have the same to give. -/
def Spared (touched : Option CursorId) (x y : d) : Prop :=
  ∀ c, cs.known x c → cs.known y c ∧ (some c ≠ touched → cs.unread y c = cs.unread x c)

/-- The same of the drivers of two worlds. -/
def SparedIn (touched : Option CursorId) (w w' : World d) : Prop :=
  cs.Spared touched w.driver w'.driver

variable {cs} {touched : Option CursorId} {x y z : d} {c : CursorId}

theorem Spared.refl (x : d) : cs.Spared touched x x := fun _ hk => ⟨hk, fun _ => rfl⟩

theorem Spared.trans (h : cs.Spared touched x y) (h' : cs.Spared touched y z) :
    cs.Spared touched x z := by
  intro c hk
  obtain ⟨hy, hu⟩ := h c hk
  obtain ⟨hz, hu'⟩ := h' c hy
  exact ⟨hz, fun ht => (hu' ht).trans (hu ht)⟩

instance : IsPreorder (World d) (cs.SparedIn touched) where
  refl w := .refl w.driver
  trans _ _ _ h h' := Spared.trans h h'

/-- Work on a cursor that is new spares all the others. -/
theorem Spared.new (hc : ¬ cs.known x c) (h : cs.Spared none x y) (h' : cs.Spared (some c) y z) :
    cs.Spared none x z := by
  intro c' hk
  obtain ⟨hy, hu⟩ := h c' hk
  obtain ⟨hz, hu'⟩ := h' c' hy
  have hne : some c' ≠ some c := fun he => hc (Option.some.inj he ▸ hk)
  exact ⟨hz, fun ht => (hu' hne).trans (hu ht)⟩

/-- The driver keeps its cursors apart: a cursor that it makes is new, and work on one cursor leaves
    what the others have to give as it is. -/
structure KeptApart (cs : Cursors d ρ) (conn : Connection d) : Prop where
  /-- A cursor is new when it is made. -/
  fresh : ∀ {x c}, (conn.cursor x).1 = .ok c → ¬ cs.known x c ∧ cs.known (conn.cursor x).2 c
  cursor : ∀ x, cs.Spared none x (conn.cursor x).2
  execute : ∀ c sql x, cs.Spared (some c) x (conn.execute c sql x).2
  fetchAll : ∀ c x, cs.Spared (some c) x (conn.fetchAll c x).2
  fetchOne : ∀ c x, cs.Spared (some c) x (conn.fetchOne c x).2
  closeCursor : ∀ c x, cs.Spared (some c) x (conn.closeCursor c x).2

namespace KeptApart

variable {conn : Connection d} (hc : cs.KeptApart conn)

include hc

/-- Running a statement spares all cursors, and the one it runs on is new. -/
theorem run (sql : String) (w : World d) :
    cs.SparedIn none w (Act.exec (conn.run sql) w).2 ∧
      ∀ c, (Act.exec (conn.run sql) w).1 = .ok c →
        ¬ cs.known w.driver c ∧ cs.known (Act.exec (conn.run sql) w).2.driver c := by
  have hcursor := hc.cursor w.driver
  have hfresh := @hc.fresh w.driver
  rw [conn.exec_run]
  generalize conn.cursor w.driver = r at hcursor hfresh ⊢
  rcases r with ⟨f | c, x⟩
  · exact ⟨hcursor, fun c h => by cases h⟩
  · obtain ⟨hnew, hknown⟩ := hfresh rfl
    have hexecute := hc.execute c sql x
    refine ⟨.new hnew hcursor hexecute, fun c' h => ?_⟩
    obtain ⟨_, -, rfl⟩ := map_eq_ok_iff.1 h
    exact ⟨hnew, (hexecute c hknown).1⟩

theorem firstValue (c : CursorId) : Keeps (cs.SparedIn (some c)) (conn.firstValue c) :=
  conn.keeps_firstValue (fun w => hc.fetchOne c w.driver) (fun w => hc.closeCursor c w.driver)

theorem rows (c : CursorId) : Keeps (cs.SparedIn (some c)) (conn.rows c) :=
  conn.keeps_rows fun w => hc.fetchAll c w.driver

theorem row? (c : CursorId) : Keeps (cs.SparedIn (some c)) (conn.row? c) :=
  conn.keeps_row? fun w => hc.fetchOne c w.driver

/-- Asking for the last identifier works on a new cursor, if on any. -/
theorem lastInsertId (current : Option CursorId) (product : Option Designation) :
    Keeps (cs.SparedIn none) (conn.lastInsertId current product) := by
  intro w
  unfold Connection.lastInsertId
  split
  · have hr := hc.run Connection.lastIdStatement w
    rw [Act.exec_bind]
    generalize Act.exec (conn.run Connection.lastIdStatement) w = r at hr ⊢
    rcases r with ⟨f | c, w'⟩
    · exact hr.1
    · exact .new (hr.2 c rfl).1 hr.1 (hc.firstValue c w')
  · rcases current with _ | c <;> exact .refl _

end KeptApart

end Cursors

/-! ## Scripted connections -/

namespace Scripted

/-- The cursors of a scripted connection, each with its remaining rows. -/
def rowsLeft : Cursors Scripted (List (List Value)) where
  known x c := c < x.cursors.length
  unread x c := (x.reaction c).rows

theorem spared_same {touched : Option CursorId} {x y : Scripted} (h : y.cursors = x.cursors) :
    rowsLeft.Spared touched x y := by
  intro c hk
  have hknown : rowsLeft.known y c = rowsLeft.known x c := by simp only [rowsLeft, h]
  have hunread : rowsLeft.unread y c = rowsLeft.unread x c := by simp only [rowsLeft, reaction, h]
  exact ⟨hknown ▸ hk, fun _ => hunread⟩

theorem spared_set {c : CursorId} {x y : Scripted} {r : Reaction}
    (h : y.cursors = x.cursors.set c r) : rowsLeft.Spared (some c) x y := by
  intro c' hk
  simp only [rowsLeft, reaction, h, List.length_set] at hk ⊢
  refine ⟨hk, fun ht => ?_⟩
  rw [List.getElem?_set_ne fun he => ht (congrArg some he.symm)]

/-- A scripted connection keeps its cursors apart. -/
theorem keptApart (cls : ScriptedClass) : rowsLeft.KeptApart (connection cls) where
  fresh {x c} h := by
    rcases he : x.script.cursorError with _ | e
    · simp only [connection, cursor, he] at h ⊢
      cases h
      simp [rowsLeft]
    · simp [connection, cursor, he] at h
  cursor x := by
    rcases he : x.script.cursorError with _ | e
    · simp only [connection, cursor, he]
      intro c hk
      have hk : c < x.cursors.length := hk
      simp only [rowsLeft, reaction, List.length_append, List.getElem?_append_left hk]
      exact ⟨Nat.lt_add_right _ hk, fun _ => trivial⟩
    · simp only [connection, cursor, he]
      exact .refl x
  execute c sql x := by
    simp only [connection, execute]
    split
    · exact spared_same rfl
    · exact spared_set rfl
  fetchAll c x := by
    simp only [connection, fetchAll]
    split
    · exact .refl x
    · exact spared_set rfl
  fetchOne c x := by
    simp only [connection, fetchOne]
    split
    · exact .refl x
    · exact spared_set rfl
  closeCursor c x := .refl x

end Scripted

/-! ## The rows of the current statement -/

/-- A call that does not concern the current statement: one that prepares a statement or asks for an
    identifier, or a query that fails. -/
def Call.IsAside (c : Call d) : Prop :=
  match c.operation, c.outcome with
  | .prepare .., _ | .lastInsertId, _ | .query .., .error _ => True
  | _, _ => False

namespace Session

variable {s : Session d} {cs : Cursors d ρ}

/-- The driver knows the cursor of the current statement. -/
def Known (cs : Cursors d ρ) (st : State d) : Prop :=
  ∀ c ∈ st.current, cs.known st.world.driver c

section
variable (hc : cs.KeptApart s.connection) (hq : ∀ v, Keeps (cs.SparedIn none) (s.quote v))

include hc hq

/-- A query spares all cursors, and the one that it returns is there. -/
theorem spared_query (sql : String) (parameters : List Value) (st : State d) :
    cs.SparedIn none st.world (Act.exec (s.query sql parameters) st).2.world ∧
      ∀ c, (Act.exec (s.query sql parameters) st).1 = .ok c →
        cs.known (Act.exec (s.query sql parameters) st).2.world.driver c := by
  have hp := s.keeps_prepare hq sql parameters st
  rw [exec_query]
  generalize Act.exec (s.prepare sql parameters) st = r at hp ⊢
  rcases r with ⟨f | text, st'⟩
  · exact ⟨hp.2, fun c h => by cases h⟩
  · simp only
    have hr := hc.run text (st'.world.note (.log ⟨.debug, .ok ("Executing SQL: " ++ text)⟩))
    generalize Act.exec (s.connection.run text) _ = r at hr ⊢
    rcases r with ⟨f | c, w⟩
    · exact ⟨.trans hp.2 hr.1, fun c h => by cases h⟩
    · refine ⟨.trans hp.2 hr.1, fun c' h => ?_⟩
      cases h
      exact (hr.2 c rfl).2

/-- A call that does not concern the current statement leaves it, and spares all cursors. -/
theorem beside_call {op : Operation} {st : State d} (h : (s.call op st).IsAside) :
    Beside (cs.SparedIn none) st (s.call op st).after := by
  cases op with
  | prepare sql ps =>
    rw [call_prepare]
    exact s.keeps_prepare hq sql ps st
  | query sql ps =>
    have hcurrent := s.current_query sql ps st
    have hspared := spared_query hc hq sql ps st
    rw [call_query] at h ⊢
    generalize Act.exec (s.query sql ps) st = r at h hcurrent hspared ⊢
    rcases r with ⟨f | c, st'⟩
    · exact ⟨hcurrent, hspared.1⟩
    · cases h
  | lastInsertId =>
    rw [call_lastInsertId, exec_lastInsertId]
    exact ⟨rfl, hc.lastInsertId _ _ _⟩
  | results key => exact h.elim
  | result column => exact h.elim
  | close => exact h.elim

/-- The driver goes on knowing the cursor of the current statement. -/
theorem known_call (op : Operation) {st : State d} (hk : Known cs st) :
    Known cs (s.call op st).after := by
  -- on whichever cursor the call works, the current one is not lost
  have hbeside : ∀ {touched : Option CursorId} {st' : State d},
      Beside (cs.SparedIn touched) st st' → Known cs st' :=
    fun h c hm => (h.2 c (hk c (h.1 ▸ hm))).1
  cases op with
  | prepare sql ps => exact hbeside (beside_call hc hq trivial)
  | lastInsertId => exact hbeside (beside_call hc hq trivial)
  | query sql ps =>
    have hcurrent := s.current_query sql ps st
    have hspared := spared_query hc hq sql ps st
    rw [call_query]
    generalize Act.exec (s.query sql ps) st = r at hcurrent hspared ⊢
    rcases r with ⟨f | c, st'⟩
    · exact hbeside ⟨hcurrent, hspared.1⟩
    · intro c' hm
      obtain rfl : c = c' := Option.some.inj (hcurrent.symm.trans hm)
      exact hspared.2 c rfl
  | results key =>
    rw [call_results]
    exact hbeside (s.beside_results (fun c hcur => hcur ▸ hc.rows c) key)
  | result column =>
    rw [call_result]
    exact hbeside (s.beside_result (fun c hcur => hcur ▸ hc.row? c) column)
  | close =>
    rw [call_close, exec_close]
    exact fun c hm => by cases hm

theorem known_after (ops : List Operation) {st : State d} (hk : Known cs st) :
    Known cs (s.after ops st) := by
  induction ops generalizing st with
  | nil => exact hk
  | cons op ops ih => exact ih (known_call hc hq op hk)

end

theorem settles_of_isAside {c : Call d} (h : c.IsAside) : c.settles = none := by
  obtain ⟨op, before, outcome, after⟩ := c
  cases op with
  | prepare => rfl
  | query =>
    cases outcome with
    | error f => rfl
    | ok a => cases h
  | results => rfl
  | result => rfl
  | lastInsertId => rfl
  | close => cases h

/-- **The current statement is the latest that was executed.**  After any calls of a session it is
    the cursor of the latest query that did not fail, if no call to close the session came after it,
    and there is none otherwise.  Asking for rows fails for want of a statement exactly when there is
    none, unless the driver itself replies so; and then nothing is done.  A query that fails for
    whatever reason leaves the current statement as it is, and so does each call that prepares a
    statement or asks for an identifier; and if the driver keeps its cursors apart and the escaper
    spares them, they leave it the same rows to give. -/
theorem current_statement (s : Session d) (w : World d) (ops : List Operation) :
    let st := s.after ops ⟨w, none⟩
    st.current = currentOf (s.calls ops ⟨w, none⟩) ∧
      (s.connection.IsForeign →
        (∀ key, (Act.exec (s.results key) st).1 = .error .noActiveStatement ↔ st.current = none) ∧
        ∀ column,
          (Act.exec (s.result column) st).1 = .error .noActiveStatement ↔ st.current = none) ∧
      (st.current = none →
        (∀ key, Act.exec (s.results key) st = (.error .noActiveStatement, st)) ∧
        ∀ column, Act.exec (s.result column) st = (.error .noActiveStatement, st)) ∧
      ∀ op, (s.call op st).IsAside → (s.call op st).after.current = st.current ∧
        ∀ (ρ : Type) (cs : Cursors d ρ), cs.KeptApart s.connection →
          (∀ v, Keeps (cs.SparedIn none) (s.quote v)) →
          ∀ c ∈ st.current,
            cs.unread (s.call op st).after.world.driver c = cs.unread st.world.driver c := by
  intro st
  refine ⟨s.current_after ops _, fun hf => ⟨fun key => results_eq_noActiveStatement_iff hf key st,
    fun column => result_eq_noActiveStatement_iff hf column st⟩, fun h =>
    ⟨s.exec_results_of_none h, s.exec_result_of_none h⟩, fun op hop => ⟨?_, ?_⟩⟩
  · rw [s.current_call, settles_of_isAside hop, Option.getD_none]
  · intro ρ cs hc hq c hm
    have hk : Known cs st := known_after hc hq ops (fun c h => by cases h)
    exact ((beside_call hc hq hop).2 c (hk c hm)).2 (Option.some_ne_none c)

theorem isForeign_scripted (cls : ScriptedClass) : (Scripted.connection cls).IsForeign where
  fetchAll c x := by
    simp only [Scripted.connection, Scripted.fetchAll]
    split <;> nofun
  fetchOne c x := by
    simp only [Scripted.connection, Scripted.fetchOne]
    split <;> nofun

/-- A query that fails leaves the second of two rows to the one before it. -/
theorem current_statement_failed_query :
    let s : Session Scripted :=
      ⟨Scripted.connection ⟨"Scripted", some .postgres, false, "", ""⟩, some (.known .postgres),
        literalQuote⟩
    let rows : Reaction := ⟨none, none, some [.text "a"], [[.int 1], [.int 2]], .none⟩
    let refusal : Reaction :=
      { rows with error := some ⟨⟨none, "ValueError"⟩, [], .ok "no such table"⟩ }
    let w : World Scripted := ⟨Scripted.init ⟨[rows, refusal], none, none⟩, []⟩
    let st := s.after [.query "SELECT a FROM t" [], .result .none] ⟨w, none⟩
    let failing := s.call (.query "SELECT a FROM u" []) st
    s.connection.IsForeign ∧ (Act.exec (s.results .none) st).1 ≠ .error .noActiveStatement ∧
      (Act.exec (s.results .none) (s.after [] ⟨w, none⟩)).1 = .error .noActiveStatement ∧
      Scripted.rowsLeft.KeptApart s.connection ∧
      (∀ v, Keeps (Scripted.rowsLeft.SparedIn none) (s.quote v)) ∧ failing.IsAside ∧
      0 ∈ st.current ∧ failing.after.current = some 0 ∧
      Scripted.rowsLeft.unread failing.after.world.driver 0 = [[.int 2]] := by
  intro s rows refusal w st failing
  have hf : s.connection.IsForeign := isForeign_scripted _
  have hc : Scripted.rowsLeft.KeptApart s.connection := Scripted.keptApart _
  have hq : ∀ v, Keeps (Scripted.rowsLeft.SparedIn none) (s.quote v) := fun _ _ => .refl _
  obtain ⟨-, hraised, -, h⟩ := current_statement s w [.query "SELECT a FROM t" [], .result .none]
  obtain ⟨-, -, habsent, -⟩ := current_statement s w []
  obtain ⟨hcurrent, hrows⟩ := h (.query "SELECT a FROM u" []) trivial
  refine ⟨hf, fun hr => ?_, ?_, hc, hq, trivial, rfl, hcurrent, hrows _ _ hc hq 0 rfl⟩
  · cases ((hraised hf).1 .none).1 hr
  · rw [(habsent rfl).1]

end Session

end SqlWeave
