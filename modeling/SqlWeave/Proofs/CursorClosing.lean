/-
  What becomes of the cursor of a last identifier.

  PostgreSQL is asked for the last identifier by a statement on a cursor of its
  own.  Nobody else knows that cursor, so it is for the asking to close it.

  * `Event.target?` is the cursor that something is asked of, and `ClosedOnce`
    says that a cursor is closed once and not used any more;
  * `events_firstValue`: fetching the value closes the cursor, whether it fails
    or not;
  * `lastInsertId_closed_iff`: so the cursor is closed, unless the statement
    itself fails.
-/
import SqlWeave.Proofs.Calls
import SqlWeave.Scripted

namespace SqlWeave

variable {d : Type}

/-! ## Closed cursors -/

/-- The cursor that something is asked of. -/
def Event.target? : Event → Option CursorId
  | .execute c _ | .fetchAll c | .fetchOne c | .closeCursor c => some c
  | _ => none

/-- During the events `es` the cursor `c` is closed once, and nothing is asked of it afterwards. -/
def ClosedOnce (c : CursorId) (es : List Event) : Prop :=
  ∃ before after, es = before ++ .closeCursor c :: after ∧ .closeCursor c ∉ before ∧
    ∀ e ∈ after, e.target? ≠ some c

theorem ClosedOnce.mem {c : CursorId} {es : List Event} (h : ClosedOnce c es) :
    .closeCursor c ∈ es := by
  obtain ⟨before, after, rfl, -, -⟩ := h
  exact List.mem_append_right before List.mem_cons_self

theorem closedOnce_concat {c : CursorId} {es : List Event} (h : .closeCursor c ∉ es) :
    ClosedOnce c (es ++ [.closeCursor c]) := ⟨es, [], rfl, h, nofun⟩

theorem World.events_append (w : World d) (x : d) (es : List Event) :
    World.events ⟨x, w.journal ++ es.map .event⟩ = w.events ++ es := by
  rw [events, List.filterMap_append, List.filterMap_map]
  exact congrArg (w.events ++ ·) List.filterMap_some

/-! ## The cursor of a last identifier -/

namespace Connection

variable (conn : Connection d)

/-- Fetching the first value asks for one row and closes the cursor, however the driver answers. -/
theorem events_firstValue (c : CursorId) (w : World d) :
    (Act.exec (conn.firstValue c) w).2.events = w.events ++ [.fetchOne c, .closeCursor c] := by
  suffices journal : (Act.exec (conn.firstValue c) w).2.journal =
      w.journal ++ [.fetchOne c, .closeCursor c].map .event by
    rw [← w.events_append (Act.exec (conn.firstValue c) w).2.driver, ← journal]
  rw [firstValue, Act.exec_bind, Act.exec_attempt, exec_ask]
  simp only
  rw [Act.exec_bind, exec_ask]
  rcases (conn.closeCursor c _).1 with f | _
  · simp
  · simp only
    rw [Act.exec_bind_pure, Act.exec_ofExcept]
    simp

/-- What PostgreSQL is asked on the cursor of a last identifier. -/
def lastIdEvents (c : CursorId) (executed : Bool) : List Event :=
  .execute c lastIdStatement :: if executed then [.fetchOne c, .closeCursor c] else []

/-- What PostgreSQL is asked for a last identifier: a cursor, and if there is one, a statement on it,
    and if that succeeds, its first value. -/
theorem events_lastInsertId (current : Option CursorId) (w : World d) :
    (Act.exec (conn.lastInsertId current (some (.known .postgres))) w).2.events =
      w.events ++ .cursor :: match conn.cursor w.driver with
        | (.error _, _) => []
        | (.ok c, x) => lastIdEvents c (conn.execute c lastIdStatement x).1.isOk := by
  unfold lastInsertId
  rw [if_pos rfl, Act.exec_bind, exec_run]
  rcases conn.cursor w.driver with ⟨f | c, x⟩
  · exact w.events_append x [.cursor]
  · have asked := fun y => w.events_append y [.cursor, .execute c lastIdStatement]
    simp only
    rcases conn.execute c lastIdStatement x with ⟨f | _, y⟩
    · exact asked y
    · calc _ = World.events ⟨y, w.journal ++ _⟩ ++ [.fetchOne c, .closeCursor c] :=
            conn.events_firstValue c _
        _ = w.events ++ [.cursor, .execute c lastIdStatement] ++ [.fetchOne c, .closeCursor c] :=
            congrArg (· ++ _) (asked y)
        _ = _ := List.append_assoc ..

theorem closedOnce_lastIdEvents_iff {c : CursorId} {executed : Bool} :
    ClosedOnce c (lastIdEvents c executed) ↔ executed = true := by
  cases executed with
  | true =>
    have fetched : ClosedOnce c ([.execute c lastIdStatement, .fetchOne c] ++ [.closeCursor c]) :=
      closedOnce_concat (by simp)
    exact iff_of_true fetched rfl
  | false => exact iff_of_false (fun h => by simpa [lastIdEvents] using h.mem) nofun

/-- **When the cursor of a last identifier is closed.**  Whatever the driver answers, PostgreSQL is
    asked for one cursor, and for nothing more if there is none.  That cursor is closed once, after
    its last use, exactly if the statement on it succeeds; whether its row can be fetched makes no
    difference. -/
theorem lastInsertId_closed_iff (current : Option CursorId) (w : World d) :
    ∃ es, (Act.exec (conn.lastInsertId current (some (.known .postgres))) w).2.events =
        w.events ++ .cursor :: es ∧
      .cursor ∉ es ∧ (∀ f, (conn.cursor w.driver).1 = .error f → es = []) ∧
      ∀ c x, conn.cursor w.driver = (.ok c, x) →
        (ClosedOnce c es ↔ (conn.execute c lastIdStatement x).1.isOk = true) := by
  refine ⟨_, conn.events_lastInsertId current w, ?_⟩
  rcases conn.cursor w.driver with ⟨f | c, x⟩
  · exact ⟨List.not_mem_nil, fun _ _ => rfl, nofun⟩
  · refine ⟨?_, nofun, ?_⟩
    · cases (conn.execute c lastIdStatement x).1.isOk <;> simp [lastIdEvents]
    · rintro _ _ ⟨⟩
      exact closedOnce_lastIdEvents_iff

/-- The world before a statement that is answered by this reaction. -/
def reacting (reaction : Reaction) : World Scripted := ⟨Scripted.init ⟨[reaction], none, none⟩, []⟩

/-- A connection to PostgreSQL that follows a script. -/
def scripted : Connection Scripted := Scripted.connection ⟨"Scripted", some .postgres, false, "", ""⟩

/-- An error of the driver for PostgreSQL. -/
def programmingError (text : String) : Raised :=
  ⟨⟨some "psycopg", "ProgrammingError"⟩, [⟨some "psycopg", "Error"⟩], .ok text⟩

/-- A row that cannot be fetched. -/
theorem lastInsertId_closed_iff_unfetched :
    let unfetched : Reaction := { Scripted.silence with
      fetchError := some (programmingError "no results") }
    ∃ es, (Act.exec (scripted.lastInsertId none (some (.known .postgres)))
        (reacting unfetched)).2.events = .cursor :: es ∧ ClosedOnce 0 es := by
  intro unfetched
  obtain ⟨es, asked, -, -, closed⟩ := scripted.lastInsertId_closed_iff none (reacting unfetched)
  exact ⟨es, asked, (closed 0 _ rfl).2 rfl⟩

/-- A statement that fails, as it does before any identifier was generated, leaves its cursor open,
    though cursors can be closed. -/
theorem lastInsertId_left_open :
    let undefined : Reaction := { Scripted.silence with
      error := some (programmingError "lastval is not yet defined") }
    (∀ c x, (scripted.closeCursor c x).1 = .ok ()) ∧
      (scripted.cursor (reacting undefined).driver).1 = .ok 0 ∧
      ¬ClosedOnce 0 (Act.exec (scripted.lastInsertId none (some (.known .postgres)))
        (reacting undefined)).2.events := by
  intro undefined
  refine ⟨fun _ _ => rfl, rfl, fun closed => ?_⟩
  have asked : (Act.exec (scripted.lastInsertId none (some (.known .postgres)))
      (reacting undefined)).2.events = [.cursor, .execute 0 lastIdStatement] := rfl
  have := asked ▸ closed.mem
  simp at this

end Connection

end SqlWeave
