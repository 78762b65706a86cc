/-
  The rows of a statement, each read once and in order.

  Rows are read one at a time (`Session.result`) or all that are left
  (`Session.results`), in any alternation.

  * `Connection.Serves` says that a cursor gives its rows in order and without
    failing;
  * `Operation.share` are the rows that one call reads of those left, and
    `shares` those that the calls of a run read, call by call; put together they
    are an opening of the statement's rows (`flatten_shares_append`);
  * `Call.GivesFrom` says that a call answers from given rows alone: with a row
    under its names, with one of its values, or with all rows;
  * `serves_call`: a call answers from its share and leaves the others;
  * `rows_delivered_once`: so do all calls of a run, and when no rows are left
    there are none to get.
-/
import Mathlib.Data.List.Forall2
import SqlWeave.Proofs.NamedRows

namespace SqlWeave

variable {d α : Type}

/-! ## Which rows a call reads -/

namespace Operation

/-- The operations that read rows: the next one, or all that are left, in their order. -/
def ReadsRows : Operation → Prop
  | result column => column.IsColumn
  | results key => key.isTrue = false
  | _ => False

/-- What an operation reads of the rows that are left. -/
def share (left : List α) : Operation → List α
  | result _ => left.take 1
  | results _ => left
  | _ => []

/-- What an operation leaves of them. -/
def rest (op : Operation) (left : List α) : List α := left.drop (op.share left).length

theorem share_append_rest (op : Operation) (left : List α) : op.share left ++ op.rest left = left := by
  cases op with
  | result column => cases left <;> rfl
  | results key => simp [share, rest]
  | prepare | query | lastInsertId | close => rfl

end Operation

/-- What operations read of the rows that are left, one after another. -/
def shares : List Operation → List α → List (List α)
  | [], _ => []
  | op :: ops, left => op.share left :: shares ops (op.rest left)

/-- What operations leave, one after another. -/
def restAfter (ops : List Operation) (left : List α) : List α := ops.foldl (fun left op => op.rest left) left

/-- No row is read twice or passed over. -/
theorem flatten_shares_append (ops : List Operation) (rows : List α) :
    (shares ops rows).flatten ++ restAfter ops rows = rows := by
  induction ops generalizing rows with
  | nil => rfl
  | cons op ops ih =>
    rw [shares, List.flatten_cons, List.append_assoc, restAfter, List.foldl_cons, ← restAfter, ih]
    exact op.share_append_rest rows

/-! ## Cursors that give their rows in order -/

/-- The cursor `c` has columns of the given names and gives its rows in order.  `holds rows x` says
    that in the state `x` of the driver these rows are left. -/
structure Connection.Serves (conn : Connection d) (c : CursorId) (names : List String)
    (holds : List (List Value) → d → Prop) : Prop where
  description : ∀ {rows x}, holds rows x → conn.description c x = some (names.map .text)
  fetchOne : ∀ {rows x}, holds rows x →
    (conn.fetchOne c x).1 = .ok rows.head? ∧ holds rows.tail (conn.fetchOne c x).2
  fetchAll : ∀ {rows x}, holds rows x →
    (conn.fetchAll c x).1 = .ok rows ∧ holds [] (conn.fetchAll c x).2

/-- The call answers from the rows `read`, and from nothing else. -/
def Call.GivesFrom (names : List String) (read : List (List Value)) (call : Call d) : Prop :=
  match call.operation, read with
  | .result _, [] => call.outcome = .ok (.result (.value .none))
  | .result column, [values] => call.outcome = .ok (.result (Row.answer names values column))
  | .results _, read => call.outcome = .ok (.results (.rows (read.map (Row.labelled names))))
  | _, _ => False

/-! ## Scripted connections -/

namespace Scripted

/-- The cursor `c` is scripted to have columns of the given names and, without failing, these rows
    left. -/
def Offers (c : CursorId) (names : List String) (rows : List (List Value)) (x : Scripted) : Prop :=
  ∃ r : Reaction, x.cursors[c]? = some r ∧ r.fetchError = none ∧
    r.description = some (names.map .text) ∧ r.rows = rows

theorem offers_setReaction {c : CursorId} {names : List String} {x : Scripted} {r r' : Reaction}
    (hr : x.cursors[c]? = some r) (hf : r'.fetchError = none)
    (hd : r'.description = some (names.map .text)) :
    Offers c names r'.rows (x.setReaction c r') := by
  have hc : c < x.cursors.length := (List.getElem?_eq_some_iff.1 hr).1
  exact ⟨r', List.getElem?_set_self hc, hf, hd, rfl⟩

/-- A scripted connection gives the rows of each cursor in order. -/
theorem serves (cls : ScriptedClass) (c : CursorId) (names : List String) :
    (connection cls).Serves c names (Offers c names) where
  description := by
    rintro rows x ⟨r, hr, -, hd, -⟩
    simp [connection, reaction, hr, hd]
  fetchOne := by
    rintro rows x ⟨r, hr, hf, hd, rfl⟩
    simp only [connection, fetchOne, reaction, hr, Option.getD_some, hf]
    rw [← List.drop_one]
    exact ⟨trivial, offers_setReaction hr rfl hd⟩
  fetchAll := by
    rintro rows x ⟨r, hr, hf, hd, rfl⟩
    simp only [connection, fetchAll, reaction, hr, Option.getD_some, hf]
    exact ⟨trivial, offers_setReaction hr rfl hd⟩

end Scripted

/-! ## Runs -/

namespace Session

variable {s : Session d} {c : CursorId} {names : List String}
  {holds : List (List Value) → d → Prop}

section
variable (hs : s.connection.Serves c names holds) (hnames : names ≠ [])

include hs hnames

/-- A call answers from the rows that it reads and leaves those after them. -/
theorem serves_call {op : Operation} (hop : op.ReadsRows) {st : State d} (hc : st.current = some c)
    {rows : List (List Value)} (hrows : holds rows st.world.driver)
    (hfit : ∀ values ∈ rows, names.length = values.length) :
    (s.call op st).GivesFrom names (op.share rows) ∧
      (s.call op st).after.current = some c ∧
      holds (op.rest rows) (s.call op st).after.world.driver := by
  cases op with
  | results key =>
    have hkey : key.isTrue = false := hop
    obtain ⟨hgiven, hleft⟩ := hs.fetchAll hrows
    rw [call_results, s.exec_results_of_some hc,
      s.connection.exec_rows_of_texts (hs.description hrows) hnames hgiven hfit]
    refine ⟨?_, hc, by simpa [Operation.rest, Operation.share] using hleft⟩
    simp [Call.GivesFrom, Operation.share, hkey, Except.bind, Except.map]
  | result column =>
    have hcolumn : column.IsColumn := hop
    obtain ⟨hgiven, hleft⟩ := hs.fetchOne hrows
    have hnext : ∀ values ∈ rows.head?, names.length = values.length :=
      fun values hv => hfit values (List.mem_of_mem_head? hv)
    rw [call_result, s.exec_result_of_some hc,
      s.connection.exec_row?_of_texts (hs.description hrows) hnames hgiven hnext]
    cases rows with
    | nil =>
      refine ⟨?_, hc, hleft⟩
      simp [Call.GivesFrom, Operation.share, Except.bind, Except.map]
    | cons values rows =>
      have hanswer := pick_labelled (hfit values List.mem_cons_self) hcolumn
      refine ⟨?_, hc, hleft⟩
      simp [Call.GivesFrom, Operation.share, hanswer, Except.bind, Except.map]
  | prepare | query | lastInsertId | close => exact hop.elim

/-- So do calls one after another. -/
theorem serves_calls {ops : List Operation} (hops : ∀ op ∈ ops, op.ReadsRows) {st : State d}
    (hc : st.current = some c) {rows : List (List Value)} (hrows : holds rows st.world.driver)
    (hfit : ∀ values ∈ rows, names.length = values.length) :
    List.Forall₂ (Call.GivesFrom names) (shares ops rows) (s.calls ops st) ∧
      (s.after ops st).current = some c ∧
      holds (restAfter ops rows) (s.after ops st).world.driver := by
  induction ops generalizing st rows with
  | nil => exact ⟨.nil, hc, hrows⟩
  | cons op ops ih =>
    obtain ⟨hop, hops⟩ := List.forall_mem_cons.1 hops
    obtain ⟨hgives, hc', hrows'⟩ := serves_call hs hnames hop hc hrows hfit
    have hfit' : ∀ values ∈ op.rest rows, names.length = values.length :=
      fun values hv => hfit values (List.mem_of_mem_drop hv)
    obtain ⟨hcalls, hafter⟩ := ih hops hc' hrows' hfit'
    exact ⟨.cons hgives hcalls, hafter⟩

/-- **Each row of a statement is read once and in order.**  Let the cursor of the current statement
    give its rows in order, each with as many values as there are columns, and let them be read by
    calls for the next row, or one column of it, and for all rows that are left.  Each call answers
    from its share alone: the next row, if there is one, or all that are left.  The shares, put
    together, are the rows of the statement in their order, up to those that are left; and when none
    is left, a call for the next row gives the absent value, and one for all rows an empty list. -/
theorem rows_delivered_once {ops : List Operation} (hops : ∀ op ∈ ops, op.ReadsRows) {st : State d}
    (hc : st.current = some c) {rows : List (List Value)} (hrows : holds rows st.world.driver)
    (hfit : ∀ values ∈ rows, names.length = values.length) :
    List.Forall₂ (Call.GivesFrom names) (shares ops rows) (s.calls ops st) ∧
      (shares ops rows).flatten ++ restAfter ops rows = rows ∧
      holds (restAfter ops rows) (s.after ops st).world.driver ∧
      (restAfter ops rows = [] → ∀ op : Operation, op.ReadsRows →
        (s.call op (s.after ops st)).GivesFrom names []) := by
  obtain ⟨hcalls, hc', hrows'⟩ := serves_calls hs hnames hops hc hrows hfit
  refine ⟨hcalls, flatten_shares_append ops rows, hrows', fun hnone op hop => ?_⟩
  rw [hnone] at hrows'
  have hgives := (serves_call hs hnames hop hc' hrows' fun _ hv => by cases hv).1
  cases op with
  | result | results => exact hgives
  | prepare | query | lastInsertId | close => exact hop.elim

end

/-- Of three rows, one is read by the name of a column, one by a place that it has not, and the third
    with all that are left; after that there is no row. -/
theorem rows_delivered_once_three :
    let s := Scripted.session
    let names := ["a", "b"]
    let rows : List (List Value) := [[.int 1, .text "x"], [.int 2, .none], [.int 3, .text "z"]]
    let st := Scripted.reading names rows
    let ops : List Operation := [.result (.text "b"), .result (.int 7), .results .none]
    s.connection.Serves 0 names (Scripted.Offers 0 names) ∧ names ≠ [] ∧
      (∀ op ∈ ops, op.ReadsRows) ∧ st.current = some 0 ∧
      Scripted.Offers 0 names rows st.world.driver ∧
      (∀ values ∈ rows, names.length = values.length) ∧
      List.Forall₂ (Call.GivesFrom names)
        [[[.int 1, .text "x"]], [[.int 2, .none]], [[.int 3, .text "z"]]] (s.calls ops st) ∧
      (s.calls ops st).map (·.outcome) = [.ok (.result (.value (.text "x"))),
        .ok (.result (.value .none)),
        .ok (.results (.rows [Row.named [("a", .int 3), ("b", .text "z")]]))] ∧
      (s.call (.result .none) (s.after ops st)).GivesFrom names [] := by
  intro s names rows st ops
  have hs : s.connection.Serves 0 names (Scripted.Offers 0 names) := Scripted.serves _ _ _
  have hnames : names ≠ [] := by simp [names]
  have hops : ∀ op ∈ ops, op.ReadsRows := by simp [ops, Operation.ReadsRows, Value.IsColumn, Value.isTrue]
  have hrows : Scripted.Offers 0 names rows st.world.driver := ⟨_, rfl, rfl, rfl, rfl⟩
  have hfit : ∀ values ∈ rows, names.length = values.length := by simp [rows, names]
  have hc : st.current = some 0 := rfl
  obtain ⟨hcalls, -, -, hend⟩ := rows_delivered_once hs hnames hops hc hrows hfit
  exact ⟨hs, hnames, hops, hc, hrows, hfit, hcalls, rfl, hend rfl _ trivial⟩

end Session

end SqlWeave
