/-
  Rows whose names are texts.

  A text can be a key, so values under names that are texts always make a row,
  if there are as many values as names.

  * `Row.column` is the value of the last column of a name, and `Row.labelled` the
    row of all: each name once, with that value;
  * `ofValues_texts`: this is what the values of one row make;
    `exec_rows_of_texts` and `exec_row?_of_texts` say so of the rows of a cursor;
  * `labelled_of_nodup`: under distinct names the values keep their places;
  * `Row.answer` is what a row answers to a column, and `Session.pick_labelled`
    that it does so.
-/
import SqlWeave.Proofs.Calls
import SqlWeave.Proofs.LatestEntries
import SqlWeave.Scripted

namespace SqlWeave

theorem Value.equal_text (m n : String) : (Value.text m).equal (.text n) = (m == n) := by
  rw [Value.equal]

/-! ## Values under names -/

namespace Row

/-- The row with these entries. -/
def named (es : List (String × Value)) : Row := es.map fun e => (.text e.1, e.2)

/-- The value of the last column of a name; absent if there is no such column. -/
def column (names : List String) (name : String) (values : List Value) : Value :=
  (((names.zip values).findRev? fun e => e.1 == name).map Prod.snd).getD .none

/-- The row of the values under the names: each name once, where it occurs first, with the value of
    its last column. -/
def labelled (names : List String) (values : List Value) : Row :=
  named (names.eraseDups.map fun n => (n, column names n values))

theorem extend_texts (row : Row) {names : List String} {values : List Value}
    (h : names.length = values.length) :
    extend row (names.map .text) values =
      .ok ((names.zip values).foldl (fun row e => Entries.insert (.text e.1) e.2 row) row) := by
  induction names generalizing row values with
  | nil =>
    obtain rfl := List.length_eq_zero_iff.1 h.symm
    rfl
  | cons n ns ih =>
    cases values with
    | nil => cases h
    | cons v vs =>
      have hi : Entries.insert? row (.text n) v = .ok (Entries.insert (.text n) v row) := by
        simp [Entries.insert?, Value.checkKey, bind, Except.bind, pure, Except.pure]
      rw [List.map_cons, extend, hi]
      exact ih _ (Nat.succ.inj h)

variable {names : List String} {values : List Value} {name : String}

theorem findRev?_isSome_iff (h : names.length = values.length) :
    ((names.zip values).findRev? fun e => e.1 == name).isSome = true ↔ name ∈ names := by
  have hfst : (names.zip values).map Prod.fst = names := List.map_fst_zip (Nat.le_of_eq h)
  rw [List.findRev?_eq_find?_reverse, List.find?_isSome]
  conv_rhs => rw [← hfst, List.mem_map]
  simp

/-- The last value put under a name is that of its last column. -/
theorem lastValue_named (h : names.length = values.length) {e : String × Value}
    (he : e.1 ∈ names) :
    Entries.lastValue (named (names.zip values)) (.text e.1, e.2) = column names e.1 values := by
  obtain ⟨last, hlast⟩ := Option.isSome_iff_exists.1 ((findRev?_isSome_iff h).2 he)
  have found : (named (names.zip values)).findRev? (fun e' => (Value.text e.1).equal e'.1) =
      some (.text last.1, last.2) := by
    rw [List.findRev?_eq_find?_reverse] at hlast ⊢
    simp only [named, ← List.map_reverse, List.find?_map, Function.comp_def, Value.equal_text]
    simp only [BEq.comm (a := e.1), hlast, Option.map_some]
  rw [Entries.lastValue, found, column, hlast]
  rfl

theorem latest_named (h : names.length = values.length) :
    Entries.latest (named (names.zip values)) = labelled names values := by
  have hfst : (names.zip values).map Prod.fst = names := List.map_fst_zip (Nat.le_of_eq h)
  -- the names without repetitions are those of the columns that repeat no name
  have hnames : names.eraseDups =
      ((names.zip values).eraseDupsBy fun e e' => e.1 == e'.1).map Prod.fst := by
    conv_lhs => rw [← hfst]
    exact eraseDupsBy_map Prod.fst _
  have hkeys : (named (names.zip values)).eraseDupsBy (fun e e' => e'.1.equal e.1) =
      named ((names.zip values).eraseDupsBy fun e e' => e.1 == e'.1) := by
    rw [named, eraseDupsBy_map]
    simp only [Value.equal_text, BEq.comm, named]
  rw [Entries.latest, hkeys, labelled, hnames]
  simp only [named, List.map_map]
  refine List.map_congr_left fun e he => ?_
  have hmem : e.1 ∈ names := List.mem_eraseDups.1 (hnames ▸ List.mem_map_of_mem he)
  exact congrArg (Prod.mk _) (lastValue_named h hmem)

theorem ofValues_texts (h : names.length = values.length) :
    ofValues (names.map .text) values = .ok (labelled names values) := by
  rw [ofValues, extend_texts [] h, ← latest_named h, ← Entries.foldl_insert, named, List.foldl_map]

theorem mapM_ofValues_texts {rows : List (List Value)}
    (h : ∀ values ∈ rows, names.length = values.length) :
    rows.mapM (ofValues (names.map .text)) = .ok (rows.map (labelled names)) := by
  induction rows with
  | nil => rfl
  | cons values rows ih =>
    obtain ⟨hv, hr⟩ := List.forall_mem_cons.1 h
    rw [List.mapM_cons, ofValues_texts hv, ih hr]
    rfl

/-- Under distinct names the values keep their places. -/
theorem labelled_of_nodup (hn : names.Nodup) (h : names.length = values.length) :
    labelled names values = named (names.zip values) := by
  have hfst : (names.zip values).map Prod.fst = names := List.map_fst_zip (Nat.le_of_eq h)
  rw [← latest_named h]
  refine Entries.latest_of_pairwise ?_
  rw [← hfst, List.Nodup, List.pairwise_map] at hn
  rw [named, List.pairwise_map]
  exact hn.imp fun hne => by simpa [Value.equal_text] using hne

theorem value?_labelled (names : List String) (values : List Value) (name : String) :
    (labelled names values).value? (.text name) =
      .ok (if name ∈ names then some (column names name values) else none) := by
  have found (ns : List String) :
      Entries.lookup? (.text name) (ns.map fun n => (.text n, column names n values)) =
        if name ∈ ns then some (column names name values) else none := by
    induction ns with
    | nil => rfl
    | cons n ns ih =>
      by_cases hn : n = name
      · simp [Entries.lookup?, Value.equal_text, hn]
      · simp [Entries.lookup?, Value.equal_text, hn, Ne.symm hn, ih]
  have hkey : (Value.text name).checkKey = .ok () := by simp [Value.checkKey]
  rw [value?, hkey, ok_bind, labelled, named, List.map_map]
  refine congrArg Except.ok ((found _).trans ?_)
  simp only [List.mem_eraseDups]

theorem column_of_notMem (h : names.length = values.length) (hn : name ∉ names) :
    column names name values = .none := by
  rw [column, Option.not_isSome_iff_eq_none.1 (mt (findRev?_isSome_iff h).1 hn)]
  rfl

end Row

/-! ## Rows of a cursor -/

namespace Connection

variable {d : Type} {conn : Connection d} {c : CursorId} {w : World d} {names : List String}

/-- All rows that are fetched are given under the names of the columns. -/
theorem exec_rows_of_texts (h : conn.description c w.driver = some (names.map .text))
    (hne : names ≠ []) {rows : List (List Value)} (hr : (conn.fetchAll c w.driver).1 = .ok rows)
    (hl : ∀ values ∈ rows, names.length = values.length) :
    Act.exec (conn.rows c) w = (.ok (rows.map (Row.labelled names)),
      ⟨(conn.fetchAll c w.driver).2, w.journal ++ [.event (.fetchAll c)]⟩) := by
  rw [conn.exec_rows_of_columns h (by simpa using hne), hr]
  exact congrArg (·, _) (Row.mapM_ofValues_texts hl)

/-- And so is the next row, if one is fetched. -/
theorem exec_row?_of_texts (h : conn.description c w.driver = some (names.map .text))
    (hne : names ≠ []) {row : Option (List Value)} (hr : (conn.fetchOne c w.driver).1 = .ok row)
    (hl : ∀ values ∈ row, names.length = values.length) :
    Act.exec (conn.row? c) w = (.ok (row.map (Row.labelled names)),
      ⟨(conn.fetchOne c w.driver).2, w.journal ++ [.event (.fetchOne c)]⟩) := by
  rw [conn.exec_row?_of_columns h (by simpa using hne), hr]
  cases row with
  | none => rfl
  | some values =>
    simp only [Except.bind, Option.elim_some, Row.ofValues_texts (hl values rfl)]
    rfl

end Connection

/-! ## Columns of a row -/

/-- What may name a column: nothing, if the whole row is asked for, an integer or a text. -/
def Value.IsColumn : Value → Prop
  | none | bool _ | int _ | text _ => True
  | _ => False

/-- The place that a column names: an integer is a place, and a truth value counts as one. -/
def Value.place? : Value → Option Int
  | int i => some i
  | bool b => some (if b then 1 else 0)
  | _ => Option.none

/-- The value at a place, counted from 0; absent if there is no such place. -/
def placed (values : List Value) (i : Int) : Value :=
  if 0 ≤ i then (values[i.toNat]?).getD .none else .none

/-- What the row of some values answers to a column: the whole row, the value of a name, or the
    value at a place of the row. -/
def Row.answer (names : List String) (values : List Value) (column : Value) : Result :=
  match column with
  | .none => .row (labelled names values)
  | .text name => .value (Row.column names name values)
  | column => .value (column.place?.elim .none (placed ((labelled names values).map Prod.snd)))

namespace Session

theorem pick_of_place (row : Row) {column : Value} {i : Int} (h : column.place? = some i) :
    pick row column = .ok (.value (placed (row.map Prod.snd) i)) := by
  have hrow (j : Int) : (row.valueAt? j).getD .none = placed (row.map Prod.snd) j := by
    unfold Row.valueAt? placed
    split
    · rw [List.getElem?_map]
    · rfl
  cases column with
  | int j | bool b =>
    cases h
    simp only [pick, hrow]
  | _ => cases h

/-- A row answers every column. -/
theorem pick_labelled {names : List String} {values : List Value}
    (h : names.length = values.length) {column : Value} (hc : column.IsColumn) :
    pick (Row.labelled names values) column = .ok (Row.answer names values column) := by
  cases column with
  | none => rfl
  | int i => exact pick_of_place _ rfl
  | bool b => exact pick_of_place _ rfl
  | text name =>
    simp only [pick, Row.value?_labelled, Except.map, Row.answer]
    split
    · rfl
    · next hn => rw [Row.column_of_notMem h hn, Option.getD_none]
  | _ => exact hc.elim

end Session

/-! ## Scripted sessions -/

namespace Scripted

/-- A session on a scripted connection with generic literals. -/
def session : Session Scripted :=
  ⟨connection ⟨"Scripted", some .sqlite, false, "", ""⟩, some (.known .sqlite), literalQuote⟩

/-- The state in which the current statement has columns of the given names and these rows left. -/
def reading (names : List String) (rows : List (List Value)) : Session.State Scripted :=
  ⟨⟨⟨⟨[], none, none⟩, [⟨none, none, some (names.map .text), rows, .none⟩], 0⟩, []⟩, some 0⟩

end Scripted

end SqlWeave
