/-
  Rows under the values of one column.

  All remaining rows can be asked for under the values of a column.  Rows come
  one after another, and each is put under its value: an equal value keeps its
  place and its spelling, and the row there is replaced.

  * `Row.keyEntries` are the rows in their order, each with the value of the
    column; `keyed_labelled` puts them in one after another;
  * `Session.results_keyed`: the rows of the current statement under the values
    of a column.
-/
import SqlWeave.Proofs.NamedRows

namespace SqlWeave

namespace Row

variable {names : List String} {name : String} {values : List Value}

theorem value_labelled_of_mem (values : List Value) (hn : name ∈ names) :
    (labelled names values).value (.text name) = .ok (column names name values) := by
  rw [value, value?_labelled, ok_bind, if_pos hn]
  rfl

theorem value_labelled_of_notMem (values : List Value) (hn : name ∉ names) :
    (labelled names values).value (.text name) =
      .error (.missingColumn (String.ofList (Text.quoted name.toList))) := by
  have hshown : (Value.text name).shown = .ok (Text.quoted name.toList) := by simp [Value.shown]
  rw [value, value?_labelled, ok_bind, if_neg hn, hshown]
  rfl

/-! ## Rows under their keys -/

/-- The rows of some values, each with the value of a column as its key. -/
def keyEntries (names : List String) (name : String) (rows : List (List Value)) :
    List (Value × Row) :=
  rows.map fun values => (column names name values, labelled names values)

variable {rows : List (List Value)}

theorem keyed_labelled (hn : name ∈ names)
    (hk : ∀ values ∈ rows, (column names name values).checkKey = .ok ())
    (es : List (Value × Row)) :
    keyed (.text name) es (rows.map (labelled names)) =
      .ok ((keyEntries names name rows).foldl (fun es e => Entries.insert e.1 e.2 es) es) := by
  induction rows generalizing es with
  | nil => rfl
  | cons values rows ih =>
    rw [List.forall_mem_cons] at hk
    rw [List.map_cons, keyed, value_labelled_of_mem values hn, ok_bind, Entries.insert?, hk.1]
    exact ih hk.2 _

theorem keyed_of_missing (hn : name ∉ names) (hne : rows ≠ []) :
    keyed (.text name) [] (rows.map (labelled names)) =
      .error (.missingColumn (String.ofList (Text.quoted name.toList))) := by
  obtain ⟨values, rows, rfl⟩ := List.exists_cons_of_ne_nil hne
  rw [List.map_cons, keyed, value_labelled_of_notMem values hn]
  rfl

/-- A row's key that equals itself is found, with the last of the rows with an equal key. -/
theorem lookup?_latest_keyEntries {values : List Value} (hv : values ∈ rows)
    (hself : (column names name values).equal (column names name values) = true) :
    ∃ last, rows.findRev? (fun values' =>
        (column names name values').equal (column names name values)) = some last ∧
      Entries.lookup? (column names name values) (Entries.latest (keyEntries names name rows)) =
        some (labelled names last) := by
  have found : (rows.findRev? fun values' =>
      (column names name values').equal (column names name values)).isSome = true := by
    rw [List.findRev?_eq_find?_reverse, List.find?_isSome]
    exact ⟨values, List.mem_reverse.2 hv, hself⟩
  obtain ⟨last, hlast⟩ := Option.isSome_iff_exists.1 found
  refine ⟨last, hlast, ?_⟩
  rw [List.findRev?_eq_find?_reverse] at hlast
  rw [Entries.lookup?_latest, keyEntries, List.findRev?_eq_find?_reverse, ← List.map_reverse,
    List.find?_map]
  simp only [Function.comp_def, hlast, Option.map_some]

end Row

/-! ## The rows of the current statement -/

namespace Session

variable {d : Type} {s : Session d} {st : State d} {c : CursorId} {names : List String}
  {rows : List (List Value)} {key : String}

theorem outcome_results_of_fetched (hc : st.current = some c)
    (hd : s.connection.description c st.world.driver = some (names.map .text)) (hne : names ≠ [])
    (hr : (s.connection.fetchAll c st.world.driver).1 = .ok rows)
    (hl : ∀ values ∈ rows, names.length = values.length) (hkey : key ≠ "") :
    (s.call (.results (.text key)) st).outcome =
      (Row.keyed (.text key) [] (rows.map (Row.labelled names))).map fun es =>
        .results (.keyed es) := by
  have htrue : (Value.text key).isTrue = true := by simpa [Value.isTrue, Value.length?] using hkey
  rw [call_results, s.exec_results_of_some hc, s.connection.exec_rows_of_texts hd hne hr hl]
  simp only [Except.bind, htrue, if_true]
  cases Row.keyed (.text key) [] (rows.map (Row.labelled names)) <;> rfl

/-- **Rows under the values of a column.**  Let the current statement have columns, and rows left
    each with as many values as there are columns.  Where there are no rows, there are no entries.
    Rows without the column that they are asked for under fail for its name.  Else there is one entry
    for each value of the column, where and as it occurs first, if all can be keys and none is or
    holds what is no number: no two keys are equal, and the value of a row is found with the last of
    the rows with an equal value. -/
theorem results_keyed (hc : st.current = some c)
    (hd : s.connection.description c st.world.driver = some (names.map .text)) (hne : names ≠ [])
    (hr : (s.connection.fetchAll c st.world.driver).1 = .ok rows)
    (hl : ∀ values ∈ rows, names.length = values.length) (hkey : key ≠ "") :
    (rows = [] → (s.call (.results (.text key)) st).outcome = .ok (.results (.keyed []))) ∧
      (rows ≠ [] → key ∉ names → (s.call (.results (.text key)) st).outcome =
        .error (.missingColumn (String.ofList (Text.quoted key.toList)))) ∧
      (key ∈ names → (∀ values ∈ rows, (Row.column names key values).checkKey = .ok ()) →
        (∀ values ∈ rows, ¬(Row.column names key values).HasNan) →
        let entries := Entries.latest (Row.keyEntries names key rows)
        (s.call (.results (.text key)) st).outcome = .ok (.results (.keyed entries)) ∧
          entries.Pairwise (fun e e' => e.1.equal e'.1 = false) ∧
          ∀ values ∈ rows, ∃ last,
            rows.findRev? (fun values' =>
              (Row.column names key values').equal (Row.column names key values)) = some last ∧
            Entries.lookup? (Row.column names key values) entries =
              some (Row.labelled names last)) := by
  have outcome := outcome_results_of_fetched hc hd hne hr hl hkey
  refine ⟨?_, ?_, ?_⟩
  · rintro rfl
    exact outcome
  · intro hrows hn
    rw [outcome, Row.keyed_of_missing hn hrows]
    rfl
  · intro hn hk hnan entries
    refine ⟨?_, Entries.pairwise_latest _, fun values hv => ?_⟩
    · rw [outcome, Row.keyed_labelled hn hk, Entries.foldl_insert]
      rfl
    · exact Row.lookup?_latest_keyEntries hv (Value.equal_self (hk values hv) (hnan values hv))

/-- Equal numbers of different types are one key, and so are occurrences of one value of a foreign
    class.  A key is spelled as the first of them and has the row of the last; a repeated column
    counts by its last value. -/
theorem results_keyed_numbers :
    let names := ["id", "name", "id"]
    let colour (mark : Nat) : Value :=
      .custom ⟨"Colour", .ok "", .ok "", none, none, none, .nothing, .own mark, true⟩
    let rows : List (List Value) := [[.none, .text "a", .int 1], [.none, .text "b", .float 1.0],
      [.int 1, .text "c", colour 7], [.int 2, .text "d", colour 8], [.int 3, .text "e", colour 7],
      [.int 4, .text "f", .bool true]]
    let st := Scripted.reading names rows
    st.current = some 0 ∧
      Scripted.session.connection.description 0 st.world.driver = some (names.map .text) ∧
      names ≠ [] ∧ (Scripted.session.connection.fetchAll 0 st.world.driver).1 = .ok rows ∧
      (∀ values ∈ rows, names.length = values.length) ∧ "id" ≠ "" ∧ "id" ∈ names ∧
      (∀ values ∈ rows, (Row.column names "id" values).checkKey = .ok ()) ∧
      (∀ values ∈ rows, ¬(Row.column names "id" values).HasNan) ∧
      (Scripted.session.call (.results (.text "id")) st).outcome = .ok (.results (.keyed
        [(.int 1, Row.named [("id", .bool true), ("name", .text "f")]),
          (colour 7, Row.named [("id", colour 7), ("name", .text "e")]),
          (colour 8, Row.named [("id", colour 8), ("name", .text "d")])])) ∧
      (Scripted.session.call (.results (.text "key")) st).outcome =
        .error (.missingColumn "'key'") := by
  intro names colour rows st
  have hc : st.current = some 0 := rfl
  have hd : Scripted.session.connection.description 0 st.world.driver = some (names.map .text) := rfl
  have hr : (Scripted.session.connection.fetchAll 0 st.world.driver).1 = .ok rows := rfl
  have hl : ∀ values ∈ rows, names.length = values.length := by simp [rows, names]
  have hk : ∀ values ∈ rows, (Row.column names "id" values).checkKey = .ok () := by
    simp only [rows, List.forall_mem_cons, List.not_mem_nil, false_imp_iff, implies_true, and_true]
    exact ⟨rfl, rfl, rfl, rfl, rfl, rfl⟩
  have hnan : ∀ values ∈ rows, ¬(Row.column names "id" values).HasNan := by
    have hone : ¬(Value.float 1.0).HasNan := by
      rintro ⟨h⟩
      exact absurd h (by decide +kernel)
    simp only [rows, List.forall_mem_cons, List.not_mem_nil, false_imp_iff, implies_true, and_true]
    exact ⟨(nomatch · : ¬(Value.int 1).HasNan), hone, (nomatch · : ¬(colour 7).HasNan),
      (nomatch · : ¬(colour 8).HasNan), (nomatch · : ¬(colour 7).HasNan),
      (nomatch · : ¬(Value.bool true).HasNan)⟩
  have hlatest : Entries.latest (Row.keyEntries names "id" rows) =
      [(.int 1, Row.named [("id", .bool true), ("name", .text "f")]),
        (colour 7, Row.named [("id", colour 7), ("name", .text "e")]),
        (colour 8, Row.named [("id", colour 8), ("name", .text "d")])] := by
    rfl
  have hquoted : String.ofList (Text.quoted "key".toList) = "'key'" := by cbv
  have hid : "id" ≠ "" := by decide
  have hkey : "key" ≠ "" := by decide
  refine ⟨hc, hd, by decide, hr, hl, hid, by decide, hk, hnan, ?_, ?_⟩
  · rw [← hlatest]
    exact ((results_keyed hc hd (by decide) hr hl hid).2.2 (by decide) hk hnan).1
  · rw [← hquoted]
    exact (results_keyed hc hd (by decide) hr hl hkey).2.1 (by simp [rows]) (by decide)

end Session

end SqlWeave
