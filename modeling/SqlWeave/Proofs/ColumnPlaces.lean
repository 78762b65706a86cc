/-
  Columns by their place.

  A column can be asked for by its place in the row, counted from 0.  A row keeps
  one value for each name, so columns of equal names, such as a join gives, share
  one place, and the columns after them move up.

  * `Row.length_labelled_lt`: where a name repeats, a row has fewer values than
    there are columns;
  * `Session.AtRow` says which row the current statement gives next;
  * `result_places`: under distinct names every place holds what was fetched for
    it; otherwise the last place is empty, whatever was fetched.
-/
import Mathlib.Data.List.Nodup
import Mathlib.Data.List.Perm.Subperm
import SqlWeave.Proofs.NamedRows

namespace SqlWeave

variable {d : Type}

/-! ## Names that repeat -/

theorem nodup_eraseDups (names : List String) : names.eraseDups.Nodup := by
  refine (pairwise_eraseDupsBy (r := (· == ·)) names).imp fun h => ?_
  exact fun heq => Bool.eq_false_iff.1 h (beq_iff_eq.2 heq.symm)

theorem length_eraseDups_lt {names : List String} (h : ¬names.Nodup) :
    names.eraseDups.length < names.length := by
  have distinct := nodup_eraseDups names
  have sub : names.eraseDups.Subperm names :=
    List.Nodup.subperm distinct fun _ hn => List.mem_eraseDups.1 hn
  refine Nat.lt_of_le_of_ne sub.length_le fun hlen => h ?_
  exact (sub.perm_of_length_le (Nat.le_of_eq hlen.symm)).nodup_iff.1 distinct

/-- Where a name repeats, a row has fewer values than there are columns. -/
theorem Row.length_labelled_lt {names : List String} (h : ¬names.Nodup) (values : List Value) :
    (labelled names values).length < names.length := by
  rw [labelled, named, List.length_map, List.length_map]
  exact length_eraseDups_lt h

/-! ## Places -/

namespace Session

/-- The current statement has columns of these names, and its next row has these values. -/
structure AtRow (s : Session d) (names : List String) (values : List Value) (st : State d) : Prop where
  columns : names ≠ []
  length_eq : names.length = values.length
  fetched : ∃ c, st.current = some c ∧
    s.connection.description c st.world.driver = some (names.map .text) ∧
    (s.connection.fetchOne c st.world.driver).1 = .ok (some values)

variable {s : Session d} {st : State d} {names : List String} {values : List Value}

/-- A place is picked from the next row under its names. -/
theorem AtRow.outcome_of_place (h : s.AtRow names values st) {column : Value} {i : Int}
    (hi : column.place? = some i) :
    (s.call (.result column) st).outcome =
      .ok (.result (.value (placed ((Row.labelled names values).map Prod.snd) i))) := by
  obtain ⟨c, hc, hd, hr⟩ := h.fetched
  have hl : ∀ vs ∈ some values, names.length = vs.length := by
    rintro vs ⟨⟩
    exact h.length_eq
  rw [call_result, s.exec_result_of_some hc, s.connection.exec_row?_of_texts hd h.columns hr hl]
  simp only [Option.map_some, Except.bind, Option.elim_some, pick_of_place _ hi]
  rfl

/-- **Columns have their places exactly when their names are distinct.**  Let the next row of the
    current statement have as many values as there are columns.  If no two columns have one name,
    every place gives the value of the column at it, and there is no value at any other place.  If
    two columns have one name, there is none at the place of the last column either, whatever value
    that column has. -/
theorem result_places (h : s.AtRow names values st) :
    (names.Nodup → ∀ (column : Value) (i : Int), column.place? = some i →
        (s.call (.result column) st).outcome = .ok (.result (.value (placed values i)))) ∧
      (¬names.Nodup → (s.call (.result (.int (names.length - 1))) st).outcome =
        .ok (.result (.value .none))) := by
  constructor
  · intro hn column i hi
    have hvalues : (names.zip values).map Prod.snd = values :=
      List.map_snd_zip (Nat.le_of_eq h.length_eq.symm)
    rw [h.outcome_of_place hi, Row.labelled_of_nodup hn h.length_eq]
    simp only [Row.named, List.map_map, Function.comp_def, hvalues]
  · intro hn
    have short := Row.length_labelled_lt hn values
    have last : (Value.int (names.length - 1)).place? = some ((names.length : Int) - 1) := rfl
    rw [h.outcome_of_place last, placed, List.getElem?_eq_none]
    · split <;> rfl
    · rw [List.length_map]
      omega

/-- Two columns of different names have their places, and there are no others. -/
theorem result_places_distinct :
    let names := ["id", "name"]
    let values : List Value := [.int 7, .text "ann"]
    let st := Scripted.reading names [values]
    Scripted.session.AtRow names values st ∧ names.Nodup ∧
      (Scripted.session.call (.result (.int 1)) st).outcome =
        .ok (.result (.value (.text "ann"))) ∧
      (Scripted.session.call (.result (.int (-1))) st).outcome = .ok (.result (.value .none)) := by
  intro names values st
  have hn : names.Nodup := by decide
  have hrow : Scripted.session.AtRow names values st := ⟨by decide, rfl, 0, rfl, rfl, rfl⟩
  have places := (result_places hrow).1 hn
  exact ⟨hrow, hn, places (.int 1) 1 rfl, places (.int (-1)) (-1) rfl⟩

/-- Two columns of one name have one place, which holds the second value. -/
theorem result_repeated_name :
    let names := ["id", "id"]
    let values : List Value := [.int 1, .int 2]
    let st := Scripted.reading names [values]
    Scripted.session.AtRow names values st ∧
      placed values 0 = .int 1 ∧
      (Scripted.session.call (.result (.int 0)) st).outcome = .ok (.result (.value (.int 2))) ∧
      placed values 1 = .int 2 ∧
      (Scripted.session.call (.result (.int 1)) st).outcome = .ok (.result (.value .none)) :=
  ⟨⟨by decide, rfl, 0, rfl, rfl, rfl⟩, rfl, rfl, rfl, rfl⟩

end Session

end SqlWeave
