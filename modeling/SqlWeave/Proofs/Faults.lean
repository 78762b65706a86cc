/-
  What can go wrong where.

  A composed outcome fails with the faults of its steps only, so what cannot go
  wrong in a step cannot go wrong in the whole.

  * `FailsWith` are outcomes whose faults, if any, satisfy a predicate; this
    passes from steps to what is composed of them;
  * `Value.failsWith_plain`: writing a value fails for a long integer or because
    of a hook;
  * `Row.failsWith_ofValues`, `Row.failsWith_keyed`: making rows, and putting
    them under keys, fails with faults of rows.
-/
import SqlWeave.Row

namespace SqlWeave

/-! ## Faults of composed outcomes -/

section
variable {α β : Type}

/-- Every fault of the outcome satisfies `P`. -/
def FailsWith (P : Fault → Prop) (e : Except Fault α) : Prop := ∀ f, e = .error f → P f

namespace FailsWith

variable {P : Fault → Prop}

theorem ok (a : α) : FailsWith P (.ok a) := fun _ h => by cases h

theorem error {f : Fault} (h : P f) : FailsWith P (.error f : Except Fault α) := by
  intro f' hf
  cases hf
  exact h

theorem imp {Q : Fault → Prop} {e : Except Fault α} (h : FailsWith P e) (hpq : ∀ f, P f → Q f) :
    FailsWith Q e := fun f hf => hpq f (h f hf)

theorem map {e : Except Fault α} (he : FailsWith P e) (g : α → β) : FailsWith P (e.map g) := by
  intro f hf
  cases e with
  | error f' =>
    cases hf
    exact he f rfl
  | ok a => cases hf

theorem bind {e : Except Fault α} {g : α → Except Fault β} (he : FailsWith P e)
    (hg : ∀ a, FailsWith P (g a)) : FailsWith P (e >>= g) := by
  intro f hf
  cases e with
  | error f' =>
    cases hf
    exact he f rfl
  | ok a => exact hg a f hf

theorem mapM {g : α → Except Fault β} (hg : ∀ a, FailsWith P (g a)) (xs : List α) :
    FailsWith P (xs.mapM g) := by
  induction xs with
  | nil => exact ok _
  | cons x xs ih =>
    rw [List.mapM_cons]
    exact (hg x).bind fun _ => ih.bind fun _ => ok _

end FailsWith

end

/-! ## Writing values -/

/-- The fault of a value that cannot be written: an integer is too long, or a hook raises. -/
def Fault.IsUnwritable : Fault → Prop
  | integerTooLong | raised _ => True
  | _ => False

namespace Value

theorem failsWith_integerText (n : Int) : FailsWith Fault.IsUnwritable (integerText n) := by
  unfold integerText
  split
  · exact .ok _
  · exact .error trivial

theorem failsWith_rangeText (a b c : Int) : FailsWith Fault.IsUnwritable (rangeText a b c) := by
  unfold rangeText
  refine (failsWith_integerText a).bind fun _ => (failsWith_integerText b).bind fun _ => ?_
  split
  · exact .ok _
  · exact (failsWith_integerText c).bind fun _ => .ok _

theorem failsWith_hookText (hook : Except Raised String) :
    FailsWith Fault.IsUnwritable (hookText hook) := by
  cases hook with
  | ok => exact .ok _
  | error => exact .error trivial

mutual

theorem failsWith_shown (v : Value) : FailsWith Fault.IsUnwritable v.shown := by
  cases v with
  | int n => exact failsWith_integerText n
  | range a b c => exact failsWith_rangeText a b c
  | list xs | tuple xs | deque xs => exact (failsWith_shownAll xs).bind fun _ => .ok _
  | set xs | frozenSet xs =>
    cases xs with
    | nil => exact .ok _
    | cons x xs => exact (failsWith_shownAll (x :: xs)).bind fun _ => .ok _
  | dict es | dictView es => exact (failsWith_shownEntries es).bind fun _ => .ok _
  | custom c => exact failsWith_hookText c.shown
  | none | bool | float | derivedFloat | text | bytes | byteArray | decimal | date | moment =>
    exact .ok _

theorem failsWith_shownAll (xs : List Value) : FailsWith Fault.IsUnwritable (shownAll xs) := by
  cases xs with
  | nil => exact .ok _
  | cons x xs => exact (failsWith_shown x).bind fun _ => (failsWith_shownAll xs).bind fun _ => .ok _

theorem failsWith_shownEntries (es : List (Value × Value)) :
    FailsWith Fault.IsUnwritable (shownEntries es) := by
  cases es with
  | nil => exact .ok _
  | cons e es =>
    obtain ⟨k, v⟩ := e
    exact (failsWith_shown k).bind fun _ => (failsWith_shown v).bind fun _ =>
      (failsWith_shownEntries es).bind fun _ => .ok _

end

/-- A value cannot be written because of an integer or because of a hook that raises. -/
theorem failsWith_plain (v : Value) : FailsWith Fault.IsUnwritable v.plain := by
  unfold plain
  split
  · exact .ok _
  · exact .ok _
  · exact .ok _
  · exact .ok _
  · exact failsWith_shown _
  · exact failsWith_hookText _
  · exact failsWith_hookText _
  · exact failsWith_shown _

end Value

/-! ## Making rows -/

/-- A fault of making a row or of putting it under a key. -/
def Fault.IsOfRow : Fault → Prop
  | unhashable _ | signallingKey | rowTooShort | rowTooLong | missingColumn _ => True
  | f => f.IsUnwritable

theorem Fault.IsUnwritable.isOfRow {f : Fault} (h : f.IsUnwritable) : f.IsOfRow := by
  cases f <;> trivial

/-- A row has nothing to say about a session. -/
theorem Fault.IsOfRow.ne_noActiveStatement {f : Fault} (h : f.IsOfRow) : f ≠ .noActiveStatement := by
  rintro rfl
  exact h

namespace Value

mutual

theorem failsWith_checkKey (v : Value) : FailsWith Fault.IsOfRow v.checkKey := by
  cases v with
  | tuple xs | frozenSet xs => exact failsWith_checkKeys xs
  | decimal d =>
    cases d with
    | finite | infinite => exact .ok _
    | nan negative signalling payload =>
      cases signalling with
      | true => exact .error trivial
      | false => exact .ok _
  | custom c =>
    rw [checkKey]
    split
    · exact .ok _
    · exact .error trivial
  | byteArray | list | deque | set | dict | dictView => exact .error trivial
  | none | bool | int | float | derivedFloat | text | bytes | range | date | moment => exact .ok _

theorem failsWith_checkKeys (xs : List Value) : FailsWith Fault.IsOfRow (checkKeys xs) := by
  cases xs with
  | nil => exact .ok _
  | cons x xs => exact (failsWith_checkKey x).bind fun _ => failsWith_checkKeys xs

end

end Value

namespace Row

theorem failsWith_insert? {α : Type} (es : List (Value × α)) (k : Value) (v : α) :
    FailsWith Fault.IsOfRow (Entries.insert? es k v) :=
  k.failsWith_checkKey.bind fun _ => .ok _

theorem failsWith_extend (row : Row) (names values : List Value) :
    FailsWith Fault.IsOfRow (row.extend names values) := by
  induction names generalizing row values with
  | nil => cases values <;> first | exact .error trivial | exact .ok _
  | cons n ns ih =>
    cases values with
    | nil => exact .error trivial
    | cons v vs => exact (failsWith_insert? row n v).bind fun row => ih row vs

theorem failsWith_ofValues (names values : List Value) :
    FailsWith Fault.IsOfRow (ofValues names values) := failsWith_extend [] names values

theorem failsWith_value? (row : Row) (name : Value) : FailsWith Fault.IsOfRow (row.value? name) :=
  name.failsWith_checkKey.bind fun _ => .ok _

theorem failsWith_value (row : Row) (name : Value) : FailsWith Fault.IsOfRow (row.value name) := by
  refine (failsWith_value? row name).bind fun v => ?_
  cases v with
  | some v => exact .ok v
  | none =>
    exact (name.failsWith_shown.imp fun f => Fault.IsUnwritable.isOfRow).bind fun _ => .error trivial

theorem failsWith_keyed (key : Value) (es : List (Value × Row)) (rows : List Row) :
    FailsWith Fault.IsOfRow (keyed key es rows) := by
  induction rows generalizing es with
  | nil => exact .ok _
  | cons row rows ih =>
    exact (failsWith_value row key).bind fun v =>
      (failsWith_insert? es v row).bind fun es => ih es

end Row

end SqlWeave
