/-
  Filling a template with parameters.

  All is checked before anything is escaped: first the number of parameters,
  then their shapes, from left to right.  Only then the parameters are
  converted, in the order of their markers, and put into the places of the
  markers.  A template without markers is its own text, whatever the parameters.
-/
import SqlWeave.Conversion

namespace SqlWeave

namespace Value

/-- The greatest length that can be counted. -/
def maxLength : Nat := 0x7FFFFFFFFFFFFFFF

/-- How many elements a value has.  Stored elements can always be counted; those of a range are not
    stored, and there may be too many of them. -/
def length : Value → Except Fault Nat
  | .range a b c =>
    if rangeLength a b c ≤ maxLength then .ok (rangeLength a b c) else .error .lengthTooLarge
  | v => match v.length? with
    | some n => .ok n
    | Option.none => .error (.noLength v.qualifiedTypeName)

@[simp] theorem length_list (xs : List Value) : (list xs).length = .ok xs.length := rfl

@[simp] theorem length_tuple (xs : List Value) : (tuple xs).length = .ok xs.length := rfl

/-- As many elements as are counted are met. -/
theorem length_elements {v : Value} {n : Nat} (h : v.length = .ok n) :
    (v.elements?.getD []).length = n := by
  cases v with
  | range a b c =>
    simp only [length] at h
    split at h <;> simp_all [elements?, rangeElements]
  | custom c =>
    simp only [length, length?] at h
    split at h
    · next hn => exact Except.ok.inj h ▸ Contents.length_elements hn
    · cases h
  | _ => simp_all [length, length?, elements?, String.length_toList]

end Value

namespace Template

variable {σ : Type}

/-- Refuses parameters of which one cannot feed its marker; the first such one counts. -/
def checkShapes : List (Kind × Value) → Except Fault Unit
  | [] => .ok ()
  | (k, v) :: ps => do
    k.checkShape v
    checkShapes ps

theorem checkShapes_eq_ok_iff {ps : List (Kind × Value)} :
    checkShapes ps = .ok () ↔ ∀ p ∈ ps, p.1.accepts p.2 = true := by
  induction ps with
  | nil => simp [checkShapes]
  | cons p ps ih =>
    obtain ⟨k, v⟩ := p
    by_cases h : k.accepts v = true
    · simp only [checkShapes, Kind.checkShape, h, if_true]
      simpa [h, bind, Except.bind] using ih
    · simp [checkShapes, Kind.checkShape, h, bind, Except.bind]

/-- The texts for the parameters, in their order. -/
def convertAll (quote : Quote σ) (ps : List (Kind × Value)) : Act σ (List (List Char)) :=
  ps.mapM fun p => p.1.convert p.2 quote

/-- The text `source` with the parameters in the places of its markers. -/
def compile (source : String) (parameters : Value) (quote : Quote σ) : Act σ String := do
  let t := ofString source
  if t.count = 0 then return source
  let n ← Act.ofExcept parameters.length
  if n ≠ t.count then throw (.arity t.count n source)
  let ps := t.kinds.zip (parameters.elements?.getD [])
  Act.ofExcept (checkShapes ps)
  return String.ofList (t.fill (← convertAll quote ps))

theorem checkShapes_eq (ps : List (Kind × Value)) :
    checkShapes ps = match ps.find? fun p => !p.1.accepts p.2 with
      | some (k, v) => .error (.shape k v.typeName)
      | none => .ok () := by
  induction ps with
  | nil => rfl
  | cons p ps ih =>
    obtain ⟨k, v⟩ := p
    by_cases h : k.accepts v = true
    · simpa [checkShapes, Kind.checkShape, h, bind, Except.bind] using ih
    · simp [checkShapes, Kind.checkShape, h, bind, Except.bind]

/-- The four ends of a compilation. -/
theorem exec_compile (source : String) (parameters : Value) (quote : Quote σ) (s : σ) :
    Act.exec (compile source parameters quote) s =
      let t := ofString source
      let ps := t.kinds.zip (parameters.elements?.getD [])
      if t.count = 0 then (.ok source, s)
      else match parameters.length with
        | .error f => (.error f, s)
        | .ok n =>
          if n ≠ t.count then (.error (.arity t.count n source), s)
          else match checkShapes ps with
            | .error f => (.error f, s)
            | .ok () =>
              let r := Act.exec (convertAll quote ps) s
              (r.1.map fun texts => String.ofList (t.fill texts), r.2) := by
  unfold compile
  dsimp only
  by_cases h0 : (ofString source).count = 0
  · simp [h0]
  · rw [if_neg h0, if_neg h0, Act.exec_bind, Act.exec_ofExcept]
    rcases parameters.length with f | n
    · rfl
    · by_cases hn : n ≠ (ofString source).count
      · simp [hn]
      · dsimp only
        rw [if_neg hn, if_neg hn, Act.exec_bind, Act.exec_ofExcept]
        rcases checkShapes _ with f | _
        · rfl
        · exact Act.exec_bind_pure _ _ s

section
variable {source : String} {parameters : Value} (quote : Quote σ) (s : σ)

theorem exec_compile_of_count_eq_zero (h0 : (ofString source).count = 0) :
    Act.exec (compile source parameters quote) s = (.ok source, s) := by
  rw [exec_compile]
  exact if_pos h0

theorem exec_compile_of_uncountable {f : Fault} (h0 : (ofString source).count ≠ 0)
    (hn : parameters.length = .error f) :
    Act.exec (compile source parameters quote) s = (.error f, s) := by
  rw [exec_compile]
  simp [h0, hn]

theorem exec_compile_of_arity {n : Nat} (h0 : (ofString source).count ≠ 0)
    (hn : parameters.length = .ok n) (h : n ≠ (ofString source).count) :
    Act.exec (compile source parameters quote) s =
      (.error (.arity (ofString source).count n source), s) := by
  rw [exec_compile]
  simp [h0, hn, h]

theorem exec_compile_of_misfit {k : Kind} {v : Value} (h0 : (ofString source).count ≠ 0)
    (hn : parameters.length = .ok (ofString source).count)
    (h : ((ofString source).kinds.zip (parameters.elements?.getD [])).find?
      (fun p => !p.1.accepts p.2) = some (k, v)) :
    Act.exec (compile source parameters quote) s = (.error (.shape k v.typeName), s) := by
  rw [exec_compile]
  simp [h0, hn, checkShapes_eq, h]

end

end Template

end SqlWeave
