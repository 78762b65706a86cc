/-
  Equality of keys.

  Equality of values is symmetric and transitive.  It is not reflexive, since
  what is no number equals nothing; but this is the only exception among keys.

  * `Value.Matches` says what equal values look like, one case for each way to
    be equal, and `equal_iff` that these are all;
  * `equal_symm`, `equal_trans`: by recursion on the values, case by case;
  * `equal_self`: a key equals itself unless it is or holds what is no number
    (`HasNan`);
  * `Entries.lookup?_insert`: what is found after a value has been put under a
    key.
-/
import Mathlib.Data.List.Forall2
import SqlWeave.Value.Key

namespace SqlWeave

namespace Value

/-! ## Ways to be equal -/

/-- A way in which two values are equal. -/
inductive Matches : Value → Value → Prop where
  | none : Matches none none
  | text (s : String) : Matches (text s) (text s)
  | bytes (bs : List UInt8) : Matches (bytes bs) (bytes bs)
  | tuple {xs ys : List Value} (h : List.Forall₂ (fun x y => x.equal y = true) xs ys) :
      Matches (tuple xs) (tuple ys)
  | frozenSet {xs ys : List Value} (h : ∀ x ∈ xs, ∃ y ∈ ys, x.equal y = true)
      (h' : ∀ y ∈ ys, ∃ x ∈ xs, x.equal y = true) : Matches (frozenSet xs) (frozenSet ys)
  | range {a b c a' b' c' : Int} (h : sameRange a b c a' b' c' = true) :
      Matches (range a b c) (range a' b' c')
  | date (x : Calendar.Date) : Matches (date x) (date x)
  | moment {x y : Calendar.Moment} (h : x.same y = true) : Matches (moment x) (moment y)
  /-- Values of any types that denote one number, or that a foreign class holds equal. -/
  | alike {a b : Value} {l : Likeness} (ha : a.likeness? = some l) (hb : b.likeness? = some l) :
      Matches a b

theorem equalAll_iff {xs ys : List Value} :
    equalAll xs ys = true ↔ List.Forall₂ (fun x y => x.equal y = true) xs ys := by
  induction xs generalizing ys with
  | nil => cases ys <;> simp [equalAll]
  | cons x xs ih => cases ys <;> simp [equalAll, ih]

theorem eachOccurs_iff {xs ys : List Value} :
    eachOccurs xs ys = true ↔ ∀ x ∈ xs, ∃ y ∈ ys, x.equal y = true := by
  induction xs with
  | nil => simp [eachOccurs]
  | cons x xs ih => simp [eachOccurs, ih]

theorem occurs_iff {xs : List Value} {y : Value} :
    occurs xs y = true ↔ ∃ x ∈ xs, x.equal y = true := by
  induction xs with
  | nil => simp [occurs]
  | cons x xs ih => simp [occurs, ih]

theorem equal_iff {a b : Value} : a.equal b = true ↔ Matches a b := by
  constructor
  · intro h
    rw [equal.eq_def] at h
    split at h
    · split at h
      · exact .none
      · cases h
    · split at h
      · rw [beq_iff_eq.1 h]; exact .text _
      · cases h
    · split at h
      · rw [beq_iff_eq.1 h]; exact .bytes _
      · cases h
    · split at h
      · exact .tuple (equalAll_iff.1 h)
      · cases h
    · split at h
      · rw [Bool.and_eq_true, List.all_eq_true] at h
        exact .frozenSet (eachOccurs_iff.1 h.1) fun y hy => occurs_iff.1 (h.2 y hy)
      · cases h
    · split at h
      · exact .range h
      · cases h
    · split at h
      · rw [beq_iff_eq.1 h]; exact .date _
      · cases h
    · split at h
      · exact .moment h
      · cases h
    · split at h
      · next ha hb => exact .alike ha (by rw [hb, beq_iff_eq.1 h])
      · cases h
  · intro h
    cases h with
    | none => simp [equal]
    | text | bytes | date => simp [equal]
    | tuple h => simpa [equal] using equalAll_iff.2 h
    | frozenSet h h' =>
      rw [equal, Bool.and_eq_true, List.all_eq_true]
      exact ⟨eachOccurs_iff.2 h, fun y hy => occurs_iff.2 (h' y hy)⟩
    | range h | moment h => simpa [equal] using h
    | alike ha hb =>
      cases a with
      | bool | int | float | derivedFloat | decimal | custom =>
        rw [equal]
        · simp [ha, hb]
        all_goals nofun
      | _ => cases ha

/-- The order of a set's elements does not count. -/
example : (frozenSet [int 1, text "a"]).equal (frozenSet [text "a", bool true]) = true := by decide

/-! ## Numbers -/

theorem likeness?_eq_number_iff {v : Value} {q : Quantity} :
    v.likeness? = some (.number q) ↔ v.quantity? = some q := by
  cases v with
  | custom c =>
    rw [likeness?, quantity?]
    cases c.likeness <;> simp
  | _ => simp [likeness?]

/-- What denotes a number equals what denotes the same number, and nothing else. -/
theorem equal_iff_of_quantity {v : Value} {q : Quantity} (h : v.quantity? = some q) (w : Value) :
    v.equal w = true ↔ w.quantity? = some q := by
  have likeness := likeness?_eq_number_iff.2 h
  rw [equal_iff, ← likeness?_eq_number_iff]
  constructor
  · intro equal
    cases equal with
    | alike hv hw => rw [hw, ← hv, likeness]
    | _ => cases h
  · exact fun hw => .alike likeness hw

/-! ## Symmetry and transitivity -/

theorem sameRange_symm {a b c a' b' c' : Int} (h : sameRange a b c a' b' c' = true) :
    sameRange a' b' c' a b c = true := by
  simp only [sameRange, Bool.and_eq_true, Bool.or_eq_true, beq_iff_eq] at h ⊢
  omega

theorem sameRange_trans {a b c a' b' c' a'' b'' c'' : Int} (h : sameRange a b c a' b' c' = true)
    (h' : sameRange a' b' c' a'' b'' c'' = true) : sameRange a b c a'' b'' c'' = true := by
  simp only [sameRange, Bool.and_eq_true, Bool.or_eq_true, beq_iff_eq] at h h' ⊢
  omega

section
variable {xs ys zs : List Value}

theorem forall₂_symm (h : ∀ x ∈ xs, ∀ y, x.equal y = true → y.equal x = true)
    (hxy : List.Forall₂ (fun x y => x.equal y = true) xs ys) :
    List.Forall₂ (fun x y => x.equal y = true) ys xs := by
  induction hxy with
  | nil => exact .nil
  | cons hab _ ih =>
    rw [List.forall_mem_cons] at h
    exact .cons (h.1 _ hab) (ih h.2)

theorem forall₂_trans
    (h : ∀ x ∈ xs, ∀ y z, x.equal y = true → y.equal z = true → x.equal z = true)
    (hxy : List.Forall₂ (fun x y => x.equal y = true) xs ys)
    (hyz : List.Forall₂ (fun x y => x.equal y = true) ys zs) :
    List.Forall₂ (fun x y => x.equal y = true) xs zs := by
  induction hxy generalizing zs with
  | nil => exact hyz
  | cons hab _ ih =>
    rw [List.forall_mem_cons] at h
    cases hyz with
    | cons hbc hyz => exact .cons (h.1 _ _ hab hbc) (ih h.2 hyz)

end

theorem equal_symm {a b : Value} (h : a.equal b = true) : b.equal a = true := by
  rw [equal_iff] at h ⊢
  cases h with
  | none => exact .none
  | text s => exact .text s
  | bytes bs => exact .bytes bs
  | @tuple xs ys h => exact .tuple (forall₂_symm (fun x hx y hxy => equal_symm hxy) h)
  | @frozenSet xs ys h h' =>
    refine .frozenSet (fun y hy => ?_) fun x hx => ?_
    · obtain ⟨x, hx, hxy⟩ := h' y hy
      exact ⟨x, hx, equal_symm hxy⟩
    · obtain ⟨y, hy, hxy⟩ := h x hx
      exact ⟨y, hy, equal_symm hxy⟩
  | range h => exact .range (sameRange_symm h)
  | date x => exact .date x
  | moment h =>
    simp only [Calendar.Moment.same, Bool.and_eq_true, beq_iff_eq] at h
    exact .moment (by simp [Calendar.Moment.same, h])
  | alike ha hb => exact .alike hb ha
termination_by sizeOf a

theorem equal_trans {a b c : Value} (hab : a.equal b = true) (hbc : b.equal c = true) :
    a.equal c = true := by
  rw [equal_iff] at hab hbc ⊢
  cases hab with
  | none | text | bytes | date => exact hbc
  | @tuple xs ys h =>
    cases hbc with
    | tuple h' => exact .tuple (forall₂_trans (fun x hx y z hxy hyz => equal_trans hxy hyz) h h')
    | alike hb => cases hb
  | @frozenSet xs ys h₁ h₂ =>
    cases hbc with
    | @frozenSet _ zs h₁' h₂' =>
      refine .frozenSet (fun x hx => ?_) fun z hz => ?_
      · obtain ⟨y, hy, hxy⟩ := h₁ x hx
        obtain ⟨z, hz, hyz⟩ := h₁' y hy
        exact ⟨z, hz, equal_trans hxy hyz⟩
      · obtain ⟨y, hy, hyz⟩ := h₂' z hz
        obtain ⟨x, hx, hxy⟩ := h₂ y hy
        exact ⟨x, hx, equal_trans hxy hyz⟩
    | alike hb => cases hb
  | range h =>
    cases hbc with
    | range h' => exact .range (sameRange_trans h h')
    | alike hb => cases hb
  | moment h =>
    cases hbc with
    | moment h' =>
      simp only [Calendar.Moment.same, Bool.and_eq_true, beq_iff_eq] at h h'
      exact .moment (by simp [Calendar.Moment.same, h, h'])
    | alike hb => cases hb
  | alike ha hb =>
    cases hbc with
    | alike hb' hc =>
      obtain rfl := Option.some.inj (hb.symm.trans hb')
      exact .alike ha hc
    | _ => cases hb
termination_by sizeOf a

/-! ## Keys that equal themselves -/

/-- The value has a number's type and is no number, or holds such a value. -/
inductive HasNan : Value → Prop where
  | float {x : Float} (h : (float x).quantity? = .none) : HasNan (float x)
  | derivedFloat {x : DerivedFloat} (h : (derivedFloat x).quantity? = .none) :
      HasNan (derivedFloat x)
  | decimal {x : Numeral.Decimal} (h : (decimal x).quantity? = .none) : HasNan (decimal x)
  | tuple {xs : List Value} {x : Value} (hx : x ∈ xs) (h : HasNan x) : HasNan (tuple xs)
  | frozenSet {xs : List Value} {x : Value} (hx : x ∈ xs) (h : HasNan x) : HasNan (frozenSet xs)

theorem checkKeys_eq_ok_iff {xs : List Value} :
    checkKeys xs = .ok () ↔ ∀ x ∈ xs, x.checkKey = .ok () := by
  induction xs with
  | nil => simp [checkKeys]
  | cons x xs ih =>
    rw [checkKeys, List.forall_mem_cons, ← ih]
    cases x.checkKey <;> simp [bind, Except.bind]

theorem matches_of_quantity {v : Value} (h : v.quantity? ≠ .none) : Matches v v := by
  obtain ⟨q, hq⟩ := Option.ne_none_iff_exists'.1 h
  exact .alike (likeness?_eq_number_iff.2 hq) (likeness?_eq_number_iff.2 hq)

theorem equal_self {v : Value} (hk : v.checkKey = .ok ()) (hn : ¬v.HasNan) : v.equal v = true := by
  rw [equal_iff]
  cases v with
  | none => exact .none
  | text s => exact .text s
  | bytes bs => exact .bytes bs
  | date x => exact .date x
  | moment x => exact .moment (by simp [Calendar.Moment.same])
  | range a b c => exact .range (by simp [sameRange])
  | bool | int | custom => exact .alike rfl rfl
  | float => exact matches_of_quantity fun h => hn (.float h)
  | derivedFloat => exact matches_of_quantity fun h => hn (.derivedFloat h)
  | decimal => exact matches_of_quantity fun h => hn (.decimal h)
  | tuple xs =>
    have keys := checkKeys_eq_ok_iff.1 (by simpa only [checkKey] using hk)
    exact .tuple (List.forall₂_same.2 fun x hx => equal_self (keys x hx) fun h => hn (.tuple hx h))
  | frozenSet xs =>
    have keys := checkKeys_eq_ok_iff.1 (by simpa only [checkKey] using hk)
    have self : ∀ x ∈ xs, x.equal x = true := fun x hx =>
      equal_self (keys x hx) fun h => hn (.frozenSet hx h)
    exact .frozenSet (fun x hx => ⟨x, hx, self x hx⟩) fun x hx => ⟨x, hx, self x hx⟩
  | byteArray | list | deque | set | dict | dictView => simp [checkKey] at hk
termination_by sizeOf v

end Value

/-! ## Entries by key -/

namespace Entries

variable {α : Type}

/-- What was put under a key is found under all keys equal to it, and under no others. -/
theorem lookup?_insert (k k' : Value) (v : α) (es : List (Value × α)) :
    lookup? k (insert k' v es) = if k'.equal k then some v else lookup? k es := by
  induction es with
  | nil => simp [insert, lookup?]
  | cons e es ih =>
    obtain ⟨m, u⟩ := e
    by_cases hm : m.equal k' = true
    · by_cases hk : k'.equal k = true
      · simp [insert, lookup?, hm, hk, Value.equal_trans hm hk]
      · have hmk : ¬m.equal k = true := fun h => hk (Value.equal_trans (Value.equal_symm hm) h)
        simp [insert, lookup?, hm, hk, hmk]
    · by_cases hmk : m.equal k = true
      · have hk : ¬k'.equal k = true := fun h => hm (Value.equal_trans hmk (Value.equal_symm h))
        simp [insert, lookup?, hm, hk, hmk]
      · simp [insert, lookup?, hm, hmk, ih]

end Entries

end SqlWeave
