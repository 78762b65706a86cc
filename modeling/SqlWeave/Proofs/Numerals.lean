/-
  The characters of numerals, and how many digits they have.

  * `IsNumeric` are the characters that the text of a number may have;
  * `FloatForm` is what the text of a float is made of, and `exists_form` says
    that every decimal is written so;
  * `isNumeric_integerArgument`, `quote_notMem_floatArgument`: what the numeric
    markers put in can neither begin nor end a string;
  * `valueOf_lt`, `length_digits_le_iff`: the length of a numeral bounds its
    number, and so says whether it can be written (`isWritable_iff`).
-/
import Mathlib.Data.Nat.Digits.Defs
import SqlWeave.Conversion

namespace SqlWeave

/-- The characters of numerals: digits, signs, the point, the mark of the exponent, and the letters
    of an infinity and of what is no number. -/
def IsNumeric (c : Char) : Prop := c.isDigit ∨ c ∈ ['-', '+', '.', 'e', 'i', 'n', 'f', 'a']

theorem IsNumeric.ne_quote {c : Char} (h : IsNumeric c) : c ≠ '\'' := by
  rintro rfl
  revert h
  simp [IsNumeric]

theorem isNumeric_minus : IsNumeric '-' := .inr (by simp)

theorem isNumeric_cons {c : Char} {cs : List Char} (hc : IsNumeric c) (hcs : ∀ d ∈ cs, IsNumeric d) :
    ∀ d ∈ c :: cs, IsNumeric d := List.forall_mem_cons.2 ⟨hc, hcs⟩

theorem isNumeric_append {cs ds : List Char} (hcs : ∀ c ∈ cs, IsNumeric c)
    (hds : ∀ c ∈ ds, IsNumeric c) : ∀ c ∈ cs ++ ds, IsNumeric c :=
  List.forall_mem_append.2 ⟨hcs, hds⟩

namespace Numeral

theorem isNumeric_digits (n : Nat) : ∀ c ∈ digits n, IsNumeric c :=
  fun c h => .inl ((areDigits_digits n).isDigit c h)

theorem isNumeric_write (n : Int) : ∀ c ∈ write n, IsNumeric c := by
  unfold write
  split
  · exact isNumeric_cons isNumeric_minus (isNumeric_digits _)
  · exact isNumeric_digits _

/-! ## The form of floats -/

theorem AreDigits.take {cs : List Char} (h : AreDigits cs) {n : Nat} (hn : 0 < n) :
    AreDigits (cs.take n) := by
  refine ⟨fun hnil => ?_, fun c hc => h.isDigit c (List.mem_of_mem_take hc)⟩
  rcases List.take_eq_nil_iff.1 hnil with rfl | hcs
  · exact absurd hn (Nat.lt_irrefl 0)
  · exact h.ne_nil hcs

theorem AreDigits.drop {cs : List Char} (h : AreDigits cs) {n : Nat} (hn : cs.drop n ≠ []) :
    AreDigits (cs.drop n) := ⟨hn, fun c hc => h.isDigit c (List.mem_of_mem_drop hc)⟩

theorem AreDigits.append_zeros {cs : List Char} (h : AreDigits cs) (n : Nat) :
    AreDigits (cs ++ List.replicate n '0') :=
  ⟨List.append_ne_nil_of_left_ne_nil h.ne_nil _,
    List.forall_mem_append.2 ⟨h.isDigit, fun _ hc => List.eq_of_mem_replicate hc ▸ rfl⟩⟩

theorem AreDigits.zeros_append {cs : List Char} (h : AreDigits cs) (n : Nat) :
    AreDigits (List.replicate n '0' ++ cs) :=
  ⟨List.append_ne_nil_of_right_ne_nil _ h.ne_nil,
    List.forall_mem_append.2 ⟨fun _ hc => List.eq_of_mem_replicate hc ▸ rfl, h.isDigit⟩⟩

/-- The parts of the text of a float that follow its sign. -/
structure FloatForm where
  /-- The digits before the point. -/
  whole : List Char
  /-- The digits after the point, if there is a point. -/
  fraction : Option (List Char)
  /-- The sign and the digits of the exponent, if there is one. -/
  exponent : Option (Char × List Char)

namespace FloatForm

/-- The parts as they stand in the text. -/
def source (f : FloatForm) : List Char :=
  f.whole ++ f.fraction.elim [] ('.' :: ·) ++ f.exponent.elim [] fun e => 'e' :: e.1 :: e.2

/-- No part is without digits, the exponent has a sign and at least `width` digits, and there is a
    point or an exponent. -/
structure WellFormed (width : Nat) (f : FloatForm) : Prop where
  whole : AreDigits f.whole
  fraction : ∀ ds ∈ f.fraction, AreDigits ds
  sign : ∀ e ∈ f.exponent, e.1 = '-' ∨ e.1 = '+'
  exponent : ∀ e ∈ f.exponent, AreDigits e.2 ∧ width ≤ e.2.length
  marked : f.fraction.isSome = true ∨ f.exponent.isSome = true

theorem WellFormed.isNumeric {width : Nat} {f : FloatForm} (h : f.WellFormed width) :
    ∀ c ∈ f.source, IsNumeric c := by
  refine isNumeric_append (isNumeric_append (fun c hc => .inl (h.whole.isDigit c hc)) ?_) ?_
  · cases hf : f.fraction with
    | none => exact nofun
    | some ds => exact isNumeric_cons (.inr (by simp)) fun c hc => .inl ((h.fraction ds hf).isDigit c hc)
  · cases he : f.exponent with
    | none => exact nofun
    | some e =>
      have sign : IsNumeric e.1 := by rcases h.sign e he with hs | hs <;> simp [IsNumeric, hs]
      exact isNumeric_cons (.inr (by simp)) (isNumeric_cons sign fun c hc =>
        .inl ((h.exponent e he).1.isDigit c hc))

end FloatForm

/-- A decimal is written plainly, or with one digit before the point and an exponent. -/
theorem exists_form (l : FloatLayout) (d : Nat) (k : Int) :
    ∃ f : FloatForm, f.WellFormed l.exponentDigits ∧ l.write d k = f.source := by
  have digits := areDigits_digits d
  simp only [FloatLayout.write]
  split
  · split
    · refine ⟨⟨['0'], some _, none⟩, ⟨areDigits_digits 0, ?_, nofun, nofun, .inl rfl⟩,
        (List.append_nil _).symm⟩
      rintro _ ⟨⟩
      exact digits.zeros_append _
    · next hpoint =>
      refine ⟨⟨_, some _, none⟩, ⟨(digits.take ?_).append_zeros _, ?_, nofun, nofun, .inl rfl⟩,
        (List.append_nil _).symm⟩
      · omega
      · rintro _ ⟨⟩
        split
        · exact areDigits_digits 0
        · next hrest => exact digits.drop (List.isEmpty_eq_false_iff.1 (Bool.eq_false_iff.2 hrest))
  · let rest := (Nat.toDigits 10 d).drop 1
    let e := ((Nat.toDigits 10 d).length : Int) + k - 1
    refine ⟨⟨(Nat.toDigits 10 d).take 1, if rest.isEmpty then none else some rest,
        some (if e < 0 then '-' else '+', padZeros l.exponentDigits (Nat.toDigits 10 e.natAbs))⟩,
      ⟨digits.take Nat.one_pos, ?_, ?_, ?_, .inr rfl⟩, ?_⟩
    · intro ds hds
      split at hds
      · cases hds
      · next hrest =>
        cases hds
        exact digits.drop (List.isEmpty_eq_false_iff.1 (Bool.eq_false_iff.2 hrest))
    · rintro _ ⟨⟩
      exact ite_eq_or_eq ..
    · rintro _ ⟨⟩
      refine ⟨(areDigits_digits _).zeros_append _, ?_⟩
      rw [padZeros, List.length_append, List.length_replicate]
      omega
    · simp only [FloatForm.source]
      split <;> rfl

theorem isNumeric_layout (l : FloatLayout) (d : Nat) (k : Int) :
    ∀ c ∈ l.write d k, IsNumeric c := by
  obtain ⟨f, wellFormed, written⟩ := exists_form l d k
  rw [written]
  exact wellFormed.isNumeric

theorem isNumeric_floatText (x : Float) : ∀ c ∈ floatText x, IsNumeric c := by
  have sign : ∀ s : Bool, ∀ c ∈ (if s then ['-'] else []), IsNumeric c := by
    intro s
    cases s <;> simp [isNumeric_minus]
  unfold floatText
  split
  · exact isNumeric_append (sign _) (isNumeric_layout _ _ _)
  · refine isNumeric_append (sign _) ?_
    simp [IsNumeric]
  · simp [IsNumeric]

/-! ## How many digits -/

theorem valueOf_singleton_lt (c : Char) : valueOf [c] < 10 := by
  simp only [valueOf, List.foldl_cons, List.foldl_nil, Nat.mul_zero, Nat.zero_add]
  cases h : Text.digitValue? c with
  | none => simp
  | some n => simpa using Text.digitValue?_lt h

/-- Digits denote a number below the power of ten with as many zeros. -/
theorem valueOf_lt (cs : List Char) : valueOf cs < Nat.pow 10 cs.length := by
  induction cs with
  | nil => decide
  | cons c cs ih =>
    have hc : valueOf [c] * Nat.pow 10 cs.length ≤ 9 * Nat.pow 10 cs.length :=
      Nat.mul_le_mul_right _ (Nat.le_of_lt_succ (valueOf_singleton_lt c))
    have hpow : Nat.pow 10 (cs.length + 1) = 10 * Nat.pow 10 cs.length := Nat.pow_succ'
    rw [← List.singleton_append, valueOf_append, List.singleton_append, List.length_cons, hpow]
    omega

theorem length_digits_le_iff {n k : Nat} (hk : 0 < k) :
    (digits n).length ≤ k ↔ n < Nat.pow 10 k := by
  constructor
  · intro h
    calc n = valueOf (digits n) := (valueOf_digits n).symm
      _ < Nat.pow 10 (digits n).length := valueOf_lt _
      _ ≤ Nat.pow 10 k := Nat.pow_le_pow_right (by decide) h
  · exact Nat.toDigits_length 10 n k hk

/-- An integer can be written if it has no more digits than a numeral may have. -/
theorem isWritable_iff {n : Int} :
    isWritable n = true ↔ (digits n.natAbs).length ≤ maxDigits := by
  rw [isWritable, decide_eq_true_eq, length_digits_le_iff (by decide)]

end Numeral

namespace Value

variable {n : Int}

theorem integerText_of_length_le (h : (Numeral.digits n.natAbs).length ≤ Numeral.maxDigits) :
    integerText n = .ok (Numeral.write n) := by
  rw [integerText, if_pos (Numeral.isWritable_iff.2 h)]

theorem exists_integerText_iff :
    (∃ text, integerText n = .ok text) ↔ (Numeral.digits n.natAbs).length ≤ Numeral.maxDigits := by
  rw [← Numeral.isWritable_iff, integerText]
  split <;> simp_all

end Value

/-! ## Arguments of the numeric markers -/

theorem isNumeric_integerText {n : Int} {cs : List Char} (h : Value.integerText n = .ok cs) :
    ∀ c ∈ cs, IsNumeric c := by
  obtain rfl := Value.eq_write_of_integerText h
  exact Numeral.isNumeric_write n

/-- An integer put in for a marker is a numeral. -/
theorem isNumeric_integerArgument {v : Value} {cs : List Char} (h : integerArgument v = .ok cs) :
    ∀ c ∈ cs, IsNumeric c := by
  obtain ⟨n, -, hn⟩ := bind_eq_ok_iff.1 h
  exact isNumeric_integerText hn

theorem quote_notMem_floatText (x : Float) : '\'' ∉ Numeral.floatText x :=
  fun hq => (Numeral.isNumeric_floatText x _ hq).ne_quote rfl

/-- A float of a derived class is shown without quotes. -/
theorem DerivedFloat.quote_notMem_shown (x : DerivedFloat) : '\'' ∉ x.shown := by
  have around : '\'' ∉ x.opening ++ x.closing := fun hq => x.harmless _ hq (by simp)
  simp only [shown, List.mem_append, not_or] at around ⊢
  exact ⟨⟨around.1, quote_notMem_floatText x.number⟩, around.2⟩

/-- A float put in for a marker has no quotes. -/
theorem quote_notMem_floatArgument {v : Value} {cs : List Char} (h : floatArgument v = .ok cs) :
    '\'' ∉ cs := by
  unfold floatArgument at h
  split at h
  · next x =>
    cases h
    split
    · exact x.quote_notMem_shown
    · exact quote_notMem_floatText 0
  · obtain ⟨x, -, hx⟩ := bind_eq_ok_iff.1 h
    cases hx
    exact quote_notMem_floatText x

end SqlWeave
