/-
  The form of numeric texts.

  A number is put in as it is cast, without the escaper, so nothing but its own
  form keeps the statement around it safe.  The form is the same for every value,
  also for one whose hooks answer as they like, but for a float whose class
  writes more than the number.

  * `Numeral.IsCanonicalInteger` and `Numeral.IsFiniteDecimal` are the forms;
  * `isCanonicalInteger_write`: every integer is written in the one, and
    `isFiniteDecimal_floatText`: every finite float in the other;
  * `isFinite_of_castFloat`: a cast gives no other floats;
  * `numericArgument_form`: so the numeric markers put in such texts only, unless
    the float has a text of its own (`Value.IsBare`), and leave the escaper alone;
  * `numericArgument_form_rate`: an enumerated constant is such a float.
-/
import Mathlib.Data.List.Basic
import SqlWeave.Proofs.Escaping
import SqlWeave.Proofs.Numerals

namespace SqlWeave

variable {σ : Type}

namespace Numeral

/-! ## The forms -/

/-- Nothing or a minus sign. -/
def IsMark (cs : List Char) : Prop := cs = [] ∨ cs = ['-']

/-- The text has digits, perhaps after a minus sign, and they start with a zero only in the text
    `0`. -/
def IsCanonicalInteger (text : List Char) : Prop :=
  ∃ mark ds, text = mark ++ ds ∧ IsMark mark ∧ AreDigits ds ∧ (ds.head? = some '0' → text = ['0'])

/-- The text has digits, perhaps after a minus sign, and then a point with digits, or an exponent of
    two digits or more, or both. -/
def IsFiniteDecimal (text : List Char) : Prop :=
  ∃ mark, ∃ f : FloatForm, text = mark ++ f.source ∧ IsMark mark ∧ f.WellFormed 2

/-- A decimal begins with a minus sign or a digit. -/
theorem IsFiniteDecimal.of_head {text : List Char} (h : IsFiniteDecimal text) {c : Char}
    (head : text.head? = some c) : c = '-' ∨ c.isDigit = true := by
  obtain ⟨mark, f, rfl, sign, wellFormed⟩ := h
  rcases sign with rfl | rfl
  · have whole : f.whole ≠ [] := wellFormed.whole.ne_nil
    rw [List.nil_append, FloatForm.source, List.append_assoc, List.head?_append_of_ne_nil _ whole]
      at head
    exact .inr (wellFormed.whole.isDigit c (List.mem_of_mem_head? head))
  · exact .inl (Option.some.inj head).symm

theorem isMark_ite (negative : Bool) : IsMark (if negative then ['-'] else []) := by
  cases negative
  · exact .inl rfl
  · exact .inr rfl

/-! ## Integers -/

/-- The digits behind a zero would be enough for the number, but no number has fewer digits than its
    own. -/
theorem eq_zero_of_head_digits {n : Nat} (h : (digits n).head? = some '0') : n = 0 := by
  obtain ⟨ds, hds⟩ := List.head?_eq_some_iff.1 h
  have zero : valueOf ['0'] = 0 := by decide
  have value : n = valueOf ds := by
    rw [← valueOf_digits n, hds, ← List.singleton_append, valueOf_append, zero, Nat.zero_mul,
      Nat.zero_add]
  cases ds with
  | nil => exact value
  | cons c cs =>
    have short : (digits n).length ≤ (c :: cs).length :=
      (length_digits_le_iff (by simp)).2 (value ▸ valueOf_lt (c :: cs))
    rw [hds] at short
    exact absurd short (Nat.not_succ_le_self _)

/-- An integer is written without needless zeros and signs. -/
theorem isCanonicalInteger_write (n : Int) : IsCanonicalInteger (write n) := by
  have canonical : ∀ mark, IsMark mark → (n = 0 → mark = []) →
      IsCanonicalInteger (mark ++ digits n.natAbs) := by
    intro mark hm hzero
    refine ⟨mark, digits n.natAbs, rfl, hm, areDigits_digits _, fun head => ?_⟩
    have absent := eq_zero_of_head_digits head
    rw [absent, hzero (Int.natAbs_eq_zero.1 absent)]
    rfl
  unfold write
  split
  · exact canonical ['-'] (.inr rfl) (by omega)
  · exact canonical [] (.inl rfl) fun _ => rfl

/-! ## Floats -/

/-- A finite float is written with a point or an exponent. -/
theorem isFiniteDecimal_floatText {x : Float} (h : isFinite x = true) :
    IsFiniteDecimal (floatText x) := by
  unfold isFinite at h
  unfold floatText
  cases hp : parts x with
  | infinite | nan => simp [hp] at h
  | finite s m q =>
    obtain ⟨f, wellFormed, written⟩ := exists_form literalLayout (shortest m q).1 (shortest m q).2
    exact ⟨_, f, congrArg (_ ++ ·) written, isMark_ite s, wellFormed⟩

theorem isFinite_zero : isFinite 0 = true := by decide +kernel

end Numeral

namespace Value

theorem isFinite_finiteOrZero (x : Float) : Numeral.isFinite (finiteOrZero x) = true := by
  unfold finiteOrZero
  split
  · assumption
  · exact Numeral.isFinite_zero

theorem orZero_eq_ok {α : Type} {zero a : α} {e : Except Fault α} (h : orZero zero e = .ok a) :
    e = .ok a ∨ a = zero := by
  unfold orZero at h
  split at h
  · exact .inl h
  · split at h
    · exact .inr (Except.ok.inj h).symm
    · cases h

/-- A cast gives finite floats only, whatever the value and its hooks. -/
theorem isFinite_of_castFloat {v : Value} {x : Float} (h : v.castFloat = .ok x) :
    Numeral.isFinite x = true := by
  have finite : ∀ {e : Except Fault Float}, e.map finiteOrZero = .ok x →
      Numeral.isFinite x = true := by
    intro e he
    obtain ⟨y, -, rfl⟩ := map_eq_ok_iff.1 he
    exact isFinite_finiteOrZero y
  unfold castFloat at h
  split at h
  · cases h
    exact isFinite_finiteOrZero _
  · cases h
    exact isFinite_finiteOrZero _
  · split at h
    · split at h
      · exact finite h
      · cases h
        exact Numeral.isFinite_zero
    · rcases orZero_eq_ok h with h | rfl
      · exact finite h
      · exact Numeral.isFinite_zero

end Value

/-! ## Arguments of the numeric markers -/

theorem isCanonicalInteger_integerArgument {v : Value} {text : List Char}
    (h : integerArgument v = .ok text) : Numeral.IsCanonicalInteger text := by
  obtain ⟨n, -, hn⟩ := bind_eq_ok_iff.1 h
  rw [Value.eq_write_of_integerText hn]
  exact Numeral.isCanonicalInteger_write n

/-- The float that a value is cast to is put in, but for one of a derived class, which writes
    itself. -/
theorem eq_text_of_floatArgument {v : Value} {text : List Char} (h : floatArgument v = .ok text) :
    (∃ x, v.castFloat = .ok x ∧ text = Numeral.floatText x) ∨
      ∃ x, v = .derivedFloat x ∧ Numeral.isFinite x.number = true ∧ text = x.shown := by
  unfold floatArgument at h
  split at h
  · next x =>
    cases h
    by_cases hx : Numeral.isFinite x.number = true
    · exact .inr ⟨x, rfl, hx, if_pos hx⟩
    · exact .inl ⟨0, congrArg Except.ok (if_neg hx), if_neg hx⟩
  · obtain ⟨x, hx, hw⟩ := bind_eq_ok_iff.1 h
    exact .inl ⟨x, hx, (Except.ok.inj hw).symm⟩

/-- The value is no float whose class writes something around the number. -/
def Value.IsBare (v : Value) : Prop :=
  ∀ x, v = .derivedFloat x → Numeral.isFinite x.number = true → x.opening = [] ∧ x.closing = []

theorem isFiniteDecimal_floatArgument {v : Value} (hv : v.IsBare) {text : List Char}
    (h : floatArgument v = .ok text) : Numeral.IsFiniteDecimal text := by
  rcases eq_text_of_floatArgument h with ⟨x, hx, rfl⟩ | ⟨x, rfl, finite, rfl⟩
  · exact Numeral.isFiniteDecimal_floatText (Value.isFinite_of_castFloat hx)
  · obtain ⟨opening, closing⟩ := hv x rfl finite
    rw [DerivedFloat.shown, opening, closing, List.nil_append, List.append_nil]
    exact Numeral.isFiniteDecimal_floatText finite

/-- **The numeric markers put in numbers only, unless a float writes itself otherwise.**  Whatever
    the value, and whatever its hooks answer, an integer that is put in is written without needless
    zeros and signs, and a float as a finite decimal with a point or an exponent, if it is not of a
    class that writes something around the number; a finite float of such a class is put in as the
    class writes it.  The escaper is given nothing, and nothing is done besides, whether there is a
    text or not. -/
theorem numericArgument_form (v : Value) (quote : Quote σ) (s : σ) (handed : List Value) :
    (Act.exec (Kind.integer.convert v (recorded quote)) (s, handed)).2 = (s, handed) ∧
      (Act.exec (Kind.float.convert v (recorded quote)) (s, handed)).2 = (s, handed) ∧
      (∀ text, (Act.exec (Kind.integer.convert v quote) s).1 = .ok text →
        Numeral.IsCanonicalInteger text) ∧
      ∀ text, (Act.exec (Kind.float.convert v quote) s).1 = .ok text →
        (v.IsBare → Numeral.IsFiniteDecimal text) ∧
          ∀ x, v = .derivedFloat x → Numeral.isFinite x.number = true → text = x.shown := by
  refine ⟨rfl, rfl, fun _ => isCanonicalInteger_integerArgument, fun text h =>
    ⟨fun hv => isFiniteDecimal_floatArgument hv h, ?_⟩⟩
  rintro x rfl finite
  have written : floatArgument (.derivedFloat x) = .ok x.shown :=
    congrArg Except.ok (if_pos finite)
  exact Except.ok.inj (h.symm.trans written)

/-- A value of which one hook gives a number and the other another, or none. -/
theorem numericArgument_form_hooks :
    let amount := fun x => Value.custom ⟨"Amount", .ok "", .ok "", none, some (.ok (.float x)),
      some (.ok (.int (-7))), .nothing, .own 0, true⟩
    let infinity := Float.ofBits 0x7FF0000000000000
    Numeral.IsCanonicalInteger ['-', '7'] ∧ Numeral.IsFiniteDecimal ['1', 'e', '+', '2', '2'] ∧
      Act.exec (Kind.float.convert (amount infinity) literalQuote) () = (.ok ['0', '.', '0'], ()) ∧
      Numeral.IsFiniteDecimal ['0', '.', '0'] := by
  intro amount infinity
  have forms := fun v => numericArgument_form v (literalQuote : Quote Unit) () []
  have bare : ∀ x, (amount x).IsBare := by
    rintro x y ⟨⟩
  have cast : ∀ x, (amount x).castFloat = .ok (Value.finiteOrZero x) := fun _ => rfl
  have written : ∀ x, Act.exec (Kind.float.convert (amount x) literalQuote) () =
      (.ok (Numeral.floatText (Value.finiteOrZero x)), ()) := by
    intro x
    show (floatArgument (amount x), ()) = _
    show ((amount x).castFloat >>= fun y => pure (Numeral.floatText y), ()) = _
    rw [cast]
    rfl
  have integer : integerArgument (amount 1e22) = .ok ['-', '7'] := by
    have few : (Numeral.digits (-7 : Int).natAbs).length ≤ Numeral.maxDigits := by decide
    have index : (amount 1e22).castInteger = .ok (-7) := rfl
    rw [integerArgument, index, ok_bind, Value.integerText_of_length_le few]
    rfl
  have large : Numeral.floatText (Value.finiteOrZero 1e22) = ['1', 'e', '+', '2', '2'] := by
    decide +kernel
  have zero : Numeral.floatText (Value.finiteOrZero infinity) = ['0', '.', '0'] := by
    decide +kernel
  have infinite := written infinity
  rw [zero] at infinite
  refine ⟨(forms (amount 1e22)).2.2.1 _ integer, ((forms (amount 1e22)).2.2.2 _ ?_).1 (bare _),
    infinite, ((forms (amount infinity)).2.2.2 _ (congrArg Prod.fst infinite)).1 (bare _)⟩
  rw [written, large]

/-- A rate among enumerated ones, which are floats. -/
def rate : DerivedFloat where
  typeName := "Rate"
  number := 0.2
  text := .ok "Rate.VAT"
  opening := "<Rate.VAT: ".toList
  closing := ['>']
  harmless := by simp [IsHarmless]

/-- A float that writes its own name is put in with the name, which is no number. -/
theorem numericArgument_form_rate :
    Act.exec (Kind.float.convert (.derivedFloat rate) literalQuote) () =
        (.ok "<Rate.VAT: 0.2>".toList, ()) ∧
      ¬ Numeral.IsFiniteDecimal "<Rate.VAT: 0.2>".toList := by
  have finite : Numeral.isFinite rate.number = true := by decide +kernel
  have shown : rate.shown = "<Rate.VAT: 0.2>".toList := by decide +kernel
  refine ⟨?_, ?_⟩
  · rw [← shown]
    exact congrArg (·, ()) (congrArg Except.ok (if_pos finite))
  · intro h
    have head : "<Rate.VAT: 0.2>".toList.head? = some '<' := by decide
    exact absurd (h.of_head head) (by decide)

end SqlWeave
