/-
  When the numeric markers have a text.

  Plain data is cast to a number without asking anything, and what has no number
  gives zero.  Two things stand in the way of a text all the same: an integer of
  too many digits, given as such or read from a text, and an information
  separator among the blanks before a number, which is blank for the cast but not
  for the reader of numerals.

  * `Value.IsPlain` is the plain data;
  * `Value.leadingInteger?` and `Value.leadingFloat?` are the numbers that a text
    or byte string starts with;
  * `Value.integerFails` and `Value.floatFails` say what stands in the way;
  * `length_digits_wholeOfFloat`: no float is too long for an integer text;
  * `numericArgument_iff`: there is a text exactly if nothing stands in the way,
    and it is that of zero where there is no number.
-/
import SqlWeave.Proofs.WholeNumbers
import SqlWeave.Proofs.Numerals

namespace SqlWeave

variable {σ : Type}

open Numeral (Leading leading? maxDigits digits)

/-! ## Lengths of integers -/

namespace Numeral

theorem natAbs_withSign (sign : Option Char) (n : Nat) : (withSign sign n).natAbs = n := by
  unfold withSign
  split <;> simp

/-- A number of some bits has no more digits than bits. -/
theorem lt_of_lt_two_pow {n k l : Nat} (h : n < Nat.pow 2 k) (hk : k ≤ l) : n < Nat.pow 10 l :=
  calc n < Nat.pow 2 k := h
    _ ≤ Nat.pow 2 l := Nat.pow_le_pow_right (by decide) hk
    _ ≤ Nat.pow 10 l := Nat.pow_le_pow_left (by decide) _

/-- Digits denote a number of no more digits. -/
theorem length_digits_valueOf_le {cs : List Char} {k : Nat} (hk : 0 < k) (h : cs.length ≤ k) :
    (digits (valueOf cs)).length ≤ k := by
  rw [length_digits_le_iff hk]
  exact Nat.lt_of_lt_of_le (valueOf_lt cs) (Nat.pow_le_pow_right (by decide) h)

theorem wholePart_lt {x : Float} {s : Bool} {m : Nat} {q : Int} (h : parts x = .finite s m q) :
    wholePart m q < Nat.pow 10 maxDigits := by
  have hm : m < Nat.pow 2 53 := parts_mantissa_lt h
  have hq := parts_exponent_le h
  unfold wholePart
  split
  · have hlt : m * Nat.pow 2 q.toNat < Nat.pow 2 (53 + q.toNat) :=
      calc m * Nat.pow 2 q.toNat < Nat.pow 2 53 * Nat.pow 2 q.toNat :=
            Nat.mul_lt_mul_of_pos_right hm (Nat.pow_pos (by decide))
        _ = Nat.pow 2 (53 + q.toNat) := (Nat.pow_add 2 53 q.toNat).symm
    exact lt_of_lt_two_pow hlt (by unfold maxDigits; omega)
  · exact lt_of_lt_two_pow (Nat.lt_of_le_of_lt (Nat.div_le_self _ _) hm) (by decide)

end Numeral

namespace Value

theorem natAbs_wholeOfFloat_lt (x : Float) : (wholeOfFloat x).natAbs < Nat.pow 10 maxDigits := by
  unfold wholeOfFloat
  cases hp : Numeral.parts x with
  | finite s m q =>
    rw [Numeral.Parts.truncate?, Option.getD_some, Numeral.natAbs_signed]
    exact Numeral.wholePart_lt hp
  | infinite | nan => exact Numeral.lt_of_lt_two_pow (k := 0) Nat.one_pos (Nat.zero_le _)

/-- The whole part of a float has no more digits than a numeral may have. -/
theorem length_digits_wholeOfFloat (x : Float) :
    (digits (wholeOfFloat x).natAbs).length ≤ maxDigits :=
  (Numeral.length_digits_le_iff (by decide)).2 (natAbs_wholeOfFloat_lt x)

/-! ## Numbers at the start of a text -/

theorem exists_floatOfLeading_iff {l : Leading} :
    (∃ x, floatOfLeading l = .ok x) ↔ l.isSeparated = false := by
  unfold floatOfLeading
  split <;> simp_all

/-- A leading number has an integer that can be written if no separator stands before it, and if it
    is not an integer of too many digits. -/
theorem exists_integerOfLeading_iff {l : Leading} :
    (∃ text, (integerOfLeading l >>= integerText) = .ok text) ↔
      l.isSeparated = false ∧ (l.isInteger = true → l.whole.length ≤ maxDigits) := by
  unfold integerOfLeading
  by_cases hs : l.isSeparated = true
  · -- a separator is refused by either way of reading
    have hfloat : floatOfLeading l = .error (.notDecimal (String.ofList (Text.quoted l.source))) :=
      if_pos hs
    split <;> simp [hs, hfloat, bind, Except.bind, Except.map]
  · rw [Bool.not_eq_true] at hs
    by_cases hi : l.isInteger = true
    · rw [if_pos hi, if_neg (by simp [hs])]
      by_cases hl : maxDigits < l.whole.length
      · simp [hl, hi, Nat.not_le.2 hl, bind, Except.bind]
      · have hlen : (digits l.integer.natAbs).length ≤ maxDigits := by
          rw [Leading.integer, Numeral.natAbs_withSign]
          exact Numeral.length_digits_valueOf_le (by decide) (Nat.not_lt.1 hl)
        rw [if_neg hl, ok_bind, exists_integerText_iff]
        exact iff_of_true hlen ⟨hs, fun _ => Nat.not_lt.1 hl⟩
    · obtain ⟨x, hx⟩ := exists_floatOfLeading_iff.2 hs
      rw [if_neg hi, hx, Except.map, ok_bind, exists_integerText_iff]
      exact iff_of_true (length_digits_wholeOfFloat x) ⟨hs, fun h => absurd h hi⟩

/-! ## What stands in the way -/

/-- The number that a text or byte string starts with. -/
def leadingInteger? (v : Value) : Option Leading := v.chars?.bind leading?

/-- The number that a text or byte string starts with, if commas are points. -/
def leadingFloat? (v : Value) : Option Leading := v.chars?.bind fun cs => leading? (commaAsPoint cs)

/-- The value has no integer text: it is too long, or starts with an integer that is, or with a number
    after a separator. -/
def integerFails : Value → Bool
  | int n => decide (maxDigits < (digits n.natAbs).length)
  | v => v.leadingInteger?.any fun l =>
    l.isSeparated || l.isInteger && decide (maxDigits < l.whole.length)

/-- The value has no float text: it starts with a number after a separator. -/
def floatFails (v : Value) : Bool := v.leadingFloat?.any Leading.isSeparated

/-- Whether the value is a number, or a text or byte string that starts with the number `leading`. -/
def hasNumber (leading : Option Leading) : Value → Bool
  | bool _ | int _ => true
  | float x => Numeral.isFinite x
  | _ => leading.isSome

/-- Plain data: nothing, numbers, texts, byte strings and the usual containers of any values. -/
def IsPlain : Value → Prop
  | none | bool _ | int _ | float _ | text _ | bytes _ | byteArray _ | list _ | tuple _ | set _
  | dict _ => True
  | _ => False

theorem IsPlain.not_derived {v : Value} (hv : v.IsPlain) (x : DerivedFloat) :
    v ≠ derivedFloat x := by
  rintro rfl
  exact hv

/-! ## Casts of plain data -/

section
variable {v : Value} {cs : List Char}

theorem castInteger_of_chars (h : v.chars? = some cs) :
    v.castInteger = (leading? cs).elim (.ok 0) integerOfLeading := by
  cases v with
  | text | bytes | byteArray =>
    cases h
    simp only [castInteger, chars?]
    cases leading? _ <;> rfl
  | _ => cases h

theorem castFloat_of_chars (h : v.chars? = some cs) :
    v.castFloat =
      (leading? (commaAsPoint cs)).elim (.ok 0) fun l => (floatOfLeading l).map finiteOrZero := by
  cases v with
  | text | bytes | byteArray =>
    cases h
    simp only [castFloat, chars?]
    cases leading? _ <;> rfl
  | _ => cases h

theorem exists_integerArgument_of_cast {n : Int} (h : v.castInteger = .ok n) :
    (∃ text, integerArgument v = .ok text) ↔ (digits n.natAbs).length ≤ maxDigits := by
  rw [integerArgument, h, ok_bind, exists_integerText_iff]

theorem exists_integerArgument_of_chars (h : v.chars? = some cs) :
    (∃ text, integerArgument v = .ok text) ↔ v.integerFails = false := by
  have hl : v.leadingInteger? = leading? cs := by rw [leadingInteger?, h, Option.bind_some]
  have hf : v.integerFails = (leading? cs).any fun l =>
      l.isSeparated || l.isInteger && decide (maxDigits < l.whole.length) := by
    cases v with
    | text | bytes | byteArray =>
      rw [integerFails, hl]
      all_goals nofun
    | _ => cases h
  have hc := castInteger_of_chars h
  rw [hf]
  cases hr : leading? cs with
  | none =>
    rw [hr, Option.elim_none] at hc
    exact iff_of_true ((exists_integerArgument_of_cast hc).2 (by decide)) rfl
  | some l =>
    rw [hr, Option.elim_some] at hc
    rw [integerArgument, hc, exists_integerOfLeading_iff]
    simp

theorem exists_floatArgument_of_chars (hv : v.IsPlain) (h : v.chars? = some cs) :
    (∃ text, floatArgument v = .ok text) ↔ v.floatFails = false := by
  have hl : v.leadingFloat? = leading? (commaAsPoint cs) := by
    rw [leadingFloat?, h, Option.bind_some]
  rw [floatArgument_of_not_derived hv.not_derived, castFloat_of_chars h, floatFails, hl]
  cases leading? (commaAsPoint cs) with
  | none => exact iff_of_true ⟨_, rfl⟩ rfl
  | some l =>
    rw [Option.elim_some, Option.any_some, ← exists_floatOfLeading_iff]
    cases floatOfLeading l <;> simp [Except.map]

/-- Plain data has an integer text unless something stands in the way. -/
theorem exists_integerArgument_iff (hv : v.IsPlain) :
    (∃ text, integerArgument v = .ok text) ↔ v.integerFails = false := by
  cases v with
  | none | list | tuple | set | dict =>
    exact iff_of_true ((exists_integerArgument_of_cast rfl).2 (by decide)) rfl
  | bool b => exact iff_of_true ((exists_integerArgument_of_cast rfl).2 (by cases b <;> decide)) rfl
  | int n =>
    rw [exists_integerArgument_of_cast rfl, integerFails]
    simp
  | float x =>
    exact iff_of_true ((exists_integerArgument_of_cast rfl).2 (length_digits_wholeOfFloat x)) rfl
  | text | bytes | byteArray => exact exists_integerArgument_of_chars rfl
  | _ => exact hv.elim

/-- And a float text likewise. -/
theorem exists_floatArgument_iff (hv : v.IsPlain) :
    (∃ text, floatArgument v = .ok text) ↔ v.floatFails = false := by
  cases v with
  | none | list | tuple | set | dict | bool | float => exact iff_of_true ⟨_, rfl⟩ rfl
  | int n =>
    refine iff_of_true ?_ rfl
    -- an integer beyond the range of floats counts as no number
    have hcast : castFloat (int n) = orZero 0 ((floatOfInteger n).map finiteOrZero) := rfl
    rw [floatArgument_of_not_derived hv.not_derived, hcast, floatOfInteger]
    cases Numeral.ofInt? n <;> exact ⟨_, rfl⟩
  | text | bytes | byteArray => exact exists_floatArgument_of_chars hv rfl
  | _ => exact hv.elim

theorem castInteger_of_noNumber (hv : v.IsPlain) (h : v.hasNumber v.leadingInteger? = false) :
    v.castInteger = .ok 0 := by
  cases v with
  | none | list | tuple | set | dict => rfl
  | bool | int => cases h
  | float x =>
    simp only [hasNumber, Numeral.isFinite] at h
    simp only [castInteger, wholeOfFloat]
    cases hp : Numeral.parts x <;> simp_all [Numeral.Parts.truncate?]
  | text | bytes | byteArray =>
    have hnone : leading? _ = Option.none :=
      Option.isNone_iff_eq_none.1 (Option.isSome_eq_false_iff.1 h)
    rw [castInteger_of_chars rfl, hnone]
    rfl
  | _ => exact hv.elim

theorem castFloat_of_noNumber (hv : v.IsPlain) (h : v.hasNumber v.leadingFloat? = false) :
    v.castFloat = .ok 0 := by
  cases v with
  | none | list | tuple | set | dict => rfl
  | bool | int => cases h
  | float x =>
    have hx : Numeral.isFinite x = false := h
    rw [castFloat, finiteOrZero, hx]
    rfl
  | text | bytes | byteArray =>
    have hnone : leading? _ = Option.none :=
      Option.isNone_iff_eq_none.1 (Option.isSome_eq_false_iff.1 h)
    rw [castFloat_of_chars rfl, hnone]
    rfl
  | _ => exact hv.elim

end

end Value

/-! ## Arguments of the numeric markers -/

/-- **Plain data has a numeric text exactly if nothing stands in the way.**  For nothing, numbers,
    texts, byte strings and containers of any values, the integer marker has a text unless the value
    is an integer of too many digits or starts with one, or starts with a number after a separator;
    and the float marker has one unless the value starts with a number after a separator.  What has no
    number has the text of zero. -/
theorem numericArgument_iff {v : Value} (hv : v.IsPlain) (quote : Quote σ) (s : σ) :
    ((∃ text, Act.exec (Kind.integer.convert v quote) s = (.ok text, s)) ↔
        v.integerFails = false) ∧
      ((∃ text, Act.exec (Kind.float.convert v quote) s = (.ok text, s)) ↔ v.floatFails = false) ∧
      (v.hasNumber v.leadingInteger? = false →
        Act.exec (Kind.integer.convert v quote) s = (.ok ['0'], s)) ∧
      (v.hasNumber v.leadingFloat? = false →
        Act.exec (Kind.float.convert v quote) s = (.ok ['0', '.', '0'], s)) := by
  have hinteger : Act.exec (Kind.integer.convert v quote) s = (integerArgument v, s) := rfl
  have hfloat : Act.exec (Kind.float.convert v quote) s = (floatArgument v, s) := rfl
  simp only [hinteger, hfloat, Prod.mk.injEq, and_true]
  refine ⟨Value.exists_integerArgument_iff hv, Value.exists_floatArgument_iff hv, ?_, ?_⟩
  · intro h
    have hzero : (Numeral.digits (0 : Int).natAbs).length ≤ Numeral.maxDigits := by decide
    rw [integerArgument, Value.castInteger_of_noNumber hv h, ok_bind,
      Value.integerText_of_length_le hzero]
    rfl
  · intro h
    have hzero : Numeral.floatText 0 = ['0', '.', '0'] := by decide +kernel
    rw [floatArgument_of_not_derived hv.not_derived, Value.castFloat_of_noNumber hv h, Except.map,
      hzero]

/-- A separator stands in the way of a number only, and what follows a number does not count. -/
theorem numericArgument_iff_separator :
    (Value.text "\x1c").IsPlain ∧ (Value.text "\t-12,75 kg").IsPlain ∧
      Act.exec (Kind.integer.convert (.text "\x1c") literalQuote) () = (.ok ['0'], ()) ∧
      Act.exec (Kind.float.convert (.text "\x1c") literalQuote) () = (.ok ['0', '.', '0'], ()) ∧
      (∃ text, Act.exec (Kind.integer.convert (.text "\t-12,75 kg") literalQuote) () =
        (.ok text, ())) ∧
      ∃ text, Act.exec (Kind.float.convert (.text "\t-12,75 kg") literalQuote) () =
        (.ok text, ()) := by
  have hnone := numericArgument_iff (v := .text "\x1c") trivial literalQuote ()
  have hsome := numericArgument_iff (v := .text "\t-12,75 kg") trivial literalQuote ()
  exact ⟨trivial, trivial, hnone.2.2.1 rfl, hnone.2.2.2 rfl, hsome.1.2 rfl, hsome.2.1.2 rfl⟩

/-- A number after a separator has neither an integer nor a float. -/
theorem numericArgument_after_separator :
    (Value.text "\x1c12").IsPlain ∧
      Act.exec (Kind.integer.convert (.text "\x1c12") literalQuote) () =
        (.error (.notInteger "'\\x1c12'"), ()) ∧
      Act.exec (Kind.float.convert (.text "\x1c12") literalQuote) () =
        (.error (.notDecimal "'\\x1c12'"), ()) :=
  ⟨trivial, rfl, rfl⟩

end SqlWeave
