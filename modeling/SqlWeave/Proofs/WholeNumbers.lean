/-
  Values that are whole numbers.

  A number without a fraction is the integer that it is converted to, whatever
  its type.

  * `num_of_den`: the whole part of an exact number without a fraction is that
    number; this holds for floats and decimals alike;
  * `beq_zero_iff`: a float equals zero if its mantissa is zero;
  * `strict_of_quantity`: the strict conversion of a value that is a whole
    number, and when it counts as true.
-/
import Mathlib.Data.Nat.GCD.Basic
import SqlWeave.Value.Key
import SqlWeave.Value.Number

namespace SqlWeave

namespace Numeral

/-! ## Exact numbers -/

theorem signed_eq_zero_iff {s : Bool} {n : Nat} : signed s n = 0 ↔ n = 0 := by
  cases s <;> simp [signed]

theorem natAbs_signed (s : Bool) (n : Nat) : (signed s n).natAbs = n := by
  cases s <;> simp [signed]

/-- A fraction that is a whole number is the quotient. -/
theorem num_mkRat_signed {s : Bool} {m b : Nat} (hb : b ≠ 0)
    (h : (mkRat (signed s m) b).den = 1) :
    b ∣ m ∧ (mkRat (signed s m) b).num = signed s (m / b) := by
  rw [Rat.den_mkRat, if_neg hb, natAbs_signed] at h
  have whole : b.gcd m = b := (Nat.eq_of_dvd_of_div_eq_one (Nat.gcd_dvd_left b m) h).symm ▸ rfl
  have dvd : b ∣ m := whole ▸ Nat.gcd_dvd_right b m
  refine ⟨dvd, ?_⟩
  rw [Rat.num_mkRat, if_neg hb, natAbs_signed, whole]
  obtain ⟨k, rfl⟩ := dvd
  rw [Nat.mul_div_cancel_left k (Nat.pos_of_ne_zero hb)]
  have cancel : ∀ j : Int, (b : Int) * j / b = j := fun j =>
    Int.mul_ediv_cancel_left j (Int.natCast_ne_zero.2 hb)
  cases s with
  | false =>
    show ((b * k : Nat) : Int) / b = k
    rw [Int.natCast_mul, cancel]
  | true =>
    show -((b * k : Nat) : Int) / b = -k
    rw [Int.natCast_mul, ← Int.mul_neg, cancel]

/-- `± m · b ^ e`, if it is a whole number, is its whole part, and zero if and only if `m` is. -/
theorem num_of_den {s : Bool} {m b : Nat} {e : Int} (hb : 0 < b) {r : Rat}
    (hr : r = if 0 ≤ e then (signed s (m * Nat.pow b e.toNat) : Rat)
      else mkRat (signed s m) (Nat.pow b (-e).toNat)) (h : r.den = 1) :
    r.num = signed s (if 0 ≤ e then m * Nat.pow b e.toNat else m / Nat.pow b (-e).toNat) ∧
      (r.num = 0 ↔ m = 0) := by
  have power : ∀ n, 0 < Nat.pow b n := fun n => Nat.pow_pos hb
  subst hr
  split at h
  · rw [if_pos ‹_›, if_pos ‹_›]
    refine ⟨Rat.num_intCast _, ?_⟩
    rw [Rat.num_intCast, signed_eq_zero_iff, Nat.mul_eq_zero]
    exact or_iff_left (Nat.ne_of_gt (power _))
  · rw [if_neg ‹_›, if_neg ‹_›]
    obtain ⟨dvd, num⟩ := num_mkRat_signed (Nat.ne_of_gt (power _)) h
    refine ⟨num, ?_⟩
    rw [num, signed_eq_zero_iff]
    obtain ⟨k, rfl⟩ := dvd
    rw [Nat.mul_div_cancel_left k (power _), Nat.mul_eq_zero]
    exact (or_iff_right (Nat.ne_of_gt (power _))).symm

/-! ## Floats that are zero -/

open Float.Model

theorem toNat_unpackMantissa (b : UInt64) :
    (UnpackedFloat.unpackMantissa (show BitVec Format.binary64.numBits from b.toBitVec)).toNat =
      b.toNat % 0x10000000000000 := by
  simp [UnpackedFloat.unpackMantissa, BitVec.extractLsb]

theorem toNat_unpackExponent (b : UInt64) :
    (UnpackedFloat.unpackExponent (show BitVec Format.binary64.numBits from b.toBitVec)).toNat =
      b.toNat / 0x10000000000000 % 2048 := by
  simp [UnpackedFloat.unpackExponent, BitVec.extractLsb, Nat.shiftRight_eq_div_pow]

theorem exists_unpack_eq_zero_iff (x : Float) :
    (∃ s, x.toModel.unpack = .zero s) ↔
      x.toBits.toNat % 0x10000000000000 = 0 ∧ x.toBits.toNat / 0x10000000000000 % 2048 = 0 := by
  let bits : BitVec Format.binary64.numBits := x.toBits.toBitVec
  have fraction : UnpackedFloat.unpackMantissa bits = 0#52 ↔
      x.toBits.toNat % 0x10000000000000 = 0 := by
    rw [← BitVec.toNat_inj, toNat_unpackMantissa]
    rfl
  have exponent : UnpackedFloat.unpackExponent bits = 0#11 ↔
      x.toBits.toNat / 0x10000000000000 % 2048 = 0 := by
    rw [← BitVec.toNat_inj, toNat_unpackExponent]
    rfl
  rw [← fraction, ← exponent]
  show (∃ s, UnpackedFloat.unpack Format.binary64 bits = .zero s) ↔ _
  unfold UnpackedFloat.unpack
  dsimp only
  by_cases infinite : UnpackedFloat.unpackExponent bits = -1#11
  · -- an infinity or no number, of which neither is zero
    rw [if_pos infinite]
    refine iff_of_false ?_ fun h => absurd (infinite.symm.trans h.2) (by decide)
    rintro ⟨s, hs⟩
    split at hs <;> cases hs
  · rw [if_neg infinite]
    by_cases tiny : UnpackedFloat.unpackExponent bits = 0#11
    · rw [if_pos tiny]
      by_cases none : UnpackedFloat.unpackMantissa bits = 0#52
      · rw [dif_pos none]
        exact iff_of_true ⟨_, rfl⟩ ⟨none, tiny⟩
      · rw [dif_neg none]
        refine iff_of_false ?_ fun h => none h.1
        rintro ⟨s, hs⟩
        cases hs
    · rw [if_neg tiny]
      refine iff_of_false ?_ fun h => tiny h.2
      rintro ⟨s, hs⟩
      cases hs

theorem unpack_zero : (0 : Float).toModel.unpack = .zero .positive := by
  have bits : (0 : Float).toBits = 0 := by decide
  show UnpackedFloat.unpack Format.binary64 (0 : Float).toBits.toBitVec = _
  rw [bits]
  rfl

theorem beq_zero_iff_unpack (x : Float) : (x == 0) = true ↔ ∃ s, x.toModel.unpack = .zero s := by
  show UnpackedFloat.beq x.toModel.unpack (0 : Float).toModel.unpack = true ↔ _
  rw [unpack_zero]
  rcases x.toModel.unpack with (_ | _) | _ | _ | ⟨_ | _, _, _, _⟩
  case zero => exact iff_of_true rfl ⟨_, rfl⟩
  all_goals exact iff_of_false Bool.false_ne_true nofun

/-- A number equals zero if its mantissa is zero, whatever its sign. -/
theorem beq_zero_iff {x : Float} {s : Bool} {m : Nat} {q : Int} (h : parts x = .finite s m q) :
    (x == 0) = true ↔ m = 0 := by
  rw [beq_zero_iff_unpack, exists_unpack_eq_zero_iff]
  simp only [parts] at h
  split at h
  · split at h <;> cases h
  · split at h <;> cases h <;> omega

end Numeral

/-! ## Values -/

namespace Value

variable {n : Int}

/-- The value is neither a byte string nor of a foreign class. -/
def IsOrdinary : Value → Prop
  | bytes _ | byteArray _ | custom _ => False
  | _ => True

theorem den_and_num_of_eq_intCast {r : Rat} (h : r = n) : r.den = 1 ∧ r.num = n := by
  rw [h]
  exact ⟨Rat.den_intCast _, Rat.num_intCast _⟩

theorem strict_of_float {x : Float} (h : quantityOfFloat? x = some (.number n)) :
    integerOfFloat x = .ok n ∧ ((x != 0) = true ↔ n ≠ 0) := by
  unfold quantityOfFloat? at h
  cases hp : Numeral.parts x with
  | infinite | nan => simp [hp, Numeral.Parts.toRat?] at h
  | finite s m q =>
    rw [hp] at h
    obtain ⟨whole, rfl⟩ := den_and_num_of_eq_intCast (Quantity.number.inj (Option.some.inj h))
    obtain ⟨num, zero⟩ := Numeral.num_of_den (b := 2) (by decide) rfl whole
    refine ⟨?_, ?_⟩
    · rw [integerOfFloat, hp]
      exact congrArg Except.ok num.symm
    · rw [bne, Bool.not_eq_true', ← Bool.not_eq_true, Numeral.beq_zero_iff hp]
      exact not_congr zero.symm

theorem strict_of_decimal {d : Numeral.Decimal}
    (h : (Value.decimal d).quantity? = some (.number n)) :
    integerOfDecimal d = .ok n ∧ (d.isNonzero = true ↔ n ≠ 0) := by
  cases d with
  | infinite | nan => simp [quantity?, Numeral.Decimal.toRat?] at h
  | finite s m e =>
    obtain ⟨whole, rfl⟩ := den_and_num_of_eq_intCast (Quantity.number.inj (Option.some.inj h))
    obtain ⟨num, zero⟩ := Numeral.num_of_den (b := 10) (by decide) rfl whole
    refine ⟨congrArg Except.ok num.symm, ?_⟩
    rw [Numeral.Decimal.isNonzero, bne_iff_ne]
    exact not_congr zero.symm

/-- A value that is a whole number is converted to that, and counts as true unless it is zero. -/
theorem strict_of_quantity {v : Value} (hv : v.IsOrdinary)
    (h : v.quantity? = some (.number n)) : v.toInteger = .ok n ∧ (v.isTrue = true ↔ n ≠ 0) := by
  cases v with
  | bool b =>
    have whole : (((if b then 1 else 0 : Int) : Int) : Rat) = n := by
      rw [← Quantity.number.inj (Option.some.inj h)]
      cases b <;> rfl
    have same : (if b then 1 else 0 : Int) = n := by exact_mod_cast whole
    cases b <;> simp [toInteger, isTrue, ← same]
  | int m =>
    have same : m = n := by exact_mod_cast Quantity.number.inj (Option.some.inj h)
    simp [toInteger, isTrue, same]
  | float x => exact strict_of_float h
  | derivedFloat x => exact strict_of_float h
  | decimal d => exact strict_of_decimal h
  | custom => exact hv.elim
  | _ => cases h

end Value

end SqlWeave
