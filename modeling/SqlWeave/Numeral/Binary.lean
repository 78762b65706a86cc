/-
  Binary floating-point numbers as exact quantities.

  A `Float` is a number `± m · 2 ^ q`, an infinity or no number; `parts` reads
  this off its bits.  Everything the library computes with floats is computed
  exactly on the parts: truncation (`Parts.truncate?`), the comparison with other
  numbers (`Parts.toRat?`), and rounding to a float (`ofDecimal`, `ofInt?`).

  * `parts_mantissa_lt`, `parts_exponent_le`: a mantissa has at most 53 bits, and
    an exponent is not above 971.
-/
namespace SqlWeave.Numeral

/-- The quantity a float stands for. -/
inductive Parts where
  /-- The number `± mantissa · 2 ^ exponent`. -/
  | finite (negative : Bool) (mantissa : Nat) (exponent : Int)
  /-- An infinity. -/
  | infinite (negative : Bool)
  /-- No number. -/
  | nan
  deriving DecidableEq, Repr

/-- The parts of a float: one bit of sign, eleven of exponent, 52 of fraction. -/
def parts (x : Float) : Parts :=
  let b : Nat := x.toBits.toNat
  let negative := decide (b / 0x8000000000000000 % 2 = 1)
  let e : Nat := b / 0x10000000000000 % 2048
  let f : Nat := b % 0x10000000000000
  if e = 2047 then (if f = 0 then .infinite negative else .nan)
  else if e = 0 then .finite negative f (-1074)
  else .finite negative (0x10000000000000 + f) ((e : Int) - 1075)

theorem parts_mantissa_lt {x : Float} {s : Bool} {m : Nat} {q : Int} (h : parts x = .finite s m q) :
    m < 0x20000000000000 := by
  have := Nat.mod_lt x.toBits.toNat (show 0 < 0x10000000000000 by decide)
  simp only [parts] at h
  split at h
  · split at h <;> simp at h
  · split at h <;> (simp only [Parts.finite.injEq] at h; omega)

theorem parts_exponent_le {x : Float} {s : Bool} {m : Nat} {q : Int} (h : parts x = .finite s m q) :
    q ≤ 971 := by
  have := Nat.mod_lt (x.toBits.toNat / 0x10000000000000) (show 0 < 2048 by decide)
  simp only [parts] at h
  split at h
  · split at h <;> simp at h
  · split at h <;> (simp only [Parts.finite.injEq] at h; omega)

/-- Whether a float is a number. -/
def isFinite (x : Float) : Bool :=
  match parts x with
  | .finite .. => true
  | _ => false

/-- `n` with the sign `negative`. -/
def signed (negative : Bool) (n : Nat) : Int := if negative then -(n : Int) else n

/-- The part of `m · 2 ^ q` before the point. -/
def wholePart (m : Nat) (q : Int) : Nat :=
  if 0 ≤ q then m * Nat.pow 2 q.toNat else m / Nat.pow 2 (-q).toNat

namespace Parts

/-- The exact value of a number. -/
def toRat? : Parts → Option Rat
  | .finite s m q =>
    some (if 0 ≤ q then (signed s (m * Nat.pow 2 q.toNat) : Rat)
      else mkRat (signed s m) (Nat.pow 2 (-q).toNat))
  | _ => none

/-- A number without what follows its point. -/
def truncate? : Parts → Option Int
  | .finite s m q => some (signed s (wholePart m q))
  | _ => none

end Parts

/-- The float nearest to `± m · 10 ^ e`, ties to the even neighbour; the infinity beyond the range.

    Powers of ten that settle the answer alone are not computed. -/
def ofDecimal (negative : Bool) (m : Nat) (e : Int) : Float :=
  let x : Float :=
    if m = 0 ∨ e < -((m.log2 : Int) + 400) then 0
    else if 400 < e then Float.ofBits 0x7FF0000000000000
    else Float.ofScientific m (decide (e < 0)) e.natAbs
  if negative then -x else x

/-- The float nearest to an integer, if it is within the range. -/
def ofInt? (n : Int) : Option Float :=
  let x := ofDecimal (decide (n < 0)) n.natAbs 0
  if isFinite x then some x else none

end SqlWeave.Numeral
