/-
  Decimal numbers with their own scale.

  A decimal keeps its coefficient and its exponent apart, so `1.50` and `1.5`
  are equal numbers with different texts.  Its text (`Decimal.text`) is plain if
  the exponent is not positive and the number is not below a millionth, and has
  an exponent part otherwise.  `Decimal.ofChars?` reads such texts.
-/
import SqlWeave.Numeral.Binary

namespace SqlWeave.Numeral

/-- A decimal number, an infinity, or no number. -/
inductive Decimal where
  /-- The number `± coefficient · 10 ^ exponent`. -/
  | finite (negative : Bool) (coefficient : Nat) (exponent : Int)
  /-- An infinity. -/
  | infinite (negative : Bool)
  /-- No number; a signalling one fails in arithmetic, and digits may tell the reason. -/
  | nan (negative signalling : Bool) (payload : List Char)
  deriving DecidableEq, Repr, Inhabited

namespace Decimal

/-- The mark of a negative number. -/
def mark (negative : Bool) : List Char := if negative then ['-'] else []

/-- The decimal `d · 10 ^ e` with its point or its exponent part. -/
def write (d : Nat) (e : Int) : List Char :=
  let digits := Nat.toDigits 10 d
  let point := (digits.length : Int) + e
  if e ≤ 0 ∧ -6 < point then
    if e = 0 then digits
    else if point ≤ 0 then '0' :: '.' :: List.replicate (-point).toNat '0' ++ digits
    else digits.take point.toNat ++ '.' :: digits.drop point.toNat
  else
    let rest := digits.drop 1
    digits.take 1 ++ (if rest.isEmpty then [] else '.' :: rest) ++
      'E' :: (if point - 1 < 0 then '-' else '+') :: Nat.toDigits 10 (point - 1).natAbs

/-- The text of a decimal. -/
def text : Decimal → List Char
  | finite s d e => mark s ++ write d e
  | infinite s => mark s ++ "Infinity".toList
  | nan s signalling payload => mark s ++ (if signalling then "sNaN".toList else "NaN".toList) ++ payload

/-- The value of ASCII digits. -/
def digitsValue? (cs : List Char) : Option Nat :=
  if cs.isEmpty || !cs.all Char.isDigit then none
  else some (cs.foldl (fun n c => 10 * n + (c.toNat - 0x30)) 0)

/-- The value of ASCII digits after an optional sign. -/
def signedValue? : List Char → Option Int
  | '-' :: cs => (digitsValue? cs).map fun n => -(n : Int)
  | '+' :: cs => (digitsValue? cs).map Int.ofNat
  | cs => (digitsValue? cs).map Int.ofNat

/-- A decimal without its sign. -/
def unsigned? (negative : Bool) (cs : List Char) : Option Decimal :=
  if cs = "Infinity".toList then some (infinite negative)
  else if cs.take 3 = "NaN".toList then some (nan negative false (cs.drop 3))
  else if cs.take 4 = "sNaN".toList then some (nan negative true (cs.drop 4))
  else
    let isMark := fun c => c == 'e' || c == 'E'
    let mantissa := cs.takeWhile fun c => !isMark c
    let exponent := (cs.dropWhile fun c => !isMark c).drop 1
    let whole := mantissa.takeWhile (· != '.')
    let rest := (mantissa.dropWhile (· != '.')).drop 1
    let scale? := if cs.any isMark then signedValue? exponent else some 0
    match digitsValue? (whole ++ rest), scale? with
    | some d, some e => some (finite negative d (e - rest.length))
    | _, _ => none

/-- The decimal with the given text, if it is one. -/
def ofChars? : List Char → Option Decimal
  | '-' :: cs => unsigned? true cs
  | '+' :: cs => unsigned? false cs
  | cs => unsigned? false cs

/-- Whether the decimal is other than zero. -/
def isNonzero : Decimal → Bool
  | finite _ d _ => d != 0
  | _ => true

/-- The exact value of a number. -/
def toRat? : Decimal → Option Rat
  | finite s d e =>
    some (if 0 ≤ e then (signed s (d * Nat.pow 10 e.toNat) : Rat)
      else mkRat (signed s d) (Nat.pow 10 (-e).toNat))
  | _ => none

/-- A number without what follows its point. -/
def truncate? : Decimal → Option Int
  | finite s d e =>
    some (signed s (if 0 ≤ e then d * Nat.pow 10 e.toNat else d / Nat.pow 10 (-e).toNat))
  | _ => none

end Decimal

end SqlWeave.Numeral
