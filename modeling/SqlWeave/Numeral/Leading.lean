/-
  The number that a text starts with.

  A leading number is made of blanks, a sign, digits with a point among, after
  or before them, and an exponent: a letter `e`, a sign and digits.  Digits and
  blanks are those of all scripts.  `leading?` splits the longest such number
  off a text; `Leading.source` is the number as it stands in the text, which it
  begins (`source_leading?`).
-/
import SqlWeave.Numeral.Binary
import SqlWeave.Numeral.Integer

namespace SqlWeave.Numeral

open Text

/-- An exponent part. -/
structure Exponent where
  /-- The letter that opens it. -/
  letter : Char
  /-- Its sign. -/
  sign : Option Char
  /-- Its digits. -/
  digits : List Char
  deriving DecidableEq, Repr

/-- A number at the start of a text. -/
structure Leading where
  /-- The blanks before the number. -/
  blanks : List Char
  /-- The sign. -/
  sign : Option Char
  /-- The digits before the point. -/
  whole : List Char
  /-- The digits after the point, if there is a point. -/
  fraction : Option (List Char)
  /-- The exponent part. -/
  exponent : Option Exponent
  deriving DecidableEq, Repr

/-- The exponent part at the start of a text. -/
def exponent? : List Char → Option Exponent
  | [] => none
  | c :: cs =>
    let (sign, rest) := splitSign cs
    let ds := rest.takeWhile isDigit
    if (c = 'e' ∨ c = 'E') ∧ ds ≠ [] then some ⟨c, sign, ds⟩ else none

/-- The point at the start of a text with the digits after it, and what follows. -/
def splitFraction : List Char → Option (List Char) × List Char
  | '.' :: cs => (some (cs.takeWhile isDigit), cs.dropWhile isDigit)
  | cs => (none, cs)

/-- The longest number at the start of a text. -/
def leading? (cs : List Char) : Option Leading :=
  let (sign, rest) := splitSign (cs.dropWhile isBlank)
  let whole := rest.takeWhile isDigit
  let (fraction, rest) := splitFraction (rest.dropWhile isDigit)
  if whole = [] ∧ fraction.all List.isEmpty then none
  else some ⟨cs.takeWhile isBlank, sign, whole, fraction, exponent? rest⟩

namespace Exponent

/-- An exponent part as it stands in a text. -/
def source (e : Exponent) : List Char := e.letter :: e.sign.toList ++ e.digits

/-- The value of an exponent part. -/
def value (e : Exponent) : Int := withSign e.sign (valueOf e.digits)

end Exponent

namespace Leading

/-- A number as it stands in a text. -/
def source (l : Leading) : List Char :=
  l.blanks ++ l.sign.toList ++ l.whole ++ (l.fraction.elim [] ('.' :: ·)) ++
    (l.exponent.elim [] Exponent.source)

/-- Whether the number has neither point nor exponent. -/
def isInteger (l : Leading) : Bool := l.fraction.isNone && l.exponent.isNone

/-- Whether the blanks before the number include one that is not stripped around a numeral. -/
def isSeparated (l : Leading) : Bool := l.blanks.any isSeparator

/-- The digits before and after the point. -/
def mantissa (l : Leading) : List Char := l.whole ++ l.fraction.getD []

/-- The power of ten that scales the digits. -/
def scale (l : Leading) : Int :=
  (l.exponent.elim 0 Exponent.value) - (l.fraction.getD []).length

/-- The integer that the sign and the digits before the point denote. -/
def integer (l : Leading) : Int := withSign l.sign (valueOf l.whole)

/-- The float nearest to the number; an infinity beyond the range. -/
def toFloat (l : Leading) : Float :=
  ofDecimal (l.sign == some '-') (valueOf l.mantissa) l.scale

end Leading

/-! ## The number as a part of the text -/

theorem source_exponent? {cs : List Char} {e : Exponent} (h : exponent? cs = some e) :
    ∃ rest, cs = e.source ++ rest := by
  cases cs with
  | nil => simp [exponent?] at h
  | cons c cs =>
    simp only [exponent?] at h
    split at h
    · cases h
      refine ⟨(splitSign cs).2.dropWhile isDigit, ?_⟩
      simp only [Exponent.source, List.cons_append, List.append_assoc]
      rw [List.takeWhile_append_dropWhile, splitSign_append]
    · cases h

theorem source_splitFraction (cs : List Char) :
    (splitFraction cs).1.elim [] ('.' :: ·) ++ (splitFraction cs).2 = cs := by
  unfold splitFraction
  split <;> simp

theorem source_leading? {cs : List Char} {l : Leading} (h : leading? cs = some l) :
    ∃ rest, cs = l.source ++ rest := by
  simp only [leading?] at h
  split at h
  · cases h
  · cases h
    generalize hs : splitSign (cs.dropWhile isBlank) = p
    generalize hf : splitFraction (p.2.dropWhile isDigit) = q
    have rest : ∃ rest, q.2 = ((exponent? q.2).elim [] Exponent.source) ++ rest := by
      cases he : exponent? q.2 with
      | none => exact ⟨q.2, rfl⟩
      | some e => exact source_exponent? he
    obtain ⟨rest, hrest⟩ := rest
    refine ⟨rest, ?_⟩
    have h1 := source_splitFraction (p.2.dropWhile isDigit)
    rw [hf, hrest] at h1
    have h2 := splitSign_append (cs.dropWhile isBlank)
    rw [hs] at h2
    calc cs = cs.takeWhile isBlank ++ cs.dropWhile isBlank := List.takeWhile_append_dropWhile.symm
      _ = cs.takeWhile isBlank ++ (p.1.toList ++
            (p.2.takeWhile isDigit ++ p.2.dropWhile isDigit)) := by
          rw [List.takeWhile_append_dropWhile (p := isDigit) (l := p.2), h2]
      _ = _ := by
          rw [← h1]
          simp [Leading.source, List.append_assoc]

end SqlWeave.Numeral
