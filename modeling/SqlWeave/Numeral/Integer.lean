/-
  Integers as text.

  An integer is written with a minus sign and its digits, and no numeral of more
  than `maxDigits` digits is written or read.

  * `digits` and `write` are the text of a natural number and of an integer;
  * `valueOf` is the number that digits of any script denote;
  * `read` reads a whole text as an integer: blanks around it, a sign, digits
    with single underscores between them;
  * `valueOf_digits`: the digits of a number denote it;
  * `splitSign_write_append`, `withSign_signOf`: a written integer is made of its
    sign and its digits, and is made of them again.
-/
import SqlWeave.Text.Blank
import SqlWeave.Text.Digit

namespace SqlWeave.Numeral

open Text

/-- The greatest number of digits of a numeral. -/
def maxDigits : Nat := 4300

/-- The digits of a natural number. -/
def digits (n : Nat) : List Char := Nat.toDigits 10 n

/-- An integer's sign and digits. -/
def write (n : Int) : List Char := if n < 0 then '-' :: digits n.natAbs else digits n.natAbs

/-- Whether an integer has no more than `maxDigits` digits. -/
def isWritable (n : Int) : Bool := decide (n.natAbs < Nat.pow 10 maxDigits)

/-- The number that digits denote; other characters count as zero. -/
def valueOf (cs : List Char) : Nat := cs.foldl (fun n c => 10 * n + (digitValue? c).getD 0) 0

/-- A sign at the start of a text, and what follows it. -/
def splitSign : List Char → Option Char × List Char
  | '+' :: cs => (some '+', cs)
  | '-' :: cs => (some '-', cs)
  | cs => (none, cs)

/-- `n` with the sign `sign`. -/
def withSign (sign : Option Char) (n : Nat) : Int := if sign = some '-' then -(n : Int) else n

/-- Why a text is not read as an integer. -/
inductive Refusal where
  /-- The text is no integer. -/
  | malformed
  /-- The text has too many digits. -/
  | tooLong (digits : Nat)
  deriving DecidableEq, Repr

/-- Whether underscores stand only between digits. -/
def wellSpaced : List Char → Bool
  | '_' :: _ => false
  | cs => go cs
where
  /-- The same after a digit. -/
  go : List Char → Bool
    | [] => true
    | ['_'] => false
    | '_' :: '_' :: _ => false
    | _ :: cs => go cs

/-- The integer that a text denotes, where `isDigit` says what counts as a digit. -/
def readWith (isDigit : Char → Bool) (cs : List Char) : Except Refusal Int :=
  let (sign, rest) := splitSign (cs.dropWhile isPlainBlank)
  let body := rest.takeWhile fun c => isDigit c || c == '_'
  let after := rest.dropWhile fun c => isDigit c || c == '_'
  let ds := body.filter (· != '_')
  if ds.isEmpty || !wellSpaced body then .error .malformed
  else if maxDigits < ds.length then .error (.tooLong ds.length)
  else if !after.all isPlainBlank then .error .malformed
  else .ok (withSign sign (valueOf ds))

/-- A text whose blanks beyond ASCII are plain, if it goes beyond ASCII at all. -/
def plainBlanks (cs : List Char) : List Char :=
  cs.map fun c => if 0x7F < c.toNat && isBlank c then ' ' else c

/-- The integer that a text denotes, in the digits of any script. -/
def read (cs : List Char) : Except Refusal Int := readWith Text.isDigit (plainBlanks cs)

/-- The integer that a byte string denotes, in ASCII digits. -/
def readBytes (bs : List UInt8) : Except Refusal Int :=
  readWith (fun c => c.isDigit) (bs.map fun b => Char.ofNat b.toNat)

/-! ## Digits and their value -/

theorem splitSign_append (cs : List Char) : (splitSign cs).1.toList ++ (splitSign cs).2 = cs := by
  unfold splitSign
  split <;> rfl

theorem valueOf_append (as bs : List Char) :
    valueOf (as ++ bs) = valueOf as * Nat.pow 10 bs.length + valueOf bs := by
  have key : ∀ (bs : List Char) (n : Nat),
      bs.foldl (fun n c => 10 * n + (digitValue? c).getD 0) n = n * Nat.pow 10 bs.length + valueOf bs := by
    intro bs
    induction bs with
    | nil => simp [valueOf]
    | cons c bs ih =>
      intro n
      have head : valueOf (c :: bs) = (digitValue? c).getD 0 * Nat.pow 10 bs.length + valueOf bs := by
        rw [valueOf, List.foldl_cons, ih]
        simp
      have power : Nat.pow 10 (bs.length + 1) = Nat.pow 10 bs.length * 10 := rfl
      rw [List.foldl_cons, ih, head, List.length_cons, power, Nat.add_mul, Nat.mul_comm 10 n,
        Nat.mul_assoc, Nat.mul_comm 10, Nat.add_assoc]
  rw [valueOf, List.foldl_append, key]
  rfl

theorem digitValue?_digitChar : ∀ n < 10, digitValue? (Nat.digitChar n) = some n := by decide

theorem valueOf_digits (n : Nat) : valueOf (digits n) = n := by
  induction n using Nat.strongRecOn with
  | ind n ih =>
    by_cases h : n < 10
    · simp [digits, Nat.toDigits_of_lt_base h, valueOf, digitValue?_digitChar n h]
    · have hq : 0 < n / 10 := by omega
      have hr : n % 10 < 10 := Nat.mod_lt _ (by decide)
      have split := Nat.toDigits_append_toDigits (b := 10) (by decide) hq hr
      rw [Nat.div_add_mod] at split
      rw [digits, ← split, valueOf_append, Nat.toDigits_of_lt_base hr]
      have := ih (n / 10) (by omega)
      rw [digits] at this
      rw [this]
      simp [valueOf, digitValue?_digitChar _ hr]
      omega

/-- One digit or more. -/
structure AreDigits (cs : List Char) : Prop where
  ne_nil : cs ≠ []
  isDigit : ∀ c ∈ cs, c.isDigit = true

theorem areDigits_digits (n : Nat) : AreDigits (digits n) :=
  ⟨Nat.toDigits_ne_nil, fun _ h => Nat.isDigit_of_mem_toDigits (by decide) (by decide) h⟩

theorem AreDigits.exists_cons {cs : List Char} (h : AreDigits cs) :
    ∃ c ds, cs = c :: ds ∧ c.isDigit = true := by
  obtain ⟨c, ds, rfl⟩ := List.exists_cons_of_ne_nil h.ne_nil
  exact ⟨c, ds, rfl, h.isDigit c List.mem_cons_self⟩

/-! ## Sign and digits of an integer -/

/-- The sign that an integer is written with. -/
def signOf (n : Int) : Option Char := if n < 0 then some '-' else none

theorem write_eq (n : Int) : write n = (signOf n).toList ++ digits n.natAbs := by
  unfold write signOf
  split <;> rfl

theorem withSign_signOf (n : Int) : withSign (signOf n) n.natAbs = n := by
  unfold signOf
  split
  · rw [withSign, if_pos rfl]
    omega
  · rw [withSign, if_neg nofun]
    omega

theorem AreDigits.splitSign_append {cs : List Char} (h : AreDigits cs) (rest : List Char) :
    splitSign (cs ++ rest) = (none, cs ++ rest) := by
  obtain ⟨c, ds, rfl, hc⟩ := h.exists_cons
  rw [List.cons_append, splitSign]
  · rintro _ ⟨⟩
    exact absurd hc (by decide)
  · rintro _ ⟨⟩
    exact absurd hc (by decide)

theorem splitSign_write_append (n : Int) (rest : List Char) :
    splitSign (write n ++ rest) = (signOf n, digits n.natAbs ++ rest) := by
  unfold write signOf
  split
  · rfl
  · exact (areDigits_digits _).splitSign_append rest

end SqlWeave.Numeral
