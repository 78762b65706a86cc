/-
  Lossy reading of UTF-8.

  Bytes are read one at a time.  Between characters the reader owes nothing;
  after a lead byte it owes continuation bytes, the first of which must lie in
  the lead's own bounds.  A byte that does not fit, and the end of the text
  inside a character, turn the unfinished part into one replacement character
  U+FFFD; the byte that did not fit is then read afresh.

  * `decode` reads a byte text;
  * `decode_ascii`: ASCII bytes stand for themselves.
-/
namespace SqlWeave.Text.Utf8

/-- What a reader inside a character still owes. -/
structure Pending where
  /-- How many continuation bytes are missing. -/
  missing : Nat
  /-- The least next byte that continues the character. -/
  low : Nat
  /-- The greatest next byte that continues the character. -/
  high : Nat
  /-- The bits of the code point read so far. -/
  bits : Nat
  deriving DecidableEq, Repr

/-- How a byte between two characters is read. -/
inductive Lead where
  /-- A character by itself. -/
  | single (c : Char)
  /-- The first byte of a longer character. -/
  | opens (p : Pending)
  /-- A byte that starts no character. -/
  | stray
  deriving DecidableEq, Repr

/-- U+FFFD, written for bytes that are no character. -/
def replacement : Char := '\uFFFD'

/-- The reading of a byte between two characters. -/
def lead (b : UInt8) : Lead :=
  let n := b.toNat
  if n < 0x80 then .single (Char.ofNat n)
  else if n < 0xC2 then .stray
  else if n < 0xE0 then .opens ⟨1, 0x80, 0xBF, n - 0xC0⟩
  else if n = 0xE0 then .opens ⟨2, 0xA0, 0xBF, 0⟩
  else if n = 0xED then .opens ⟨2, 0x80, 0x9F, 0xD⟩
  else if n < 0xF0 then .opens ⟨2, 0x80, 0xBF, n - 0xE0⟩
  else if n = 0xF0 then .opens ⟨3, 0x90, 0xBF, 0⟩
  else if n < 0xF4 then .opens ⟨3, 0x80, 0xBF, n - 0xF0⟩
  else if n = 0xF4 then .opens ⟨3, 0x80, 0x8F, 4⟩
  else .stray

/-- The characters that a byte between two characters completes, and what is owed after it. -/
def start (b : UInt8) : List Char × Option Pending :=
  match lead b with
  | .single c => ([c], none)
  | .opens p => ([], some p)
  | .stray => ([replacement], none)

/-- The characters that the byte `b` completes when `owed` is owed, and what is owed after it. -/
def step (owed : Option Pending) (b : UInt8) : List Char × Option Pending :=
  match owed with
  | none => start b
  | some p =>
    if p.low ≤ b.toNat ∧ b.toNat ≤ p.high then
      let bits := p.bits * 0x40 + b.toNat % 0x40
      if p.missing ≤ 1 then ([Char.ofNat bits], none)
      else ([], some ⟨p.missing - 1, 0x80, 0xBF, bits⟩)
    else
      let (cs, next) := start b
      (replacement :: cs, next)

/-- The characters of the bytes that follow when `owed` is owed. -/
def decodeFrom (owed : Option Pending) : List UInt8 → List Char
  | [] => if owed.isSome then [replacement] else []
  | b :: bs => (step owed b).1 ++ decodeFrom (step owed b).2 bs

/-- The text of a byte string, with U+FFFD for what is no UTF-8. -/
def decode (bs : List UInt8) : List Char := decodeFrom none bs

theorem step_ascii {b : UInt8} (h : b.toNat < 0x80) : step none b = ([Char.ofNat b.toNat], none) := by
  simp [step, start, lead, h]

theorem decode_ascii {bs : List UInt8} (h : ∀ b ∈ bs, b.toNat < 0x80) :
    decode bs = bs.map fun b => Char.ofNat b.toNat := by
  unfold decode
  induction bs with
  | nil => rfl
  | cons b bs ih =>
    rw [decodeFrom, step_ascii (h b List.mem_cons_self), ih fun c hc => h c (List.mem_cons_of_mem _ hc)]
    rfl

end SqlWeave.Text.Utf8
