/-
  Texts and byte strings written for a reader.

  A text is put between single quotes, or between double quotes if it holds a
  single quote and no double quote.  The quote and the backslash are escaped by
  a backslash, line feed, carriage return and tab have names, and any other
  character without a visible form is written by its code point in the shortest
  of the forms `\xhh`, `\uhhhh` and `\Uhhhhhhhh`.  A byte string is written
  likewise, byte by byte, after a `b`.
-/
import SqlWeave.Text.Printable

namespace SqlWeave.Text

/-- The hexadecimal digit of the value `n`, in lower case. -/
def hexDigit (n : Nat) : Char := Nat.digitChar (n % 16)

theorem hexDigit_ne_quote (n : Nat) : hexDigit n ≠ '\'' := by
  have h : ∀ i < 16, Nat.digitChar i ≠ '\'' := by decide
  exact h _ (Nat.mod_lt n (by decide))

/-- The last `width` hexadecimal digits of `n`. -/
def hex : (width n : Nat) → List Char
  | 0, _ => []
  | width + 1, n => hex width (n / 16) ++ [hexDigit n]

/-- The escape by code point. -/
def escapeCode (n : Nat) : List Char :=
  if n < 0x100 then '\\' :: 'x' :: hex 2 n
  else if n < 0x10000 then '\\' :: 'u' :: hex 4 n
  else '\\' :: 'U' :: hex 8 n

/-- A character between the quotes `quote`, shown as it is if `visible`. -/
def escapeChar (quote : Char) (visible : Bool) (c : Char) : List Char :=
  if c = quote ∨ c = '\\' then ['\\', c]
  else if c = '\n' then ['\\', 'n']
  else if c = '\r' then ['\\', 'r']
  else if c = '\t' then ['\\', 't']
  else if visible then [c]
  else escapeCode c.toNat

/-- The quote for a text: double if it saves escaping. -/
def quoteFor (cs : List Char) : Char :=
  if cs.contains '\'' && !cs.contains '"' then '"' else '\''

/-- A text between quotes. -/
def quoted (cs : List Char) : List Char :=
  let q := quoteFor cs
  q :: cs.flatMap (fun c => escapeChar q (isPrintable c) c) ++ [q]

/-- The characters of the code points that a byte string lists. -/
def byteChars (bs : List UInt8) : List Char := bs.map fun b => Char.ofNat b.toNat

/-- Bytes of a text between quotes, `escaped` being the quote that is escaped. -/
def byteBody (escaped : Char) (bs : List UInt8) : List Char :=
  (byteChars bs).flatMap fun c =>
    escapeChar escaped (decide (0x20 ≤ c.toNat ∧ c.toNat < 0x7F)) c

/-- A byte string between quotes, marked by a `b`. -/
def quotedBytes (bs : List UInt8) : List Char :=
  let q := quoteFor (byteChars bs)
  'b' :: q :: byteBody q bs ++ [q]

/-- The same for a byte string that can be changed, in which a single quote is always escaped. -/
def quotedByteArray (bs : List UInt8) : List Char :=
  let q := quoteFor (byteChars bs)
  'b' :: q :: byteBody '\'' bs ++ [q]

/-- The hexadecimal digits of a byte string, two a byte. -/
def hexBytes (bs : List UInt8) : List Char := bs.flatMap fun b => hex 2 b.toNat

end SqlWeave.Text
