/-
  Blank characters.

  A character is blank (`isBlank`) if Unicode counts it as a space or a line,
  paragraph or segment separator; besides the usual spaces these are the four
  information separators U+001C to U+001F and the next-line control U+0085.
  The six controls of the C locale (`isPlainBlank`) are the ones that readers
  of plain numerals strip.
-/
import SqlWeave.Text.Ranges

namespace SqlWeave.Text

/-- The blank characters of Unicode. -/
def blankRanges : List (Nat × Nat) :=
  [(0x09, 0x0D), (0x1C, 0x20), (0x85, 0x85), (0xA0, 0xA0), (0x1680, 0x1680), (0x2000, 0x200A),
    (0x2028, 0x2029), (0x202F, 0x202F), (0x205F, 0x205F), (0x3000, 0x3000)]

/-- A blank of Unicode. -/
def isBlank (c : Char) : Bool := memRanges blankRanges c

/-- Space, tab, line feed, vertical tab, form feed or carriage return. -/
def isPlainBlank (c : Char) : Bool := memRanges [(0x09, 0x0D), (0x20, 0x20)] c

/-- One of the information separators U+001C to U+001F: blank, but not stripped
    around a numeral. -/
def isSeparator (c : Char) : Bool := memRanges [(0x1C, 0x1F)] c

/-- The characters of a class are taken up to the first that is not in it. -/
theorem takeWhile_append_of_stop {p : Char → Bool} {cs ds : List Char} (hcs : ∀ c ∈ cs, p c = true)
    (hds : ∀ c ∈ ds.head?, p c = false) :
    (cs ++ ds).takeWhile p = cs ∧ (cs ++ ds).dropWhile p = ds := by
  rw [List.takeWhile_append_of_pos hcs, List.dropWhile_append_of_pos hcs]
  cases ds with
  | nil => simp
  | cons d ds => simp [hds d rfl]

end SqlWeave.Text
