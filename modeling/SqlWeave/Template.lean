/-
  Placeholder templates.

  A marker is a `?` directly followed by one of seven letters; each marker names
  a `Kind` of conversion.  Every other `?` is ordinary text.  A `Template` is
  the text before the first marker and, for each marker, its kind and the text
  up to the next one.

  * `Template.ofChars` splits a text at its markers in one pass;
  * `Template.source` writes a template back, each kind as its marker;
  * `source_ofChars`: splitting loses nothing.
-/
namespace SqlWeave

/-- What a marker asks for. -/
inductive Kind where
  /-- `?s`: a string, escaped. -/
  | string
  /-- `?i`: an integer, cast. -/
  | integer
  /-- `?f`: a float, cast. -/
  | float
  /-- `?a`: a sequence for `IN (...)`, each element escaped. -/
  | array
  /-- `?A`: a mapping for `SET`, each value escaped. -/
  | assoc
  /-- `?t`: an identifier in backticks, not escaped. -/
  | table
  /-- `?p`: a fragment of SQL, as it is. -/
  | raw
  deriving DecidableEq, Repr, Inhabited

namespace Kind

/-- The kinds in the order in which they are listed to a reader. -/
def all : List Kind := [string, integer, float, array, assoc, table, raw]

/-- The letter of the marker. -/
def letter : Kind → Char
  | string => 's'
  | integer => 'i'
  | float => 'f'
  | array => 'a'
  | assoc => 'A'
  | table => 't'
  | raw => 'p'

/-- The kind whose marker has the letter `c`. -/
def ofLetter? (c : Char) : Option Kind := all.find? fun k => k.letter == c

/-- The marker of a kind. -/
def marker (k : Kind) : List Char := ['?', k.letter]

/-- The kind with the marker `s`. -/
def ofMarker? (s : String) : Option Kind := all.find? fun k => String.ofList k.marker == s

theorem ofLetter?_letter (k : Kind) : ofLetter? k.letter = some k := by
  cases k <;> rfl

theorem ofLetter?_eq_some_iff {c : Char} {k : Kind} : ofLetter? c = some k ↔ c = k.letter := by
  constructor
  · intro h
    have := List.find?_some h
    exact (beq_iff_eq.1 this).symm
  · rintro rfl
    exact ofLetter?_letter k

end Kind

/-- A template, split at its markers. -/
structure Template where
  /-- The text before the first marker. -/
  head : List Char
  /-- Each marker's kind with the text after it. -/
  tail : List (Kind × List Char)
  deriving DecidableEq, Repr, Inhabited

namespace Template

/-- The template that starts with one more character of text. -/
def push (c : Char) (t : Template) : Template := { t with head := c :: t.head }

/-- The template that starts with a marker. -/
def pushKind (k : Kind) (t : Template) : Template := ⟨[], (k, t.head) :: t.tail⟩

/-- A text split at its markers, read from left to right. -/
def ofChars : List Char → Template
  | [] => ⟨[], []⟩
  | [c] => ⟨[c], []⟩
  | c :: d :: cs =>
    if c = '?' then
      match Kind.ofLetter? d with
      | some k => pushKind k (ofChars cs)
      | none => push c (ofChars (d :: cs))
    else push c (ofChars (d :: cs))

/-- A text split at its markers. -/
def ofString (s : String) : Template := ofChars s.toList

/-- The kinds of the markers, from left to right. -/
def kinds (t : Template) : List Kind := t.tail.map Prod.fst

/-- The texts between the markers, one more than there are markers. -/
def literals (t : Template) : List (List Char) := t.head :: t.tail.map Prod.snd

/-- The number of markers. -/
def count (t : Template) : Nat := t.tail.length

/-- A part of a template. -/
inductive Item where
  /-- Text between markers, possibly empty. -/
  | literal (cs : List Char)
  /-- A marker. -/
  | token (k : Kind)
  deriving DecidableEq, Repr

/-- Texts and markers in turn, beginning and ending with a text. -/
def items (t : Template) : List Item :=
  .literal t.head :: t.tail.flatMap fun p => [.token p.1, .literal p.2]

/-- The text with `texts`, in order, in the places of the markers. -/
def fill (t : Template) (texts : List (List Char)) : List Char :=
  t.head ++ (texts.zip (t.tail.map Prod.snd)).flatMap fun p => p.1 ++ p.2

/-- The text that the template was split from. -/
def source (t : Template) : List Char := t.head ++ t.tail.flatMap fun p => p.1.marker ++ p.2

@[simp] theorem source_push (c : Char) (t : Template) : (push c t).source = c :: t.source := rfl

@[simp] theorem source_pushKind (k : Kind) (t : Template) :
    (pushKind k t).source = '?' :: k.letter :: t.source := rfl

@[simp] theorem source_ofChars (cs : List Char) : (ofChars cs).source = cs := by
  fun_induction ofChars cs with
  | case1 => rfl
  | case2 => rfl
  | case3 d cs k h ih => simp [ih, Kind.ofLetter?_eq_some_iff.1 h]
  | case4 d cs h ih => simp [ih]
  | case5 c d cs h ih => simp [ih]

end Template

end SqlWeave
