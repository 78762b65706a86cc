/-
  Values as text.

  A value has two texts: the one that stands for it inside another text
  (`Value.plain`), and the one for a reader (`Value.shown`), in which texts are
  quoted and numbers of a named type carry the name.  They differ for texts,
  dates, decimals, mapping views and values of foreign or derived classes only.
  A container shows its elements for a reader in both.

  Writing fails where an integer has too many digits or a hook raises; of
  several such elements the first one counts.
-/
import SqlWeave.Fault
import SqlWeave.Numeral.Integer
import SqlWeave.Text.Quoted

namespace SqlWeave

open Numeral (floatText)
open Text (quoted quotedBytes quotedByteArray)

/-- Texts with a comma and a blank between them. -/
def commaSeparated (texts : List (List Char)) : List Char := [',', ' '].intercalate texts

theorem commaSeparated_cons_cons (cs ds : List Char) (texts : List (List Char)) :
    commaSeparated (cs :: ds :: texts) = cs ++ (',' :: ' ' :: commaSeparated (ds :: texts)) := by
  simp [commaSeparated, List.intercalate]

namespace Value

/-- The text of an integer. -/
def integerText (n : Int) : Except Fault (List Char) :=
  if Numeral.isWritable n then .ok (Numeral.write n) else .error .integerTooLong

/-- An integer that has a text has the written one. -/
theorem eq_write_of_integerText {n : Int} {cs : List Char} (h : integerText n = .ok cs) :
    cs = Numeral.write n := by
  unfold integerText at h
  split at h
  · exact (Except.ok.inj h).symm
  · cases h

/-- The text that a hook gives. -/
def hookText : Except Raised String → Except Fault (List Char)
  | .ok s => .ok s.toList
  | .error e => .error (.raised e)

/-- Elements between brackets, after the name of their container. -/
def bracketed (opening closing : String) (texts : List (List Char)) : List Char :=
  opening.toList ++ commaSeparated texts ++ closing.toList

/-- The elements of a tuple, which has a comma even if there is only one. -/
def tupleText : List (List Char) → List Char
  | [t] => '(' :: t ++ [',', ')']
  | ts => bracketed "(" ")" ts

/-- The bounds of a range, and its step if it is not one. -/
def rangeText (start stop step : Int) : Except Fault (List Char) := do
  let a ← integerText start
  let b ← integerText stop
  if step = 1 then return bracketed "range(" ")" [a, b]
  let c ← integerText step
  return bracketed "range(" ")" [a, b, c]

mutual

/-- The text of a value for a reader. -/
def shown : Value → Except Fault (List Char)
  | none => .ok "None".toList
  | bool b => .ok (if b then "True" else "False").toList
  | int n => integerText n
  | float x => .ok (floatText x)
  | derivedFloat x => .ok x.shown
  | text s => .ok (quoted s.toList)
  | bytes bs => .ok (quotedBytes bs)
  | byteArray bs => .ok (bracketed "bytearray(" ")" [quotedByteArray bs])
  | list xs => return bracketed "[" "]" (← shownAll xs)
  | tuple xs => return tupleText (← shownAll xs)
  | deque xs => return bracketed "deque([" "])" (← shownAll xs)
  | range a b c => rangeText a b c
  | set [] => .ok "set()".toList
  | set (x :: xs) => return bracketed "\x7b" "\x7d" (← shownAll (x :: xs))
  | frozenSet [] => .ok "frozenset()".toList
  | frozenSet (x :: xs) => return bracketed "frozenset(\x7b" "\x7d)" (← shownAll (x :: xs))
  | dict es => return bracketed "\x7b" "\x7d" (← shownEntries es)
  | dictView es => return bracketed "mappingproxy(\x7b" "\x7d)" (← shownEntries es)
  | decimal d => .ok (bracketed "Decimal('" "')" [d.text])
  | date d => .ok d.shown
  | moment t => .ok t.shown
  | custom c => hookText c.shown

/-- The texts of several values for a reader. -/
def shownAll : List Value → Except Fault (List (List Char))
  | [] => .ok []
  | x :: xs => return (← shown x) :: (← shownAll xs)

/-- The texts of the entries of a mapping for a reader. -/
def shownEntries : List (Value × Value) → Except Fault (List (List Char))
  | [] => .ok []
  | (k, v) :: es => do
    let k ← shown k
    let v ← shown v
    return (k ++ ':' :: ' ' :: v) :: (← shownEntries es)

end

/-- The text that stands for a value inside another text. -/
def plain : Value → Except Fault (List Char)
  | text s => .ok s.toList
  | decimal d => .ok d.text
  | date d => .ok d.text
  | moment t => .ok t.text
  | dictView es => shown (dict es)
  | derivedFloat x => hookText x.text
  | custom c => hookText c.text
  | v => v.shown

end Value

end SqlWeave
