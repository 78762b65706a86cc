/-
  Warnings about a template.

  The markers `?t` and `?p` put their values in unescaped, which a reviewer
  should notice; and a `?` before a letter that makes no marker is likely a
  slip of the pen.  `warnings` lists both, line by line and from left to right,
  with the number of the line.
-/
import SqlWeave.Template
import SqlWeave.Text.Letter

namespace SqlWeave

/-- A place in a template that needs attention. -/
structure Warning where
  /-- The two characters at that place. -/
  token : List Char
  /-- The line, from 1. -/
  line : Nat
  /-- The kind, if the two characters are a marker. -/
  kind : Option Kind
  deriving DecidableEq, Repr

namespace Warning

/-- How a kind that does not escape puts its value in. -/
def reason : Kind → String
  | .table => "is wrapped in backticks but not escaped"
  | _ => "is inserted verbatim without escaping"

/-- The markers, as they are listed to a reader. -/
def knownMarkers : String := ", ".intercalate (Kind.all.map fun k => String.ofList k.marker)

/-- The wording of a warning. -/
def message (w : Warning) : String :=
  match w.kind with
  | some k =>
    "'" ++ String.ofList w.token ++ "' " ++ reason k ++
      ". Only pass trusted identifiers or SQL fragments to it."
  | none =>
    "'" ++ String.ofList w.token ++
      "' is not a placeholder and is kept as literal text. Known placeholders: " ++ knownMarkers ++
      "."

end Warning

/-- The lines of a text, without the line feeds between them. -/
def splitLines : List Char → List (List Char)
  | [] => [[]]
  | c :: cs =>
    if c = '\n' then [] :: splitLines cs
    else match splitLines cs with
      | [] => [[c]]
      | l :: ls => (c :: l) :: ls

namespace Template

/-- Whether values are put in unescaped. -/
def isUnescaped : Kind → Bool
  | .table | .raw => true
  | _ => false

/-- Each `?` before a letter in a text between markers, with the letter. -/
def unknownMarkers : List Char → List (List Char)
  | [] => []
  | [_] => []
  | c :: d :: cs =>
    if c = '?' ∧ Text.isLetter d = true then [c, d] :: unknownMarkers (d :: cs)
    else unknownMarkers (d :: cs)

/-- The warnings about a text between markers. -/
def literalWarnings (line : Nat) (cs : List Char) : List Warning :=
  (unknownMarkers cs).map fun token => ⟨token, line, none⟩

/-- The warnings about a marker. -/
def kindWarnings (line : Nat) (k : Kind) : List Warning :=
  if isUnescaped k then [⟨k.marker, line, some k⟩] else []

/-- The warnings about a line. -/
def lineWarnings (line : Nat) (cs : List Char) : List Warning :=
  let t := ofChars cs
  literalWarnings line t.head ++
    t.tail.flatMap fun p => kindWarnings line p.1 ++ literalWarnings line p.2

/-- The warnings about lines of which the first has the number `first`. -/
def warningsFrom (first : Nat) : List (List Char) → List Warning
  | [] => []
  | l :: ls => lineWarnings first l ++ warningsFrom (first + 1) ls

/-- The warnings about a template. -/
def warnings (source : String) : List Warning := warningsFrom 1 (splitLines source.toList)

end Template

end SqlWeave
