/-
  What a marker puts in the place of its parameter.

  `Kind.checkShape` refuses a parameter that cannot feed its marker, and
  `Kind.convert` gives the text for it.  Strings, the elements of a sequence and
  the values of a mapping go through the escaper `quote`, in this order; numbers
  are cast, and identifiers and fragments are put in as they are.

  The texts for elements and entries are made in a generator, where an error
  that ends an iteration becomes another one (`generated`).
-/
import SqlWeave.Cast
import SqlWeave.Effect
import SqlWeave.Literal

namespace SqlWeave

/-- An escaper: it makes an SQL literal of a value. -/
abbrev Quote (σ : Type) := Value → Act σ (List Char)

/-- The escaper that writes generic literals. -/
def literalQuote {σ : Type} : Quote σ := fun v => Act.ofExcept (literal v)

namespace Kind

/-- Whether a value can feed a marker of this kind. -/
def accepts : Kind → Value → Bool
  | array, v => v.isSequence
  | assoc, v => v.isMapping
  | _, _ => true

/-- Refuses a value that cannot feed a marker of this kind. -/
def checkShape (k : Kind) (v : Value) : Except Fault Unit :=
  if k.accepts v then .ok () else .error (.shape k v.typeName)

theorem checkShape_eq_ok_iff {k : Kind} {v : Value} : k.checkShape v = .ok () ↔ k.accepts v = true := by
  unfold checkShape
  split <;> simp_all

end Kind

/-! ## Conversions -/

section
variable {σ : Type}

/-- The text of the integer that a value is cast to. -/
def integerArgument (v : Value) : Except Fault (List Char) := do
  Value.integerText (← v.castInteger)

/-- The text of the float that a value is cast to.  A finite float of a derived class is cast to
    itself, and its class writes it. -/
def floatArgument (v : Value) : Except Fault (List Char) :=
  match v with
  | .derivedFloat x =>
    .ok (if Numeral.isFinite x.number then x.shown else Numeral.floatText 0)
  | v => return Numeral.floatText (← v.castFloat)

theorem floatArgument_of_not_derived {v : Value} (h : ∀ x, v ≠ .derivedFloat x) :
    floatArgument v = v.castFloat.map Numeral.floatText := by
  unfold floatArgument
  split
  · next x => exact absurd rfl (h x)
  · cases v.castFloat <;> rfl

/-- A name between backticks. -/
def backticked (cs : List Char) : List Char := '`' :: cs ++ ['`']

/-- Makes an element of a generator. -/
def generated {α : Type} (a : Act σ α) : Act σ α :=
  Act.mapError Fault.outOfGenerator a

/-- The elements of a sequence, escaped, with commas between them. -/
def inList (quote : Quote σ) (v : Value) : Act σ (List Char) := do
  Act.ofExcept (Kind.array.checkShape v)
  return commaSeparated (← (v.elements?.getD []).mapM fun x => generated (quote x))

/-- An entry of a mapping as an assignment, the value escaped. -/
def assignment (quote : Quote σ) (e : Value × Value) : Act σ (List Char) := do
  let name ← Act.ofExcept e.1.plain
  return backticked name ++ '=' :: (← quote e.2)

/-- The entries of a mapping as assignments, with commas between them. -/
def setList (quote : Quote σ) (v : Value) : Act σ (List Char) := do
  Act.ofExcept (Kind.assoc.checkShape v)
  return commaSeparated (← (v.entries?.getD []).mapM fun e => generated (assignment quote e))

/-- The text that a marker of this kind puts in for a value. -/
def Kind.convert (k : Kind) (v : Value) (quote : Quote σ) : Act σ (List Char) :=
  match k with
  | .string => quote v
  | .integer => Act.ofExcept (integerArgument v)
  | .float => Act.ofExcept (floatArgument v)
  | .array => inList quote v
  | .assoc => setList quote v
  | .table => do return backticked (← Act.ofExcept v.plain)
  | .raw => Act.ofExcept v.plain

end

end SqlWeave
