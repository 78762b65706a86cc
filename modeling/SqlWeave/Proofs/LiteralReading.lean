/-
  Reading generic literals.

  A reader for the literals that `literal` writes: `NULL`, `TRUE`, `FALSE`, an
  integer, a byte string in pairs of hexadecimal digits, and a string in which
  two single quotes stand for one and a lone one ends it.  What follows the
  literal is left over.

  * `readLiteral?` is the reader, made of `readString?`, `readBytes?` and
    `readInteger?`;
  * `Decodes` says that a reader gives an item back from its text, whatever
    follows, unless that could belong to the text (`EndsLiteral`);
  * `decodes_literal`: `readLiteral?` does so for the literals of scalars;
  * `eq_of_commaSeparated`: texts that can be read back can be read back from
    their list.
-/
import Mathlib.Data.List.Forall2
import SqlWeave.Effect
import SqlWeave.Literal

namespace SqlWeave

/-! ## The reader -/

/-- Reads a string up to its closing quote; two quotes stand for one. -/
def readString? : List Char → Option (List Char × List Char)
  | '\'' :: '\'' :: cs => (readString? cs).map fun r => ('\'' :: r.1, r.2)
  | '\'' :: cs => some ([], cs)
  | c :: cs => (readString? cs).map fun r => (c :: r.1, r.2)
  | [] => none

/-- The value of a hexadecimal digit. -/
def hexValue? (c : Char) : Option Nat :=
  if c.isDigit then some (c.toNat - '0'.toNat)
  else if 'a' ≤ c ∧ c ≤ 'f' then some (c.toNat - 'a'.toNat + 10)
  else if 'A' ≤ c ∧ c ≤ 'F' then some (c.toNat - 'A'.toNat + 10)
  else none

/-- Reads pairs of hexadecimal digits up to a closing quote. -/
def readBytes? : List Char → Option (List UInt8 × List Char)
  | '\'' :: cs => some ([], cs)
  | a :: b :: cs => do
    let high ← hexValue? a
    let low ← hexValue? b
    let (bs, rest) ← readBytes? cs
    return (.ofNat (16 * high + low) :: bs, rest)
  | _ => none

/-- Reads an optional sign and the digits after it. -/
def readInteger? (cs : List Char) : Option (Int × List Char) :=
  let (sign, digits) := Numeral.splitSign cs
  if digits.takeWhile Char.isDigit = [] then none
  else some (Numeral.withSign sign (Numeral.valueOf (digits.takeWhile Char.isDigit)),
    digits.dropWhile Char.isDigit)

/-- Reads a literal. -/
def readLiteral? : List Char → Option (Value × List Char)
  | 'N' :: 'U' :: 'L' :: 'L' :: cs => some (.none, cs)
  | 'T' :: 'R' :: 'U' :: 'E' :: cs => some (.bool true, cs)
  | 'F' :: 'A' :: 'L' :: 'S' :: 'E' :: cs => some (.bool false, cs)
  | 'X' :: '\'' :: cs => (readBytes? cs).map fun r => (.bytes r.1, r.2)
  | '\'' :: cs => (readString? cs).map fun r => (.text (String.ofList r.1), r.2)
  | cs => (readInteger? cs).map fun r => (.int r.1, r.2)

/-! ## What can be read back -/

/-- What may follow a literal: nothing that could belong to it. -/
def EndsLiteral (rest : List Char) : Prop := ∀ c ∈ rest.head?, c ≠ '\'' ∧ c.isDigit = false

theorem endsLiteral_nil : EndsLiteral [] := fun c h => by cases h

theorem endsLiteral_comma (cs : List Char) : EndsLiteral (',' :: cs) := by
  intro c h
  obtain rfl := Option.some.inj h
  decide

/-- The reader gives the item back from its text. -/
def Decodes {α : Type} (read : List Char → Option (α × List Char)) (item : α) (text : List Char) :
    Prop :=
  ∀ rest, EndsLiteral rest → read (text ++ rest) = some (item, rest)

/-- The values that their literals tell apart. -/
def Value.IsScalar : Value → Prop
  | none | bool _ | int _ | text _ | bytes _ => True
  | _ => False

/-! ## Strings and byte strings -/

theorem readString?_cons_of_ne {c : Char} (h : c ≠ '\'') (cs : List Char) :
    readString? (c :: cs) = (readString? cs).map fun r => (c :: r.1, r.2) := by
  rw [readString?]
  · rintro cs' rfl
    exact absurd rfl h
  · rintro rfl
    exact absurd rfl h

theorem readString?_doubleQuotes (cs : List Char) {rest : List Char} (h : EndsLiteral rest) :
    readString? (doubleQuotes cs ++ '\'' :: rest) = some (cs, rest) := by
  induction cs with
  | nil =>
    -- the closing quote is not taken for the first of two
    cases rest with
    | nil => rfl
    | cons c rest =>
      have hc : c ≠ '\'' := (h c rfl).1
      simp [doubleQuotes, readString?, hc]
  | cons c cs ih =>
    rw [doubleQuotes_cons]
    by_cases hc : c = '\''
    · subst hc
      simp [readString?, ih]
    · simp [hc, readString?_cons_of_ne hc, ih]

theorem hexValue?_hexDigit (n : Nat) : hexValue? (Text.hexDigit n) = some (n % 16) := by
  have h : ∀ i < 16, hexValue? (Nat.digitChar i) = some i := by decide
  exact h _ (Nat.mod_lt n (by decide))

theorem readBytes?_hexBytes (bs : List UInt8) (rest : List Char) :
    readBytes? (Text.hexBytes bs ++ '\'' :: rest) = some (bs, rest) := by
  induction bs with
  | nil => rfl
  | cons b bs ih =>
    have hb : Text.hexBytes (b :: bs) =
        Text.hexDigit (b.toNat / 16) :: Text.hexDigit b.toNat :: Text.hexBytes bs := by
      simp [Text.hexBytes, Text.hex]
    have hvalue : 16 * (b.toNat / 16 % 16) + b.toNat % 16 = b.toNat := by
      have := b.toNat_lt
      omega
    have hbyte : UInt8.ofNat (16 * (b.toNat / 16 % 16) + b.toNat % 16) = b := by
      rw [hvalue, UInt8.ofNat_toNat]
    rw [hb, List.cons_append, List.cons_append, readBytes?]
    · simp only [hexValue?_hexDigit, ih, Option.bind_eq_bind, Option.bind_some, hbyte]
      rfl
    · exact Text.hexDigit_ne_quote _

/-! ## Integers -/

theorem readInteger?_write (n : Int) {rest : List Char} (h : EndsLiteral rest) :
    readInteger? (Numeral.write n ++ rest) = some (n, rest) := by
  have digits := Numeral.areDigits_digits n.natAbs
  obtain ⟨htake, hdrop⟩ := Text.takeWhile_append_of_stop digits.isDigit fun c hc => (h c hc).2
  simp only [readInteger?, Numeral.splitSign_write_append, htake, hdrop, digits.ne_nil, if_false,
    Numeral.valueOf_digits, Numeral.withSign_signOf]

/-! ## Literals -/

/-- A text that opens as no other literal is read as an integer. -/
theorem readLiteral?_cons {c : Char} (h : c ∉ ['N', 'T', 'F', 'X', '\'']) (cs : List Char) :
    readLiteral? (c :: cs) = (readInteger? (c :: cs)).map fun r => (.int r.1, r.2) := by
  unfold readLiteral?
  split <;> simp_all

theorem readLiteral?_write (n : Int) {rest : List Char} (h : EndsLiteral rest) :
    readLiteral? (Numeral.write n ++ rest) = some (.int n, rest) := by
  have hopen : ∃ c cs, Numeral.write n = c :: cs ∧ c ∉ ['N', 'T', 'F', 'X', '\''] := by
    unfold Numeral.write
    split
    · exact ⟨'-', _, rfl, by decide⟩
    · obtain ⟨c, cs, hcs, hc⟩ := (Numeral.areDigits_digits n.natAbs).exists_cons
      refine ⟨c, cs, hcs, fun hmem => ?_⟩
      simp only [List.mem_cons, List.not_mem_nil, or_false] at hmem
      rcases hmem with rfl | rfl | rfl | rfl | rfl <;> exact absurd hc (by decide)
  have hread := readInteger?_write n h
  obtain ⟨c, cs, hcs, hc⟩ := hopen
  rw [hcs, List.cons_append] at hread ⊢
  rw [readLiteral?_cons hc, hread]
  rfl

/-- A scalar is read back from its literal. -/
theorem decodes_literal {v : Value} (hv : v.IsScalar) {text : List Char}
    (h : literal v = .ok text) : Decodes readLiteral? v text := by
  intro rest hrest
  cases v with
  | none =>
    cases h
    rfl
  | bool b =>
    cases h
    cases b <;> rfl
  | int n =>
    obtain rfl : text = Numeral.write n := Value.eq_write_of_integerText h
    exact readLiteral?_write n hrest
  | text s =>
    cases h
    have hs := readString?_doubleQuotes s.toList hrest
    simp only [sqlString, List.cons_append, List.append_assoc, List.nil_append]
    simp [readLiteral?, hs]
  | bytes bs =>
    cases h
    have hb := readBytes?_hexBytes bs rest
    simp only [sqlBytes, List.cons_append, List.append_assoc, List.nil_append]
    simp [readLiteral?, hb]
  | _ => exact hv.elim

/-! ## Lists of texts -/

theorem commaSeparated_cons (text : List Char) (texts : List (List Char)) :
    commaSeparated (text :: texts) = text ++ texts.flatMap fun t => ',' :: ' ' :: t := by
  induction texts generalizing text with
  | nil => simp [commaSeparated, List.intercalate]
  | cons t ts ih =>
    rw [commaSeparated_cons_cons, ih, List.flatMap_cons]
    rfl

theorem endsLiteral_flatMap (texts : List (List Char)) :
    EndsLiteral (texts.flatMap fun t => ',' :: ' ' :: t) := by
  cases texts with
  | nil => exact endsLiteral_nil
  | cons t ts => exact endsLiteral_comma _

section
variable {α : Type} {read : List Char → Option (α × List Char)} {items items' : List α}
  {texts texts' : List (List Char)}

theorem eq_of_flatMap_eq (h : List.Forall₂ (Decodes read) items texts)
    (h' : List.Forall₂ (Decodes read) items' texts')
    (heq : (texts.flatMap fun t => ',' :: ' ' :: t) = texts'.flatMap fun t => ',' :: ' ' :: t) :
    items = items' := by
  induction h generalizing items' texts' with
  | nil =>
    cases h' with
    | nil => rfl
    | cons => simp at heq
  | @cons x t xs ts hx hxs ih =>
    cases h' with
    | nil => simp at heq
    | @cons y t' ys ts' hy hys =>
      simp only [List.flatMap_cons, List.cons_append, List.cons.injEq, true_and] at heq
      have hread := hx _ (endsLiteral_flatMap ts)
      rw [heq, hy _ (endsLiteral_flatMap ts')] at hread
      obtain ⟨rfl, hrest⟩ := Prod.mk.inj (Option.some.inj hread)
      rw [ih hys hrest.symm]

/-- Items that can be read back from their texts can be told from the list of the texts. -/
theorem eq_of_commaSeparated (hempty : read [] = none)
    (h : List.Forall₂ (Decodes read) items texts)
    (h' : List.Forall₂ (Decodes read) items' texts')
    (heq : commaSeparated texts = commaSeparated texts') : items = items' := by
  -- a text of an item is not empty
  have hne : ∀ {x : α} {t : List Char} (ts : List (List Char)), Decodes read x t →
      commaSeparated (t :: ts) ≠ [] := by
    intro x t ts hx hnil
    rw [commaSeparated_cons, List.append_eq_nil_iff] at hnil
    have hread := hx [] endsLiteral_nil
    rw [hnil.1, List.nil_append, hempty] at hread
    cases hread
  cases h with
  | nil =>
    cases h' with
    | nil => rfl
    | cons hy => exact absurd heq.symm (hne _ hy)
  | cons hx hxs =>
    cases h' with
    | nil => exact absurd heq (hne _ hx)
    | cons hy hys =>
      refine eq_of_flatMap_eq (.cons hx hxs) (.cons hy hys) ?_
      rw [commaSeparated_cons, commaSeparated_cons] at heq
      simp only [List.flatMap_cons, List.cons_append, heq]

end

end SqlWeave
