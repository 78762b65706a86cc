/-
  Integers that are put in and read again.

  * `decode_encode_of_ascii`: an ASCII text is read back from its UTF-8 bytes;
  * `leading?_write`: the text of an integer starts with all of that integer;
  * `castInteger_of_write`: so the loose cast reads it back exactly, however far
    it is beyond the precision of floats;
  * `integerArgument_reread`: what the integer marker puts in is read as the same
    integer, and put in again as the same text.
-/
import Mathlib.Data.List.Basic
import SqlWeave.Proofs.LongestNumber

namespace SqlWeave

variable {σ τ : Type}

/-! ## ASCII in UTF-8 -/

namespace Text.Utf8

/-- The UTF-8 bytes of a text. -/
def encode (cs : List Char) : List UInt8 := (String.ofList cs).toUTF8.data.toList

variable {cs : List Char}

theorem encode_of_ascii (h : ∀ c ∈ cs, c.toNat < 0x80) :
    encode cs = cs.map fun c => UInt8.ofNat c.toNat := by
  have single : ∀ c ∈ cs, String.utf8EncodeChar c = [UInt8.ofNat c.toNat] := by
    intro c hc
    refine String.utf8EncodeChar_eq_singleton (Char.utf8Size_eq_one_iff.2 ?_)
    exact UInt32.le_iff_toNat_le.2 (Nat.le_of_lt_succ (h c hc))
  have bytes : encode cs = cs.flatMap String.utf8EncodeChar := by
    simp [encode, String.toUTF8_eq_toByteArray, List.utf8Encode]
  rw [bytes, List.flatMap_congr single]
  exact List.flatMap_pure_eq_map ..

/-- An ASCII text is read back from its UTF-8 bytes. -/
theorem decode_encode_of_ascii (h : ∀ c ∈ cs, c.toNat < 0x80) : decode (encode cs) = cs := by
  have byte : ∀ c ∈ cs, (UInt8.ofNat c.toNat).toNat = c.toNat := fun c hc =>
    UInt8.toNat_ofNat_of_lt' (Nat.lt_trans (h c hc) (by decide))
  have ascii : ∀ b ∈ encode cs, b.toNat < 0x80 := by
    rw [encode_of_ascii h, List.forall_mem_map]
    exact fun c hc => (byte c hc).trans_lt (h c hc)
  rw [decode_ascii ascii, encode_of_ascii h, List.map_map]
  conv_rhs => rw [← List.map_id cs]
  refine List.map_congr_left fun c hc => ?_
  rw [Function.comp_apply, byte c hc, Char.ofNat_toNat, id]

end Text.Utf8

namespace Numeral

open Text

/-! ## Integers at the start of a text -/

theorem toNat_lt_of_mem_write {n : Int} {c : Char} (h : c ∈ write n) : c.toNat < 0x80 := by
  have digit : ∀ c : Char, c.isDigit = true → c.toNat < 0x80 := by
    intro c hc
    have : 0x30 ≤ c.toNat ∧ c.toNat ≤ 0x39 := Char.isDigit_iff_toNat.1 hc
    omega
  unfold write at h
  split at h
  · rcases List.mem_cons.1 h with rfl | h
    · decide
    · exact digit c ((areDigits_digits _).isDigit c h)
  · exact digit c ((areDigits_digits _).isDigit c h)

/-- An integer as a leading number. -/
def leadingOf (n : Int) : Leading := ⟨[], signOf n, digits n.natAbs, none, none⟩

theorem source_leadingOf (n : Int) : (leadingOf n).source = write n := by
  simp [Leading.source, leadingOf, write_eq]

theorem integer_leadingOf (n : Int) : (leadingOf n).integer = n := by
  rw [Leading.integer, leadingOf, valueOf_digits, withSign_signOf]

theorem wellFormed_leadingOf (n : Int) : (leadingOf n).WellFormed where
  blanks := nofun
  sign c hc := by
    simp only [leadingOf, signOf] at hc
    split at hc
    · cases hc
      exact .inr rfl
    · cases hc
  whole c hc := isDigit_of_isDigit ((areDigits_digits _).isDigit c hc)
  fraction := nofun
  mantissa := by simp [Leading.mantissa, leadingOf, (areDigits_digits _).ne_nil]
  exponent := nofun

/-- The text of an integer starts with that integer, and nothing is left. -/
theorem leading?_write (n : Int) : leading? (write n) = some (leadingOf n) := by
  have read := Leading.leading?_source_append (wellFormed_leadingOf n) []
  rwa [List.append_nil, source_leadingOf, Leading.extend_nil] at read

end Numeral

/-! ## Integers read again -/

namespace Value

open Numeral (digits leadingOf maxDigits write)

/-- The value is the text `cs`, as such or in UTF-8. -/
def IsTextOf (cs : List Char) (v : Value) : Prop :=
  v = .text (String.ofList cs) ∨ v = .bytes (Text.Utf8.encode cs)

variable {v : Value} {n : Int}

theorem IsTextOf.chars?_eq {cs : List Char} (h : v.IsTextOf cs) (hcs : ∀ c ∈ cs, c.toNat < 0x80) :
    v.chars? = some cs := by
  rcases h with rfl | rfl
  · exact congrArg some (String.toList_ofList)
  · exact congrArg some (Text.Utf8.decode_encode_of_ascii hcs)

/-- An integer that can be written is read back exactly. -/
theorem castInteger_of_write (h : v.IsTextOf (write n))
    (hn : (digits n.natAbs).length ≤ maxDigits) : v.castInteger = .ok n := by
  have integer : (leadingOf n).isInteger = true := rfl
  have joined : (leadingOf n).isSeparated = false := rfl
  have few : ¬maxDigits < (leadingOf n).whole.length := Nat.not_lt.2 hn
  rw [castInteger_of_chars (h.chars?_eq fun _ => Numeral.toNat_lt_of_mem_write),
    Numeral.leading?_write, Option.elim_some, integerOfLeading, if_pos integer, joined,
    if_neg Bool.false_ne_true, if_neg few, Numeral.integer_leadingOf]

end Value

/-- **What the integer marker puts in is read as the same integer.**  If a value has an integer text,
    the loose cast of that text, as such or in UTF-8, gives the integer that the value is cast to, and
    for the integer marker the text stands for itself. -/
theorem integerArgument_reread {v : Value} {quote : Quote σ} {s : σ} {text : List Char}
    (h : (Act.exec (Kind.integer.convert v quote) s).1 = .ok text) {again : Value}
    (ha : again.IsTextOf text) :
    (∃ n, v.castInteger = .ok n ∧ again.castInteger = .ok n) ∧
      ∀ (quote : Quote τ) (t : τ), Act.exec (Kind.integer.convert again quote) t = (.ok text, t) := by
  obtain ⟨n, hcast, hn⟩ := bind_eq_ok_iff.1 (show integerArgument v = .ok text from h)
  obtain rfl := Value.eq_write_of_integerText hn
  have read : again.castInteger = .ok n :=
    Value.castInteger_of_write ha (Value.exists_integerText_iff.1 ⟨_, hn⟩)
  refine ⟨⟨n, hcast, read⟩, fun quote t => ?_⟩
  show (integerArgument again, t) = _
  rw [integerArgument, read, ok_bind, hn]

/-- An integer beyond the precision of floats. -/
theorem integerArgument_reread_large :
    let text := ['-', '9', '0', '0', '7', '1', '9', '9', '2', '5', '4', '7', '4', '0', '9', '9', '3']
    (Act.exec (Kind.integer.convert (.int (-9007199254740993)) literalQuote) ()).1 = .ok text ∧
      (Value.bytes (Text.Utf8.encode text)).IsTextOf text ∧
      (Value.bytes (Text.Utf8.encode text)).castInteger = .ok (-9007199254740993) := by
  intro text
  have written : (Act.exec (Kind.integer.convert (.int (-9007199254740993)) literalQuote) ()).1 =
      .ok text := by
    have few : (Numeral.digits (-9007199254740993 : Int).natAbs).length ≤ Numeral.maxDigits := by
      decide
    show integerArgument _ = _
    rw [integerArgument, Value.castInteger, ok_bind, Value.integerText_of_length_le few]
    rfl
  have encoded : (Value.bytes (Text.Utf8.encode text)).IsTextOf text := .inr rfl
  obtain ⟨⟨n, cast, read⟩, -⟩ := integerArgument_reread (τ := Unit) written encoded
  cases cast
  exact ⟨written, encoded, read⟩

end SqlWeave
