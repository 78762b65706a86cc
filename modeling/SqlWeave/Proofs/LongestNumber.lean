/-
  The longest number at the start of a text.

  * `Leading.WellFormed` is the form of a number: blanks, a sign, digits with a
    point among, after or before them, and an exponent;
  * `Leading.extend` lets a number grow into the text behind it, and
    `leading?_source_append` says that what is read at the start of a text is
    what every number that stands there grows into;
  * `leading?_eq_some_iff`, `leading?_eq_none_iff`: so the longest number is
    read, if there is one;
  * `wholeOfFloat_eq`: the whole part of a float as a quotient;
  * `Value.cast_longest`: both loose casts of a text by its longest number.
-/
import SqlWeave.Proofs.NumericArguments

namespace SqlWeave

namespace Text

/-- The tables of digits and of blanks do not meet. -/
theorem isBlank_of_isDigit {c : Char} (h : isDigit c = true) : isBlank c = false := by
  have apart : ∀ z ∈ zeros, ∀ r ∈ blankRanges, z + 10 ≤ r.1 ∨ r.2 < z := by decide +kernel
  rw [← Bool.not_eq_true, isBlank, memRanges_iff]
  rintro ⟨r, hr, low, high⟩
  rw [isDigit, digitValue?, Option.isSome_map, List.find?_isSome] at h
  obtain ⟨z, hz, hc⟩ := h
  rw [Bool.and_eq_true, decide_eq_true_iff, decide_eq_true_iff] at hc
  have := apart z hz r hr
  omega

end Text

namespace Numeral

open Text

/-! ## The form of a number -/

/-- What may stand as a sign. -/
def IsSign (c : Char) : Prop := c = '+' ∨ c = '-'

/-- A letter, a sign and digits. -/
structure Exponent.WellFormed (e : Exponent) : Prop where
  letter : e.letter = 'e' ∨ e.letter = 'E'
  sign : ∀ c ∈ e.sign, IsSign c
  digits : ∀ c ∈ e.digits, isDigit c = true
  ne_nil : e.digits ≠ []

/-- Blanks, a sign, digits with or without a point but not without any digit, and an exponent. -/
structure Leading.WellFormed (l : Leading) : Prop where
  blanks : ∀ c ∈ l.blanks, isBlank c = true
  sign : ∀ c ∈ l.sign, IsSign c
  whole : ∀ c ∈ l.whole, isDigit c = true
  fraction : ∀ ds ∈ l.fraction, ∀ c ∈ ds, isDigit c = true
  mantissa : l.mantissa ≠ []
  exponent : ∀ e ∈ l.exponent, e.WellFormed

/-- Of the numbers that the text starts with, `l` is the longest. -/
structure Leading.IsLongest (l : Leading) (cs : List Char) : Prop where
  wellFormed : l.WellFormed
  isPrefix : l.source <+: cs
  longest : ∀ l' : Leading, l'.WellFormed → l'.source <+: cs → l'.source.length ≤ l.source.length

/-! ## Reading the parts -/

section
variable {sign : Option Char} {cs ds rest : List Char} {e : Exponent}

theorem isSign_of_splitSign (cs : List Char) : ∀ c ∈ (splitSign cs).1, IsSign c := by
  unfold splitSign
  split <;> simp [IsSign]

theorem splitSign_of_sign (hs : ∀ c ∈ sign, IsSign c) (hcs : ∀ c ∈ cs.head?, ¬IsSign c) :
    splitSign (sign.toList ++ cs) = (sign, cs) := by
  cases sign with
  | some c =>
    rcases hs c rfl with rfl | rfl <;> rfl
  | none =>
    cases cs with
    | nil => rfl
    | cons c cs =>
      have hc : ¬(c = '+' ∨ c = '-') := hcs c rfl
      rw [not_or] at hc
      simp [splitSign, hc.1, hc.2]

theorem not_isSign_of_isDigit {c : Char} (h : isDigit c = true) : ¬IsSign c := by
  rintro (rfl | rfl) <;> exact absurd h (by decide)

/-- An exponent part opens with a letter, which is neither a digit nor the point. -/
theorem Exponent.WellFormed.head_source_append (h : e.WellFormed) (rest : List Char) :
    ∀ c ∈ (e.source ++ rest).head?, isDigit c = false ∧ c ≠ '.' := by
  rintro _ ⟨⟩
  rcases h.letter with hl | hl <;> rw [hl] <;> decide

theorem wellFormed_of_exponent? (h : exponent? cs = some e) : e.WellFormed := by
  cases cs with
  | nil => cases h
  | cons c cs =>
    simp only [exponent?] at h
    split at h
    · next hc =>
      cases h
      exact ⟨hc.1, isSign_of_splitSign cs, List.all_eq_true.1 List.all_takeWhile, hc.2⟩
    · cases h

/-- An exponent part takes the digits behind it. -/
theorem exponent?_source_append (h : e.WellFormed) (rest : List Char) :
    exponent? (e.source ++ rest) =
      some { e with digits := e.digits ++ rest.takeWhile isDigit } := by
  obtain ⟨c, ds, hds⟩ := List.exists_cons_of_ne_nil h.ne_nil
  have hsplit : splitSign (e.sign.toList ++ (e.digits ++ rest)) = (e.sign, e.digits ++ rest) := by
    refine splitSign_of_sign h.sign fun c' hc' => not_isSign_of_isDigit (h.digits c' ?_)
    rw [hds] at hc' ⊢
    cases hc'
    exact List.mem_cons_self
  simp only [Exponent.source, List.cons_append, List.append_assoc, exponent?, hsplit]
  rw [List.takeWhile_append_of_pos h.digits, if_pos ⟨h.letter, by simp [h.ne_nil]⟩]

theorem splitFraction_point (hds : ∀ c ∈ ds, isDigit c = true) (rest : List Char) :
    splitFraction ('.' :: (ds ++ rest)) =
      (some (ds ++ rest.takeWhile isDigit), rest.dropWhile isDigit) := by
  simp only [splitFraction]
  rw [List.takeWhile_append_of_pos hds, List.dropWhile_append_of_pos hds]

theorem splitFraction_of_ne (h : ∀ c ∈ cs.head?, c ≠ '.') : splitFraction cs = (none, cs) := by
  unfold splitFraction
  split
  · exact absurd rfl (h '.' rfl)
  · rfl

theorem isDigit_of_mem_splitFraction (cs : List Char) :
    ∀ ds ∈ (splitFraction cs).1, ∀ c ∈ ds, isDigit c = true := by
  unfold splitFraction
  split
  · rintro _ ⟨⟩
    exact List.all_eq_true.1 List.all_takeWhile
  · nofun

end

/-! ## Numbers that grow -/

namespace Leading

variable {l : Leading} {cs rest : List Char}

/-- The number after the blanks and the sign. -/
def body (l : Leading) : List Char :=
  l.whole ++ (l.fraction.elim [] ('.' :: ·)) ++ (l.exponent.elim [] Exponent.source)

theorem source_eq (l : Leading) : l.source = l.blanks ++ (l.sign.toList ++ l.body) := by
  simp [source, body]

/-- What becomes of a number that has the text `rest` behind it: its last part goes on as far as it
    can, and further parts follow. -/
def extend (l : Leading) (rest : List Char) : Leading :=
  match l.exponent, l.fraction with
  | some e, _ => { l with exponent := some { e with digits := e.digits ++ rest.takeWhile isDigit } }
  | none, some ds => { l with
      fraction := some (ds ++ rest.takeWhile isDigit)
      exponent := exponent? (rest.dropWhile isDigit) }
  | none, none => { l with
      whole := l.whole ++ rest.takeWhile isDigit
      fraction := (splitFraction (rest.dropWhile isDigit)).1
      exponent := exponent? (splitFraction (rest.dropWhile isDigit)).2 }

theorem extend_nil (l : Leading) : l.extend [] = l := by
  obtain ⟨blanks, sign, whole, fraction, exponent⟩ := l
  cases exponent <;> cases fraction <;> simp [extend, exponent?, splitFraction]

theorem length_source_le_extend (l : Leading) (rest : List Char) :
    l.source.length ≤ (l.extend rest).source.length := by
  obtain ⟨blanks, sign, whole, fraction, exponent⟩ := l
  cases exponent <;> cases fraction <;>
    simp only [extend, source, Exponent.source, Option.elim_some, Option.elim_none,
      List.length_append, List.length_cons, List.length_nil] <;> omega

theorem blanks_extend (l : Leading) (rest : List Char) : (l.extend rest).blanks = l.blanks := by
  unfold extend
  split <;> rfl

theorem sign_extend (l : Leading) (rest : List Char) : (l.extend rest).sign = l.sign := by
  unfold extend
  split <;> rfl

theorem mantissa_eq_nil_iff :
    l.mantissa = [] ↔ l.whole = [] ∧ l.fraction.all List.isEmpty = true := by
  rw [mantissa, List.append_eq_nil_iff]
  cases l.fraction <;> simp

theorem mantissa_extend_ne_nil (l : Leading) (rest : List Char) (h : l.mantissa ≠ []) :
    (l.extend rest).mantissa ≠ [] := by
  obtain ⟨blanks, sign, whole, fraction, exponent⟩ := l
  cases exponent <;> cases fraction <;> simp_all [extend, mantissa]

theorem WellFormed.head_body (h : l.WellFormed) :
    ∃ c cs, l.body = c :: cs ∧ (isDigit c = true ∨ c = '.') := by
  obtain ⟨blanks, sign, whole, fraction, exponent⟩ := l
  cases whole with
  | cons c cs => exact ⟨c, _, rfl, .inl (h.whole c List.mem_cons_self)⟩
  | nil =>
    cases fraction with
    | some ds => exact ⟨'.', _, rfl, .inr rfl⟩
    | none => exact absurd rfl h.mantissa

/-- Blanks and sign are those of the number, since its body starts with neither. -/
theorem WellFormed.split_source_append (h : l.WellFormed) (rest : List Char) :
    (l.source ++ rest).takeWhile isBlank = l.blanks ∧
      splitSign ((l.source ++ rest).dropWhile isBlank) = (l.sign, l.body ++ rest) := by
  obtain ⟨c, cs, hbody, hc⟩ := h.head_body
  have notSign : ¬IsSign c := by
    rcases hc with hc | rfl
    · exact not_isSign_of_isDigit hc
    · simp [IsSign]
  have notBlank : isBlank c = false := by
    rcases hc with hc | rfl
    · exact isBlank_of_isDigit hc
    · decide
  have stop : ∀ c' ∈ (l.sign.toList ++ (l.body ++ rest)).head?, isBlank c' = false := by
    rw [hbody]
    cases hs : l.sign with
    | none =>
      rintro _ ⟨⟩
      exact notBlank
    | some s =>
      rintro _ ⟨⟩
      rcases h.sign s hs with rfl | rfl <;> decide
  have blanks := takeWhile_append_of_stop h.blanks stop
  rw [source_eq, List.append_assoc, List.append_assoc, blanks.1, blanks.2, hbody]
  exact ⟨rfl, splitSign_of_sign h.sign fun c' hc' => by cases hc'; exact notSign⟩

/-- The parts of the body are those that the number grows into. -/
theorem WellFormed.split_body_append (h : l.WellFormed) (rest : List Char) :
    (l.body ++ rest).takeWhile isDigit = (l.extend rest).whole ∧
      ∃ cs, splitFraction ((l.body ++ rest).dropWhile isDigit) = ((l.extend rest).fraction, cs) ∧
        exponent? cs = (l.extend rest).exponent := by
  obtain ⟨blanks, sign, whole, fraction, exponent⟩ := l
  have digits := h.whole
  simp only [body, List.append_assoc]
  cases fraction with
  | some ds =>
    have point : ∀ cs, (whole ++ '.' :: cs).takeWhile isDigit = whole ∧
        (whole ++ '.' :: cs).dropWhile isDigit = '.' :: cs := fun cs =>
      takeWhile_append_of_stop digits (by rintro _ ⟨⟩; decide)
    simp only [Option.elim_some, List.cons_append]
    rw [(point _).1, (point _).2, splitFraction_point (h.fraction ds rfl)]
    cases exponent with
    | some e =>
      have he := h.exponent e rfl
      have letter := @takeWhile_append_of_stop isDigit [] _ nofun fun c hc =>
        (he.head_source_append rest c hc).1
      rw [List.nil_append] at letter
      rw [Option.elim_some, letter.1, letter.2, List.append_nil]
      exact ⟨rfl, _, rfl, exponent?_source_append he rest⟩
    | none => exact ⟨rfl, _, rfl, rfl⟩
  | none =>
    simp only [Option.elim_none, List.nil_append]
    cases exponent with
    | some e =>
      have he := h.exponent e rfl
      have letter := takeWhile_append_of_stop digits fun c hc => (he.head_source_append rest c hc).1
      rw [Option.elim_some, letter.1, letter.2,
        splitFraction_of_ne fun c hc => (he.head_source_append rest c hc).2]
      exact ⟨rfl, _, rfl, exponent?_source_append he rest⟩
    | none =>
      rw [Option.elim_none, List.nil_append, List.takeWhile_append_of_pos digits,
        List.dropWhile_append_of_pos digits]
      exact ⟨rfl, _, rfl, rfl⟩

/-- What is read at the start of a text is what a number that stands there grows into. -/
theorem leading?_source_append (h : l.WellFormed) (rest : List Char) :
    leading? (l.source ++ rest) = some (l.extend rest) := by
  obtain ⟨hblanks, hsign⟩ := h.split_source_append rest
  obtain ⟨hwhole, cs, hfraction, hexponent⟩ := h.split_body_append rest
  have number := mt mantissa_eq_nil_iff.2 (l.mantissa_extend_ne_nil rest h.mantissa)
  simp only [leading?, hsign, hwhole, hfraction, hexponent, hblanks, if_neg number]
  rw [← l.blanks_extend rest, ← l.sign_extend rest]

theorem wellFormed_of_leading? (h : leading? cs = some l) : l.WellFormed := by
  simp only [leading?] at h
  split at h
  · cases h
  · next number =>
    cases h
    refine ⟨List.all_eq_true.1 List.all_takeWhile, isSign_of_splitSign _,
      List.all_eq_true.1 List.all_takeWhile, isDigit_of_mem_splitFraction _, ?_,
      fun e he => wellFormed_of_exponent? he⟩
    exact mt mantissa_eq_nil_iff.1 number

theorem isPrefix_of_leading? (h : leading? cs = some l) : l.source <+: cs := by
  obtain ⟨rest, hrest⟩ := source_leading? h
  exact ⟨rest, hrest.symm⟩

theorem leading?_eq_some_iff : leading? cs = some l ↔ l.IsLongest cs := by
  have longest : ∀ {l : Leading}, leading? cs = some l → l.IsLongest cs := by
    intro l h
    refine ⟨wellFormed_of_leading? h, isPrefix_of_leading? h, ?_⟩
    rintro l' hl' ⟨rest, rfl⟩
    rw [leading?_source_append hl'] at h
    cases h
    exact l'.length_source_le_extend rest
  constructor
  · exact longest
  · intro h
    obtain ⟨rest, rfl⟩ := h.isPrefix
    have read := leading?_source_append h.wellFormed rest
    -- what is read is no longer than the longest, so it is the same text, and the same number
    have grown := longest read
    have same : (l.extend rest).source = l.source :=
      (List.prefix_of_prefix_length_le grown.isPrefix h.isPrefix
        (h.longest _ grown.wellFormed grown.isPrefix)).eq_of_length_le
          (l.length_source_le_extend rest)
    have once := leading?_source_append h.wellFormed []
    have again := leading?_source_append grown.wellFormed []
    rw [same, once, extend_nil, extend_nil] at again
    rw [read, ← again]

theorem leading?_eq_none_iff :
    leading? cs = none ↔ ∀ l : Leading, l.WellFormed → ¬l.source <+: cs := by
  constructor
  · rintro h l hl ⟨rest, rfl⟩
    rw [leading?_source_append hl] at h
    cases h
  · intro h
    cases hr : leading? cs with
    | none => rfl
    | some l => exact absurd (isPrefix_of_leading? hr) (h l (wellFormed_of_leading? hr))

end Leading

/-! ## Whole parts -/

theorem tdiv_mkRat (n : Int) {d : Nat} (hd : d ≠ 0) :
    (mkRat n d).num.tdiv (mkRat n d).den = n.tdiv d := by
  rcases hr : mkRat n d with ⟨n', d', nonzero, coprime⟩
  obtain ⟨k, hk, rfl, rfl⟩ := Rat.mkRat_num_den hd hr
  rw [Int.natCast_mul, Int.mul_tdiv_mul_of_pos_left _ _ (by omega)]

theorem tdiv_signed (s : Bool) (m d : Nat) : (signed s m).tdiv d = signed s (m / d) := by
  cases s with
  | false => rfl
  | true => exact Int.neg_tdiv m d

/-- The whole part of a finite float is its exact value cut off towards zero. -/
theorem wholeOfFloat_eq (x : Float) :
    Value.wholeOfFloat x = (parts x).toRat?.elim 0 fun r => r.num.tdiv r.den := by
  rw [Value.wholeOfFloat]
  cases parts x with
  | infinite | nan => rfl
  | finite s m q =>
    simp only [Parts.truncate?, Parts.toRat?, Option.getD_some, Option.elim_some, wholePart]
    split
    · rw [Rat.num_intCast, Rat.den_intCast, Int.natCast_one, Int.tdiv_one]
    · have power : 0 < Nat.pow 2 (-q).toNat := Nat.pow_pos (by decide)
      rw [tdiv_mkRat _ (Nat.ne_of_gt power), tdiv_signed]

end Numeral

/-! ## Casts of texts -/

namespace Value

open Numeral (Leading leading? maxDigits parts isFinite)

variable {v : Value} {cs : List Char} {l : Leading}

theorem castInteger_of_isLongest (h : v.chars? = some cs) (hl : l.IsLongest cs) :
    v.castInteger = integerOfLeading l := by
  rw [castInteger_of_chars h, Leading.leading?_eq_some_iff.2 hl]
  rfl

theorem castFloat_of_isLongest (h : v.chars? = some cs) (hl : l.IsLongest (commaAsPoint cs)) :
    v.castFloat = (floatOfLeading l).map finiteOrZero := by
  rw [castFloat_of_chars h, Leading.leading?_eq_some_iff.2 hl]
  rfl

/-- **The loose casts of a text by its longest number.**  A text or byte string that starts with no
    number gives zero, and where there is a separator among the blanks before its longest number it
    fails.  Otherwise an integer gives exactly what its digits denote unless there are too many, and
    any other number what its float has before the point, or zero if the float is infinite.  The
    float cast takes commas for points, and gives the float of the longest number, or zero. -/
theorem cast_longest (h : v.chars? = some cs) :
    ((∀ l : Leading, l.WellFormed → ¬l.source <+: cs) → v.castInteger = .ok 0) ∧
      ((∀ l : Leading, l.WellFormed → ¬l.source <+: commaAsPoint cs) → v.castFloat = .ok 0) ∧
      (∀ l : Leading, l.IsLongest cs →
        (l.isSeparated = true → v.castInteger = .error
          (if l.isInteger then .notInteger (String.ofList ((Text.quoted l.source).take quoteLimit))
            else .notDecimal (String.ofList (Text.quoted l.source)))) ∧
        (l.isSeparated = false → l.isInteger = true →
          (l.whole.length ≤ maxDigits → v.castInteger = .ok l.integer) ∧
            (maxDigits < l.whole.length →
              v.castInteger = .error (.numeralTooLong l.whole.length))) ∧
        (l.isSeparated = false → l.isInteger = false →
          v.castInteger = .ok ((parts l.toFloat).toRat?.elim 0 fun r => r.num.tdiv r.den))) ∧
      ∀ l : Leading, l.IsLongest (commaAsPoint cs) →
        (l.isSeparated = true →
          v.castFloat = .error (.notDecimal (String.ofList (Text.quoted l.source)))) ∧
        (l.isSeparated = false →
          v.castFloat = .ok (if isFinite l.toFloat then l.toFloat else 0)) := by
  refine ⟨fun absent => ?_, fun absent => ?_, fun l hl => ?_, fun l hl => ?_⟩
  · rw [castInteger_of_chars h, Leading.leading?_eq_none_iff.2 absent]
    rfl
  · rw [castFloat_of_chars h, Leading.leading?_eq_none_iff.2 absent]
    rfl
  · rw [castInteger_of_isLongest h hl, integerOfLeading, floatOfLeading]
    refine ⟨fun hs => ?_, fun hs hi => ⟨fun few => ?_, fun many => ?_⟩, fun hs hi => ?_⟩
    · rw [if_pos hs, if_pos hs]
      split <;> rfl
    · rw [if_pos hi, hs, if_neg Bool.false_ne_true, if_neg (Nat.not_lt.2 few)]
    · rw [if_pos hi, hs, if_neg Bool.false_ne_true, if_pos many]
    · rw [hi, hs, if_neg Bool.false_ne_true, if_neg Bool.false_ne_true, ← Numeral.wholeOfFloat_eq]
      rfl
  · rw [castFloat_of_isLongest h hl, floatOfLeading]
    refine ⟨fun hs => ?_, fun hs => ?_⟩
    · rw [if_pos hs]
      rfl
    · rw [hs, if_neg Bool.false_ne_true]
      rfl

/-- The longest number ends before the comma in one cast, and before the letter in the other. -/
theorem cast_longest_decimal :
    let v := Value.text "\t-12,5e+x"
    let l : Leading := ⟨['\t'], some '-', ['1', '2'], Option.none, Option.none⟩
    let l' : Leading := ⟨['\t'], some '-', ['1', '2'], some ['5'], Option.none⟩
    v.chars? = some "\t-12,5e+x".toList ∧ l.IsLongest "\t-12,5e+x".toList ∧
      l'.IsLongest "\t-12.5e+x".toList ∧ v.castInteger = .ok (-12) ∧ v.castFloat = .ok (-12.5) := by
  intro v l l'
  have hl : l.IsLongest "\t-12,5e+x".toList := Leading.leading?_eq_some_iff.1 (by rfl)
  have hl' : l'.IsLongest (commaAsPoint "\t-12,5e+x".toList) :=
    Leading.leading?_eq_some_iff.1 (by rfl)
  have digits : Numeral.valueOf l'.mantissa = 125 := by decide
  have value : l'.toFloat = -12.5 := by
    show Numeral.ofDecimal true (Numeral.valueOf l'.mantissa) (-1) = _
    rw [digits, Numeral.ofDecimal, if_pos rfl, if_neg (by decide), if_neg (by decide)]
    rfl
  have finite : isFinite (-12.5) = true := by decide +kernel
  obtain ⟨-, -, integer, float⟩ := cast_longest (v := v) rfl
  refine ⟨rfl, hl, hl', ((integer l hl).2.1 rfl rfl).1 (by decide), ?_⟩
  rw [(float l' hl').2 rfl, value, if_pos finite]

end Value

end SqlWeave
