/-
  The warnings of a template, by position.

  The warnings are made line by line, and within a line text by text, while a
  compilation splits the whole template at once.

  * `attention` lists the warnings by the positions of the whole text, and
    `attention_cons` follows it from one character to the next;
  * `lineWarnings_eq` and `warningsFrom_eq`: neither the splitting of a line at
    its markers nor the splitting of the text into lines loses or adds one;
  * `warnings_eq`: the warnings of a template are those of its positions, and
    those about markers are about the markers that a compilation fills without
    escaping.
-/
import SqlWeave.Proofs.Places
import SqlWeave.Template.Warning

namespace SqlWeave.Template

/-! ## Warnings by position -/

/-- The letters of the markers whose values are escaped or cast. -/
def safeLetters : List Char := ['s', 'i', 'f', 'a', 'A']

/-- At position `i` a question mark stands before a letter, and the two are no marker whose value is
    escaped or cast. -/
def NeedsAttention (cs : List Char) (i : Nat) : Prop :=
  cs[i]? = some '?' ∧ ∃ d ∈ cs[i + 1]?, Text.isLetter d = true ∧ d ∉ safeLetters

instance (cs : List Char) (i : Nat) : Decidable (NeedsAttention cs i) :=
  inferInstanceAs (Decidable (_ ∧ _))

/-- The line of position `i`, if the first line has the number `first`. -/
def lineAt (first : Nat) (cs : List Char) (i : Nat) : Nat := first + (cs.take i).count '\n'

/-- The warning about position `i`. -/
def warningAt (first : Nat) (cs : List Char) (i : Nat) : Warning :=
  ⟨(cs.drop i).take 2, lineAt first cs i, (cs[i + 1]?).bind Kind.ofLetter?⟩

/-- The warnings about the positions that need attention, from left to right. -/
def attention (first : Nat) (cs : List Char) : List Warning :=
  ((List.range cs.length).filter (NeedsAttention cs ·)).map (warningAt first cs)

/-- The warning about a character, by the character after it. -/
def pairWarnings (line : Nat) (c : Char) : Option Char → List Warning
  | some d =>
    if c = '?' ∧ Text.isLetter d = true ∧ d ∉ safeLetters then
      [⟨[c, d], line, Kind.ofLetter? d⟩]
    else []
  | none => []

/-- The number of the line after a character. -/
def lineAfter (line : Nat) (c : Char) : Nat := if c = '\n' then line + 1 else line

theorem warningAt_cons_succ (first : Nat) (c : Char) (cs : List Char) (i : Nat) :
    warningAt first (c :: cs) (i + 1) = warningAt (lineAfter first c) cs i := by
  have hl : lineAt first (c :: cs) (i + 1) = lineAt (lineAfter first c) cs i := by
    simp only [lineAt, lineAfter, List.take_succ_cons, List.count_cons, beq_iff_eq]
    split <;> omega
  rw [warningAt, hl]
  rfl

/-- The warnings of a text are that about its first character and those of the rest. -/
theorem attention_cons (first : Nat) (c : Char) (cs : List Char) :
    attention first (c :: cs) =
      pairWarnings first c cs.head? ++ attention (lineAfter first c) cs := by
  have hrest : ((List.range cs.length).map Nat.succ |>.filter (NeedsAttention (c :: cs) ·)).map
      (warningAt first (c :: cs)) = attention (lineAfter first c) cs := by
    rw [List.filter_map, List.map_map, attention]
    congr 1
    funext i
    exact warningAt_cons_succ first c cs i
  have hhead : pairWarnings first c cs.head? =
      if NeedsAttention (c :: cs) 0 then [warningAt first (c :: cs) 0] else [] := by
    cases cs with
    | nil => simp [pairWarnings, NeedsAttention]
    | cons d cs => simp [pairWarnings, NeedsAttention, warningAt, lineAt]
  rw [attention, List.length_cons, List.range_succ_eq_map, List.filter_cons, hhead, ← hrest]
  split_ifs with h₁ h₂ h₂
  · rfl
  · exact absurd (of_decide_eq_true h₁) h₂
  · exact absurd (decide_eq_true h₂) h₁
  · rfl

theorem pairWarnings_of_not_letter {line : Nat} {c : Char} {next : Option Char}
    (h : ∀ d ∈ next, Text.isLetter d = false) : pairWarnings line c next = [] := by
  cases next with
  | none => rfl
  | some d => simp [pairWarnings, h d rfl]

theorem pairWarnings_of_ne {line : Nat} {c : Char} {next : Option Char} (h : c ≠ '?') :
    pairWarnings line c next = [] := by
  cases next <;> simp [pairWarnings, h]

/-! ## Within a line -/

theorem letter_ne_newline (k : Kind) : k.letter ≠ '\n' := by
  cases k <;> decide

theorem pairWarnings_letter (line : Nat) (k : Kind) :
    pairWarnings line '?' (some k.letter) = kindWarnings line k := by
  cases k <;> rfl

/-- A marker has its own warnings, whatever stands after it. -/
theorem attention_marker (line : Nat) (k : Kind) (cs : List Char) :
    attention line (k.marker ++ cs) = kindWarnings line k ++ attention line cs := by
  have hq : lineAfter line '?' = line := rfl
  have hl : lineAfter line k.letter = line := if_neg (letter_ne_newline k)
  show attention line ('?' :: k.letter :: cs) = _
  rw [attention_cons, attention_cons, hq, hl, pairWarnings_of_ne k.letter_ne_question,
    List.nil_append, List.head?_cons, pairWarnings_letter]

theorem unknownMarkers_cons (c : Char) (cs : List Char) :
    unknownMarkers (c :: cs) =
      (match cs.head? with
        | some d => if c = '?' ∧ Text.isLetter d = true then [[c, d]] else []
        | none => []) ++ unknownMarkers cs := by
  cases cs with
  | nil => rfl
  | cons d cs =>
    rw [unknownMarkers]
    split_ifs with h <;> simp [h]

/-- Outside of markers a letter that makes none is reported, and so is no other. -/
theorem literalWarnings_cons {line : Nat} {c : Char} {cs : List Char}
    (h : ¬ OpensMarker (c :: cs)) :
    literalWarnings line (c :: cs) = pairWarnings line c cs.head? ++ literalWarnings line cs := by
  rw [literalWarnings, unknownMarkers_cons, List.map_append]
  congr 1
  cases cs with
  | nil => rfl
  | cons d cs =>
    -- after a question mark, `d` is the letter of no marker at all
    by_cases hc : c = '?' ∧ Text.isLetter d = true
    · have hd : ∀ k : Kind, d ≠ k.letter := fun k hk => h ⟨k, marker_prefix_iff.2 ⟨hc.1, hk⟩⟩
      have hs : d ∉ safeLetters := by
        simp only [safeLetters, List.mem_cons, List.not_mem_nil, or_false, not_or]
        exact ⟨hd .string, hd .integer, hd .float, hd .array, hd .assoc⟩
      have hk : Kind.ofLetter? d = none := by
        rw [Option.eq_none_iff_forall_ne_some]
        exact fun k hk => hd k (Kind.ofLetter?_eq_some_iff.1 hk)
      simp [pairWarnings, hc, hs, hk]
    · have hp : ¬ (c = '?' ∧ Text.isLetter d = true ∧ d ∉ safeLetters) :=
        fun hp => hc ⟨hp.1, hp.2.1⟩
      simp only [List.head?_cons, pairWarnings, if_neg hc, if_neg hp, List.map_nil]

theorem lineWarnings_marker (line : Nat) (k : Kind) (cs : List Char) :
    lineWarnings line (k.marker ++ cs) = kindWarnings line k ++ lineWarnings line cs := by
  simp [lineWarnings, ofChars_marker, pushKind, literalWarnings, unknownMarkers]

/-- The text before the first marker goes on like the whole text, or the marker follows. -/
theorem pairWarnings_head (line : Nat) (c : Char) (cs : List Char) :
    pairWarnings line c (ofChars cs).head.head? = pairWarnings line c cs.head? := by
  induction cs using markerInduction with
  | nil => rfl
  | marker k cs =>
    rw [ofChars_marker]
    exact (pairWarnings_of_not_letter (by simp [Kind.marker]; rfl)).symm
  | char d cs h => rw [ofChars_cons h, push, List.head?_cons, List.head?_cons]

theorem lineWarnings_cons {line : Nat} {c : Char} {cs : List Char}
    (h : ¬ OpensMarker (c :: cs)) :
    lineWarnings line (c :: cs) = pairWarnings line c cs.head? ++ lineWarnings line cs := by
  have hh : ¬ OpensMarker (c :: (ofChars cs).head) :=
    fun ho => h (ho.of_prefix (List.cons_prefix_cons.2 ⟨rfl, head_prefix cs⟩))
  simp only [lineWarnings, ofChars_cons h, push, literalWarnings_cons hh, pairWarnings_head,
    List.append_assoc]

/-- Splitting a line at its markers changes nothing about its warnings. -/
theorem lineWarnings_eq {line : Nat} {cs : List Char} (h : '\n' ∉ cs) :
    lineWarnings line cs = attention line cs := by
  induction cs using markerInduction with
  | nil => rfl
  | marker k cs ih =>
    rw [lineWarnings_marker, attention_marker, ih fun hn => h (List.mem_append_right _ hn)]
  | char c cs hc ih =>
    have hl : lineAfter line c = line := if_neg fun hn => h (List.mem_cons.2 (.inl hn.symm))
    rw [lineWarnings_cons hc, attention_cons, hl, ih fun hn => h (List.mem_cons_of_mem _ hn)]

/-! ## Over the lines -/

theorem newline_notMem_of_mem_splitLines {cs l : List Char} (h : l ∈ splitLines cs) :
    '\n' ∉ l := by
  induction cs generalizing l with
  | nil =>
    rw [splitLines, List.mem_singleton] at h
    simp [h]
  | cons c cs ih =>
    rw [splitLines] at h
    split_ifs at h with hc
    · rcases List.mem_cons.1 h with rfl | h
      · exact List.not_mem_nil
      · exact ih h
    · rcases hs : splitLines cs with _ | ⟨l', ls⟩
      · simp only [hs, List.mem_singleton] at h
        simpa [h] using Ne.symm hc
      · simp only [hs, List.mem_cons] at h ih
        rcases h with rfl | h
        · simpa [Ne.symm hc] using ih (.inl rfl)
        · exact ih (.inr h)

/-- The first line of a text and the other lines. -/
theorem splitLines_cons_of_ne {c : Char} (hc : c ≠ '\n') (cs : List Char) :
    ∃ l ls, splitLines cs = l :: ls ∧ splitLines (c :: cs) = (c :: l) :: ls ∧
      (l.head? = cs.head? ∨ l = [] ∧ cs.head? = some '\n') := by
  cases cs with
  | nil => exact ⟨[], [], rfl, by simp [splitLines, hc], .inl rfl⟩
  | cons d ds =>
    by_cases hd : d = '\n'
    · exact ⟨[], splitLines ds, by simp [splitLines, hd], by simp [splitLines, hc, hd],
        .inr ⟨rfl, by simp [hd]⟩⟩
    · rcases hs : splitLines ds with _ | ⟨l, ls⟩
      · exact ⟨[d], [], by simp [splitLines, hd, hs], by simp [splitLines, hc, hd, hs], .inl rfl⟩
      · exact ⟨d :: l, ls, by simp [splitLines, hd, hs], by simp [splitLines, hc, hd, hs], .inl rfl⟩

/-- Splitting a text into lines changes nothing about its warnings. -/
theorem warningsFrom_eq (first : Nat) (cs : List Char) :
    warningsFrom first (splitLines cs) = attention first cs := by
  induction cs generalizing first with
  | nil => rfl
  | cons c cs ih =>
    by_cases hc : c = '\n'
    · subst hc
      have hl : lineAfter first '\n' = first + 1 := rfl
      rw [attention_cons, hl, pairWarnings_of_ne (by decide), ← ih]
      simp [splitLines, warningsFrom, lineWarnings, ofChars, literalWarnings, unknownMarkers]
    · obtain ⟨l, ls, hs, hs', hh⟩ := splitLines_cons_of_ne hc cs
      have hl : lineAfter first c = first := if_neg hc
      have hn : '\n' ∉ c :: l := newline_notMem_of_mem_splitLines (hs' ▸ List.mem_cons_self)
      have hp : pairWarnings first c l.head? = pairWarnings first c cs.head? := by
        rcases hh with hh | ⟨rfl, hh⟩
        · rw [hh]
        · -- a line feed is no letter
          rw [hh]
          exact (pairWarnings_of_not_letter (by simp; rfl)).symm
      have ih := ih first
      rw [hs, warningsFrom, lineWarnings_eq fun h => hn (List.mem_cons_of_mem _ h)] at ih
      rw [hs', warningsFrom, lineWarnings_eq hn, attention_cons, attention_cons, hl, hp,
        List.append_assoc, ih]

/-! ## Warnings about markers -/

/-- Two characters of a text, one after the other. -/
theorem take_two_drop {cs : List Char} {i : Nat} {c d : Char} (hc : cs[i]? = some c)
    (hd : cs[i + 1]? = some d) : (cs.drop i).take 2 = [c, d] := by
  obtain ⟨hi, rfl⟩ := List.getElem?_eq_some_iff.1 hc
  obtain ⟨hi', rfl⟩ := List.getElem?_eq_some_iff.1 hd
  rw [List.drop_eq_getElem_cons hi, List.drop_eq_getElem_cons hi']
  rfl

/-- A kind whose value is put in unescaped. -/
def Unescaped (k : Kind) : Prop := k = .table ∨ k = .raw

instance (k : Kind) : Decidable (Unescaped k) := inferInstanceAs (Decidable (_ ∨ _))

/-- The warning about a marker at a place of the text. -/
def placeWarning (cs : List Char) (p : Nat × Kind) : Warning :=
  ⟨p.2.marker, lineAt 1 cs p.1, some p.2⟩

/-- At one position, a warning whose two characters are `?t` or `?p` is about a marker that stands
    there. -/
theorem warning_marker (cs : List Char) (i : Nat) :
    ((if NeedsAttention cs i then some (warningAt 1 cs i) else none).filter fun w =>
        w.token = Kind.marker .table ∨ w.token = Kind.marker .raw) =
      (((markerAt? cs i).map fun k => (i, k)).filter fun p => Unescaped p.2).map
        (placeWarning cs) := by
  by_cases hq : cs[i]? = some '?'
  swap
  · simp [NeedsAttention, markerAt?, hq]
  rcases hd : cs[i + 1]? with _ | d
  · simp [NeedsAttention, markerAt?, hd]
  have hw : warningAt 1 cs i = ⟨['?', d], lineAt 1 cs i, Kind.ofLetter? d⟩ := by
    rw [warningAt, take_two_drop hq hd, hd, Option.bind_some]
  have hn : NeedsAttention cs i ↔ Text.isLetter d = true ∧ d ∉ safeLetters := by
    simp [NeedsAttention, hq, hd]
  have hm : markerAt? cs i = Kind.ofLetter? d := by
    rw [markerAt?, if_pos hq, hd, Option.bind_some]
  rw [hw, hm]
  simp only [hn]
  rcases hk : Kind.ofLetter? d with _ | k
  · -- `t` and `p` are letters of markers
    have ht : ∀ k : Kind, d ≠ k.letter := by
      rintro k rfl
      rw [Kind.ofLetter?_letter] at hk
      cases hk
    have hr : d ≠ 't' ∧ d ≠ 'p' := ⟨ht .table, ht .raw⟩
    split_ifs <;> simp [Option.filter, Kind.marker, Kind.letter, hr]
  · obtain rfl := Kind.ofLetter?_eq_some_iff.1 hk
    cases k <;> rfl

/-- **The warnings of a template are those of its positions.**  There is one for each position where
    a `?` stands before a letter that is none of `s i f a A`, from left to right and with the number
    of its line; and those with `?t` and `?p` are, in order, about the markers that a compilation
    fills with identifiers and fragments. -/
theorem warnings_eq (source : String) :
    let cs := source.toList
    let t := ofString source
    warnings source =
        ((List.range cs.length).filter (NeedsAttention cs ·)).map (warningAt 1 cs) ∧
      (warnings source).filter
          (fun w => w.token = Kind.marker .table ∨ w.token = Kind.marker .raw) =
        (t.places.filter fun p => Unescaped p.2).map (placeWarning cs) ∧
      t.places.map Prod.snd = t.kinds := by
  intro cs t
  have hw : warnings source =
      ((List.range cs.length).filter (NeedsAttention cs ·)).map (warningAt 1 cs) :=
    warningsFrom_eq 1 cs
  refine ⟨hw, ?_, map_snd_places t⟩
  have hp : t.places = scan cs := places_ofChars cs
  rw [hw, hp, scan, ← List.filterMap_eq_map, List.filterMap_filter, List.filter_filterMap,
    List.filter_filterMap, List.map_filterMap]
  congr 1
  funext i
  rw [← warning_marker]
  simp only [decide_eq_true_eq, Function.comp_apply]

example : warnings "a\n??t?s ?d" = [⟨['?', 't'], 2, some .table⟩, ⟨['?', 'd'], 2, none⟩] := by
  decide

end SqlWeave.Template
