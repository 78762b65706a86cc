/-
  A compilation is one reading of the template.

  Compiling splits a template, converts all parameters and puts the texts into
  the places of the markers.  `reading` does all of this while it reads the
  template once from left to right: at a marker it writes the conversion of the
  next parameter, and any other character it copies.  What it has written it
  does not read.

  * `reading_ofChars`: the reading is the filled template, and it has used as
    many parameters as there are markers;
  * `compile_eq_ok_iff_reading`: a compilation returns a text exactly when the
    reading does, the same text, and leaves no parameter over.
-/
import SqlWeave.Proofs.Pieces
import SqlWeave.Proofs.Splitting

namespace SqlWeave

variable {σ : Type}

/-- The kind whose marker consists of two characters. -/
def Kind.ofChars? (c d : Char) : Option Kind := if c = '?' then ofLetter? d else none

/-- The text and the unused parameters after reading a template once, where `convert` gives the
    texts of the parameters. -/
def reading (convert : Kind → Value → Except Fault (List Char)) :
    List Char → List Value → Option (List Char × List Value)
  | [], vs => some ([], vs)
  | [c], vs => some ([c], vs)
  | c :: d :: cs, vs =>
    match Kind.ofChars? c d with
    | some k => match vs with
      | [] => none
      | v :: vs => do
        let text ← (convert k v).toOption
        let (rest, unused) ← reading convert cs vs
        return (text ++ rest, unused)
    | none => do
      let (rest, unused) ← reading convert (d :: cs) vs
      return (c :: rest, unused)

section
variable (convert : Kind → Value → Except Fault (List Char))

@[simp] theorem reading_nil (vs : List Value) : reading convert [] vs = some ([], vs) := by
  rw [reading]

theorem reading_marker_nil (k : Kind) (cs : List Char) :
    reading convert (k.marker ++ cs) [] = none := by
  simp [Kind.marker, reading, Kind.ofChars?, Kind.ofLetter?_letter]

theorem reading_marker_cons (k : Kind) (cs : List Char) (v : Value) (vs : List Value) :
    reading convert (k.marker ++ cs) (v :: vs) =
      (convert k v).toOption.bind fun text =>
        (reading convert cs vs).map fun r => (text ++ r.1, r.2) := by
  simp only [Kind.marker, List.cons_append, List.nil_append, reading, Kind.ofChars?, if_true,
    Kind.ofLetter?_letter]
  cases (convert k v).toOption <;> cases reading convert cs vs <;> rfl

/-- Reading on from a marker takes one parameter. -/
theorem reading_marker_eq_some {convert : Kind → Value → Except Fault (List Char)} {k : Kind}
    {cs out : List Char} {vs unused : List Value}
    (h : reading convert (k.marker ++ cs) vs = some (out, unused)) :
    ∃ v vs' text rest, vs = v :: vs' ∧ convert k v = .ok text ∧
      reading convert cs vs' = some (rest, unused) ∧ out = text ++ rest := by
  cases vs with
  | nil =>
    rw [reading_marker_nil] at h
    cases h
  | cons v vs =>
    rw [reading_marker_cons, Option.bind_eq_some_iff] at h
    obtain ⟨text, ht, h⟩ := h
    obtain ⟨⟨rest, unused'⟩, hr, he⟩ := Option.map_eq_some_iff.1 h
    cases he
    exact ⟨v, vs, text, rest, rfl, toOption_eq_some_iff.1 ht, hr, rfl⟩

theorem reading_cons {c : Char} {cs : List Char} (h : ¬ Template.OpensMarker (c :: cs))
    (vs : List Value) :
    reading convert (c :: cs) vs = (reading convert cs vs).map fun r => (c :: r.1, r.2) := by
  cases cs with
  | nil => simp [reading]
  | cons d cs =>
    have hk : Kind.ofChars? c d = none := by
      rw [Kind.ofChars?]
      split_ifs with hc
      · rcases hd : Kind.ofLetter? d with _ | k
        · rfl
        · exact absurd ⟨k, Template.marker_prefix_iff.2 ⟨hc, Kind.ofLetter?_eq_some_iff.1 hd⟩⟩ h
      · rfl
    simp only [reading, hk]
    cases reading convert (d :: cs) vs <;> rfl

/-- A character that begins no marker is copied. -/
theorem reading_cons_eq_some {convert : Kind → Value → Except Fault (List Char)} {c : Char}
    {cs out : List Char} {vs unused : List Value} (hc : ¬ Template.OpensMarker (c :: cs))
    (h : reading convert (c :: cs) vs = some (out, unused)) :
    ∃ rest, reading convert cs vs = some (rest, unused) ∧ out = c :: rest := by
  rw [reading_cons convert hc] at h
  obtain ⟨⟨rest, unused'⟩, hr, he⟩ := Option.map_eq_some_iff.1 h
  cases he
  exact ⟨rest, hr, rfl⟩

end

/-- The texts of several parameters, each with its kind. -/
def convertEach (convert : Kind → Value → Except Fault (List Char)) (ps : List (Kind × Value)) :
    Except Fault (List (List Char)) := ps.mapM fun p => convert p.1 p.2

theorem convertEach_cons (convert : Kind → Value → Except Fault (List Char)) (k : Kind) (v : Value)
    (ps : List (Kind × Value)) :
    convertEach convert ((k, v) :: ps) = do
      let text ← convert k v
      let texts ← convertEach convert ps
      return text :: texts := List.mapM_cons

namespace Template

@[simp] theorem kinds_push (c : Char) (t : Template) : (push c t).kinds = t.kinds := rfl

@[simp] theorem kinds_pushKind (k : Kind) (t : Template) :
    (pushKind k t).kinds = k :: t.kinds := rfl

@[simp] theorem count_push (c : Char) (t : Template) : (push c t).count = t.count := rfl

@[simp] theorem count_pushKind (k : Kind) (t : Template) :
    (pushKind k t).count = t.count + 1 := rfl

theorem length_kinds (t : Template) : t.kinds.length = t.count := by
  simp [kinds, count]

theorem fill_pushKind (k : Kind) (t : Template) (x : List Char) (xs : List (List Char)) :
    (pushKind k t).fill (x :: xs) = x ++ t.fill xs := by
  simp [fill, pushKind]

/-- **Reading a template once fills it.** -/
theorem reading_ofChars (convert : Kind → Value → Except Fault (List Char)) (cs : List Char)
    (vs : List Value) :
    reading convert cs vs =
      if (ofChars cs).count ≤ vs.length then
        (convertEach convert ((ofChars cs).kinds.zip vs)).toOption.map fun texts =>
          ((ofChars cs).fill texts, vs.drop (ofChars cs).count)
      else none := by
  induction cs using markerInduction generalizing vs with
  | nil => rfl
  | marker k cs ih =>
    rw [ofChars_marker, kinds_pushKind, count_pushKind]
    cases vs with
    | nil => simp [reading_marker_nil]
    | cons v vs =>
      rw [reading_marker_cons, ih, List.zip_cons_cons, List.drop_succ_cons, List.length_cons,
        convertEach_cons]
      simp only [Nat.add_le_add_iff_right]
      split_ifs with hl
      · rcases convert k v with f | text
        · rfl
        · rcases convertEach convert ((ofChars cs).kinds.zip vs) with f | texts
          · rfl
          · have := fill_pushKind k (ofChars cs) text texts
            simp [Except.toOption, bind, Except.bind, pure, Except.pure, this]
      · cases (convert k v).toOption <;> rfl
  | char c cs h ih =>
    rw [reading_cons convert h, ih, ofChars_cons h, kinds_push, count_push]
    split_ifs with hl
    · rw [Option.map_map]
      rfl
    · rfl

theorem reading_eq_some_iff {convert : Kind → Value → Except Fault (List Char)} {source : String}
    {vs unused : List Value} {out : List Char} :
    reading convert source.toList vs = some (out, unused) ↔
      (ofString source).count ≤ vs.length ∧ vs.drop (ofString source).count = unused ∧
        ∃ texts, convertEach convert ((ofString source).kinds.zip vs) = .ok texts ∧
          (ofString source).fill texts = out := by
  rw [reading_ofChars, ← ofString]
  split_ifs with hl
  · simp only [Option.map_eq_some_iff, toOption_eq_some_iff, Prod.mk.injEq, hl, true_and]
    constructor
    · rintro ⟨texts, ht, rfl, hu⟩
      exact ⟨hu, texts, ht, rfl⟩
    · rintro ⟨hu, texts, ht, rfl⟩
      exact ⟨texts, ht, rfl, hu⟩
  · simp [hl]

/-! ## Compilations with a quiet escaper -/

/-- The text of a parameter, if it is converted in the state `s`. -/
def converted (quote : Quote σ) (s : σ) (k : Kind) (v : Value) : Except Fault (List Char) :=
  (Act.exec (k.convert v quote) s).1

/-- With a quiet escaper the parameters are converted each by itself. -/
theorem exec_convertAll_of_quiet {quote : Quote σ} (hq : Quiet quote) (ps : List (Kind × Value))
    (s : σ) : Act.exec (convertAll quote ps) s = (convertEach (converted quote s) ps, s) := by
  have h : ∀ p : Kind × Value,
      Act.exec (p.1.convert p.2 quote) s = (converted quote s p.1 p.2, s) :=
    fun p => Prod.ext rfl (Kind.convert_quiet hq p.1 p.2 s)
  exact Act.exec_mapM h ps

theorem accepts_of_converted {quote : Quote σ} {s : σ} {k : Kind} {v : Value} {text : List Char}
    (h : converted quote s k v = .ok text) : k.accepts v = true := by
  by_contra hv
  rw [converted, Kind.convert_of_not_accepts hv] at h
  simp at h

/-- Only parameters of the right shapes are converted. -/
theorem accepts_of_convertEach {quote : Quote σ} {s : σ} {ps : List (Kind × Value)}
    {texts : List (List Char)} (h : convertEach (converted quote s) ps = .ok texts) :
    ∀ p ∈ ps, p.1.accepts p.2 = true := by
  induction ps generalizing texts with
  | nil => simp
  | cons p ps ih =>
    obtain ⟨k, v⟩ := p
    rw [convertEach_cons, bind_eq_ok_iff] at h
    obtain ⟨text, hv, h⟩ := h
    obtain ⟨texts', ht, -⟩ := bind_eq_ok_iff.1 h
    simpa [accepts_of_converted hv] using ih ht

/-- Where the number of parameters is right, a compilation fills the template with the texts of the
    parameters, if each of them has one. -/
theorem compile_eq_ok_iff {quote : Quote σ} (hq : Quiet quote) {source : String}
    {parameters : Value} {s : σ} {text : String} (h0 : (ofString source).count ≠ 0)
    (hn : parameters.length = .ok (ofString source).count) :
    (Act.exec (compile source parameters quote) s).1 = .ok text ↔
      ∃ texts, convertEach (converted quote s)
          ((ofString source).kinds.zip (parameters.elements?.getD [])) = .ok texts ∧
        String.ofList ((ofString source).fill texts) = text := by
  rw [exec_compile]
  simp only [h0, hn, if_false, ne_eq, not_true_eq_false]
  rcases hc : checkShapes _ with f | _
  · -- a parameter of a wrong shape has no text
    simp only [reduceCtorEq, false_iff, not_exists, not_and]
    intro texts ht
    rw [checkShapes_eq_ok_iff.2 (accepts_of_convertEach ht)] at hc
    cases hc
  · simp only [exec_convertAll_of_quiet hq, map_eq_ok_iff]

theorem kinds_of_count_eq_zero {t : Template} (h0 : t.count = 0) : t.kinds = [] :=
  List.eq_nil_of_length_eq_zero (by rw [length_kinds, h0])

theorem fill_nil_of_count_eq_zero {s : String} (h0 : (ofString s).count = 0) :
    (ofString s).fill [] = s.toList := by
  have h := source_ofChars s.toList
  have ht : (ofChars s.toList).tail = [] := List.eq_nil_of_length_eq_zero h0
  rw [source, ht] at h
  exact h

/-- What a compilation returns is read, and all parameters are used up if there is any marker. -/
theorem reading_of_compile {quote : Quote σ} (hq : Quiet quote) {source text : String}
    {parameters : Value} {s : σ} (h : (Act.exec (compile source parameters quote) s).1 = .ok text) :
    ∃ unused,
      reading (converted quote s) source.toList (parameters.elements?.getD []) =
        some (text.toList, unused) ∧
      ((ofString source).count ≠ 0 → unused = [] ∧ ∃ n, parameters.length = .ok n) := by
  by_cases h0 : (ofString source).count = 0
  · rw [exec_compile_of_count_eq_zero _ _ h0] at h
    cases h
    refine ⟨_, reading_eq_some_iff.2 ⟨?_, rfl, [], ?_, fill_nil_of_count_eq_zero h0⟩, absurd h0⟩
    · rw [h0]
      exact Nat.zero_le _
    · rw [kinds_of_count_eq_zero h0]
      rfl
  rcases hn : parameters.length with f | n
  · rw [exec_compile_of_uncountable _ _ h0 hn] at h
    cases h
  have hl := Value.length_elements hn
  by_cases hc : n = (ofString source).count
  · subst hc
    obtain ⟨texts, ht, rfl⟩ := (compile_eq_ok_iff hq h0 hn).1 h
    refine ⟨[], reading_eq_some_iff.2 ⟨Nat.le_of_eq hl.symm, ?_, texts, ht, by simp⟩, ?_⟩
    · exact List.drop_of_length_le (Nat.le_of_eq hl)
    · exact fun _ => ⟨rfl, _, rfl⟩
  · rw [exec_compile_of_arity _ _ h0 hn hc] at h
    cases h

/-- What is read with no parameter left over is the text of a compilation. -/
theorem compile_of_reading {quote : Quote σ} (hq : Quiet quote) {source text : String}
    {parameters : Value} {s : σ} {unused : List Value}
    (h : reading (converted quote s) source.toList (parameters.elements?.getD []) =
      some (text.toList, unused))
    (hu : (ofString source).count ≠ 0 → unused = [] ∧ ∃ n, parameters.length = .ok n) :
    (Act.exec (compile source parameters quote) s).1 = .ok text := by
  obtain ⟨hle, hd, texts, ht, hf⟩ := reading_eq_some_iff.1 h
  by_cases h0 : (ofString source).count = 0
  · obtain rfl : texts = [] := by
      rw [kinds_of_count_eq_zero h0] at ht
      exact (Except.ok.inj ht).symm
    rw [fill_nil_of_count_eq_zero h0, String.toList_inj] at hf
    rw [exec_compile_of_count_eq_zero _ _ h0, hf]
  obtain ⟨rfl, n, hn⟩ := hu h0
  have hl := Value.length_elements hn
  -- nothing unused means that there are no more parameters than markers
  rw [List.drop_eq_nil_iff] at hd
  obtain rfl : n = (ofString source).count := by omega
  exact (compile_eq_ok_iff hq h0 hn).2 ⟨texts, ht, by rw [hf, String.ofList_toList]⟩

/-- **A compilation is one reading of the template.**  With an escaper that has no side effects, a
    compilation returns a text exactly when reading the template once from left to right gives that
    text, and all parameters are used up if there is any marker. -/
theorem compile_eq_ok_iff_reading {quote : Quote σ} (hq : Quiet quote) (source : String)
    (parameters : Value) (s : σ) (text : String) :
    (Act.exec (compile source parameters quote) s).1 = .ok text ↔
      ∃ unused,
        reading (converted quote s) source.toList (parameters.elements?.getD []) =
          some (text.toList, unused) ∧
        ((ofString source).count ≠ 0 → unused = [] ∧ ∃ n, parameters.length = .ok n) := by
  constructor
  · exact reading_of_compile hq
  · rintro ⟨unused, h, hu⟩
    exact compile_of_reading hq h hu

/-- Markers in a value are not read again. -/
theorem reading_value_with_markers :
    let source := "a = ?s AND b IN (?a)"
    let parameters : Value := .list [.text "?i", .list [.text "?s", .text "c?"]]
    Quiet (literalQuote : Quote Unit) ∧ ∃ unused,
      reading (converted literalQuote ()) source.toList (parameters.elements?.getD []) =
        some ("a = '?i' AND b IN ('?s', 'c?')".toList, unused) ∧
      ((ofString source).count ≠ 0 → unused = [] ∧ ∃ n, parameters.length = .ok n) :=
  ⟨quiet_literalQuote, (compile_eq_ok_iff_reading quiet_literalQuote _ _ _ _).1 rfl⟩

end Template

end SqlWeave
