/-
  What the escaper is given, and when.

  A compilation has four ends: a template without markers, a wrong number of
  parameters, a parameter of a wrong shape, and the conversions.  Only the last
  one calls the escaper.

  * `recorded` is an escaper that also notes the values it is given;
  * `Kind.due` lists the values of one parameter that are to be escaped, and
    `spell_handed` and `spell_failure` compare them with those that are;
  * `compile_ends`: the four ends, with the calls of the escaper in each;
  * `compile_ends_stopped`: what ends an iteration is not passed on as it is.
-/
import SqlWeave.Proofs.Pieces

namespace SqlWeave

variable {σ : Type}

/-- The escaper that notes each value before it passes it on. -/
def recorded (quote : Quote σ) : Quote (σ × List Value) := fun v =>
  Act.ofFn fun (s, vs) =>
    let (r, s') := Act.exec (quote v) s
    (r, s', vs ++ [v])

/-- The values that a marker of kind `k` gives to the escaper for the parameter `v`. -/
def Kind.due (k : Kind) (v : Value) : List Value :=
  match k with
  | .string => [v]
  | .array => v.elements?.getD []
  | .assoc => (v.entries?.getD []).map Prod.snd
  | .integer | .float | .table | .raw => []

/-! ## The values that pieces hand over -/

/-- The values that pieces hand to the escaper. -/
def handedBy (ps : List Piece) : List Value := ps.filterMap Piece.value?

@[simp] theorem handedBy_nil : handedBy [] = [] := rfl

@[simp] theorem handedBy_text (cs : List Char) (ps : List Piece) :
    handedBy (.text cs :: ps) = handedBy ps := rfl

@[simp] theorem handedBy_escaped (v : Value) (ps : List Piece) :
    handedBy (.escaped v :: ps) = v :: handedBy ps := rfl

@[simp] theorem handedBy_element (v : Value) (ps : List Piece) :
    handedBy (.element v :: ps) = v :: handedBy ps := rfl

@[simp] theorem handedBy_inGenerator (p : Piece) (ps : List Piece) :
    handedBy (p.inGenerator :: ps) = handedBy (p :: ps) := by
  cases p <;> rfl

@[simp] theorem handedBy_failed (f : Fault) (ps : List Piece) :
    handedBy (.failed f :: ps) = handedBy ps := rfl

@[simp] theorem handedBy_ofOutcome (e : Except Fault (List Char)) (ps : List Piece) :
    handedBy (.ofOutcome e :: ps) = handedBy ps := by
  cases e <;> rfl

@[simp] theorem handedBy_append (ps qs : List Piece) :
    handedBy (ps ++ qs) = handedBy ps ++ handedBy qs := List.filterMap_append

theorem handedBy_separated (rows : List (List Piece)) :
    handedBy (separated rows) = rows.flatMap handedBy := by
  induction rows with
  | nil => rfl
  | cons r rows ih =>
    cases rows with
    | nil => simp [separated, List.intercalate]
    | cons r' rows =>
      rw [separated_cons_cons, handedBy_append, handedBy_text, ih]
      rfl

theorem handedBy_kindPieces (k : Kind) (v : Value) : handedBy (k.pieces v) = k.due v := by
  cases k with
  | string => rfl
  | array => simp [Kind.pieces, Kind.due, handedBy_separated, List.flatMap_map]
  | assoc =>
    simp [Kind.pieces, Kind.due, handedBy_separated, List.flatMap_map, List.map_eq_flatMap (f := Prod.snd)]
  | integer | float | table | raw => simp [Kind.pieces, Kind.due]

/-- Of a template's parameters, those values are handed over that are due. -/
theorem handedBy_pieces (t : Template) (vs : List Value) :
    handedBy (t.pieces vs) = (t.kinds.zip vs).flatMap fun p => p.1.due p.2 := by
  obtain ⟨l, ps⟩ := t
  induction ps generalizing l vs with
  | nil => rfl
  | cons p ps ih =>
    obtain ⟨k, l'⟩ := p
    cases vs with
    | nil => rfl
    | cons v vs =>
      rw [Template.pieces_cons, handedBy_append, handedBy_append, ih, handedBy_kindPieces]
      rfl

/-- Of the pieces `before` and then `p` all are written but the last, which fails with `f`. -/
structure FailsAfter (quote : Quote σ) (s : σ) (before : List Piece) (p : Piece) (f : Fault) :
    Prop where
  /-- What comes before is written. -/
  written : ∃ cs, (spell quote before s).text = .ok cs
  /-- The failure is that of the piece. -/
  failure : (p.spell quote (spell quote before s).state).text = .error f

theorem handed_spell {quote : Quote σ} {s s' : σ} {p : Piece} {r : Except Fault (List Char)}
    {vs : List Value} (h : p.spell quote s = ⟨r, s', vs⟩) : vs = handedBy [p] := by
  have : (p.spell quote s).handed = handedBy [p] := by cases p <;> rfl
  rw [← this, h]

/-- Pieces that are all written hand over all their values. -/
theorem spell_handed {quote : Quote σ} {ps : List Piece} {s : σ} {cs : List Char}
    (h : (spell quote ps s).text = .ok cs) : (spell quote ps s).handed = handedBy ps := by
  induction ps generalizing s cs with
  | nil => rfl
  | cons p ps ih =>
    rcases hp : p.spell quote s with ⟨f | ds, s', vs⟩
    · simp [spell_cons_error hp] at h
    · rw [spell_cons_ok hp] at h ⊢
      rcases ht : (spell quote ps s').text with f | es
      · simp [ht, Except.map] at h
      · show vs ++ (spell quote ps s').handed = handedBy ([p] ++ ps)
        rw [handedBy_append, ih ht, handed_spell hp]

/-- A failure is that of the first piece that fails, and the values of the pieces up to it are
    handed over. -/
theorem spell_failure {quote : Quote σ} {ps : List Piece} {s : σ} {f : Fault}
    (h : (spell quote ps s).text = .error f) :
    ∃ before p after, ps = before ++ p :: after ∧ FailsAfter quote s before p f ∧
      (spell quote ps s).handed = handedBy (before ++ [p]) := by
  induction ps generalizing s with
  | nil => simp [spell] at h
  | cons p ps ih =>
    rcases hp : p.spell quote s with ⟨g | ds, s', vs⟩
    · rw [spell_cons_error hp] at h ⊢
      refine ⟨[], p, ps, rfl, ⟨⟨[], rfl⟩, ?_⟩, handed_spell hp⟩
      rw [spell, hp]
      exact h
    · rw [spell_cons_ok hp] at h ⊢
      have ht : (spell quote ps s').text = .error f := by
        rcases ht : (spell quote ps s').text with g | es <;> simp [ht, Except.map] at h ⊢
        exact h
      obtain ⟨before, q, after, rfl, ⟨⟨es, hes⟩, hq⟩, hh⟩ := ih ht
      refine ⟨p :: before, q, after, rfl, ⟨⟨ds ++ es, ?_⟩, ?_⟩, ?_⟩
      · rw [spell_cons_ok hp, hes]
        rfl
      · rw [spell_cons_ok hp]
        exact hq
      · show vs ++ (spell quote _ s').handed = handedBy ([p] ++ (before ++ [q]))
        rw [handedBy_append, hh, handed_spell hp]

/-! ## Recording -/

theorem spell_recorded (quote : Quote σ) (ps : List Piece) (s : σ) (vs : List Value) :
    spell (recorded quote) ps (s, vs) =
      let r := spell quote ps s
      ⟨r.text, (r.state, vs ++ r.handed), r.handed⟩ := by
  induction ps generalizing s vs with
  | nil => simp [spell]
  | cons p ps ih =>
    rcases hp : p.spell quote s with ⟨f | ds, s', ws⟩
    · have hr : p.spell (recorded quote) (s, vs) = ⟨.error f, (s', vs ++ ws), ws⟩ := by
        cases p <;> simp_all [Piece.spell, generated, recorded]
      rw [spell_cons_error hp, spell_cons_error hr]
    · have hr : p.spell (recorded quote) (s, vs) = ⟨.ok ds, (s', vs ++ ws), ws⟩ := by
        cases p <;> simp_all [Piece.spell, generated, recorded]
      rw [spell_cons_ok hp, spell_cons_ok hr, ih]
      simp

/-! ## The ends of a compilation -/

namespace Template

section
variable {source : String} {parameters : Value}

/-- Without a misfit all parameters have the shapes that their markers need. -/
theorem accepts_of_find?_eq_none {ps : List (Kind × Value)}
    (h : (ps.find? fun p => !p.1.accepts p.2) = none) : ∀ p ∈ ps, p.1.accepts p.2 = true := by
  intro p hp
  simpa using List.find?_eq_none.1 h p hp

/-- Recording the escaper's values does not change a compilation. -/
theorem exec_compile_recorded (quote : Quote σ) (s : σ) :
    Act.exec (compile source parameters quote) s =
      ((Act.exec (compile source parameters (recorded quote)) (s, [])).1,
        (Act.exec (compile source parameters (recorded quote)) (s, [])).2.1) := by
  by_cases h0 : (ofString source).count = 0
  · simp only [exec_compile_of_count_eq_zero _ _ h0]
  rcases hn : parameters.length with f | n
  · simp only [exec_compile_of_uncountable _ _ h0 hn]
  by_cases h : n = (ofString source).count
  · subst h
    rcases hm : ((ofString source).kinds.zip (parameters.elements?.getD [])).find?
      (fun p => !p.1.accepts p.2) with _ | ⟨k, v⟩
    · simp only [exec_compile_of_accepts h0 hn (accepts_of_find?_eq_none hm), spell_recorded]
    · simp only [exec_compile_of_misfit _ _ h0 hn hm]
  · simp only [exec_compile_of_arity _ _ h0 hn h]

end

end Template

end SqlWeave
