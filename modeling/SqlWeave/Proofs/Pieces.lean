/-
  A compiled text as a row of pieces.

  A compiled text consists of characters that are written as they are and of
  values that the escaper writes.  `Kind.pieces` lists them for one marker and
  its parameter, and `Template.pieces` for a whole template; a conversion that
  fails is a piece of its own, at the place where it fails.

  A value that is written as an element of a sequence or an entry of a mapping is
  written in a generator, and so is what stands before it (`Piece.inGenerator`).

  * `spell` writes pieces from left to right: it hands each value to the escaper
    as it comes to it and ends at the first failure.  The `Spelling` keeps the
    text, the escaper's state and the values handed over;
  * `Spells` says that an action does what spelling pieces does;
  * `spells_convert` and `spells_fill`: so do the conversion of a parameter and
    the filling of a template;
  * `exec_compile_of_accepts`: a compilation that passes the checks spells the
    pieces of its template.
-/
import SqlWeave.Compile

namespace SqlWeave

variable {σ : Type}

/-- A piece of a compiled text. -/
inductive Piece where
  /-- Characters that are written as they are. -/
  | text (cs : List Char)
  /-- A value that the escaper writes. -/
  | escaped (v : Value)
  /-- A value that the escaper writes in a generator. -/
  | element (v : Value)
  /-- A conversion that fails. -/
  | failed (f : Fault)

namespace Piece

/-- The piece for a conversion that needs no escaper. -/
def ofOutcome : Except Fault (List Char) → Piece
  | .ok cs => text cs
  | .error f => failed f

/-- The value that a piece hands to the escaper. -/
def value? : Piece → Option Value
  | escaped v | element v => some v
  | _ => none

/-- The piece as it is written in a generator. -/
def inGenerator : Piece → Piece
  | text cs => text cs
  | escaped v | element v => element v
  | failed f => failed f.outOfGenerator

end Piece

/-- What came of writing pieces. -/
structure Spelling (σ : Type) where
  /-- The text, or the failure that ended it. -/
  text : Except Fault (List Char)
  /-- The state in which the escaper is left. -/
  state : σ
  /-- The values that were handed to the escaper, in order. -/
  handed : List Value

namespace Spelling

/-- Goes on with `next`, unless there was a failure. -/
def andThen (r : Spelling σ) (next : σ → Spelling σ) : Spelling σ :=
  match r.text with
  | .error _ => r
  | .ok cs =>
    let r' := next r.state
    ⟨r'.text.map (cs ++ ·), r'.state, r.handed ++ r'.handed⟩

/-- The spelling without its record of the values. -/
def outcome (r : Spelling σ) : Except Fault (List Char) × σ := (r.text, r.state)

theorem andThen_assoc (r : Spelling σ) (f g : σ → Spelling σ) :
    (r.andThen f).andThen g = r.andThen fun s => (f s).andThen g := by
  obtain ⟨_ | cs, s, vs⟩ := r
  · rfl
  · rcases h : f s with ⟨_ | cs', s', vs'⟩
    · simp [andThen, h, Except.map]
    · rcases h' : g s' with ⟨_ | cs'', s'', vs''⟩ <;> simp [andThen, h, h', Except.map]

end Spelling

/-- Writes a piece. -/
def Piece.spell (quote : Quote σ) (s : σ) : Piece → Spelling σ
  | text cs => ⟨.ok cs, s, []⟩
  | escaped v => let (r, s') := Act.exec (quote v) s; ⟨r, s', [v]⟩
  | element v => let (r, s') := Act.exec (generated (quote v)) s; ⟨r, s', [v]⟩
  | failed f => ⟨.error f, s, []⟩

/-- Writes pieces from left to right, up to the first failure. -/
def spell (quote : Quote σ) : List Piece → σ → Spelling σ
  | [], s => ⟨.ok [], s, []⟩
  | p :: ps, s => (p.spell quote s).andThen (spell quote ps)

section
variable {quote : Quote σ} {p : Piece} {ps : List Piece} {s s' : σ} {vs : List Value}

theorem spell_cons_ok {cs : List Char} (h : p.spell quote s = ⟨.ok cs, s', vs⟩) :
    spell quote (p :: ps) s = ⟨(spell quote ps s').text.map (cs ++ ·), (spell quote ps s').state,
      vs ++ (spell quote ps s').handed⟩ := by
  rw [spell, h]
  rfl

theorem spell_cons_error {f : Fault} (h : p.spell quote s = ⟨.error f, s', vs⟩) :
    spell quote (p :: ps) s = ⟨.error f, s', vs⟩ := by
  rw [spell, h]
  rfl

end

theorem spell_append (quote : Quote σ) (ps qs : List Piece) (s : σ) :
    spell quote (ps ++ qs) s = (spell quote ps s).andThen (spell quote qs) := by
  induction ps generalizing s with
  | nil =>
    rcases h : spell quote qs s with ⟨_ | cs, s', vs⟩ <;>
      simp [spell, Spelling.andThen, h, Except.map]
  | cons p ps ih =>
    rw [List.cons_append, spell, spell, Spelling.andThen_assoc]
    congr 1
    exact funext ih

theorem spell_singleton (quote : Quote σ) (p : Piece) (s : σ) :
    spell quote [p] s = p.spell quote s := by
  rcases h : p.spell quote s with ⟨_ | cs, s', vs⟩ <;>
    simp [spell, Spelling.andThen, h, Except.map]

theorem spell_inGenerator (quote : Quote σ) (s : σ) (p : Piece) :
    p.inGenerator.spell quote s =
      { p.spell quote s with text := (p.spell quote s).text.mapError Fault.outOfGenerator } := by
  cases p with
  | text | escaped | failed => rfl
  | element v =>
    simp only [Piece.inGenerator, Piece.spell, generated, Act.exec_mapError]
    -- an error is put in other words once, however many generators it comes out of
    rcases (Act.exec (quote v) s).1 with f | cs
    · exact congrArg (Spelling.mk · _ _)
        (congrArg Except.error (Fault.outOfGenerator_outOfGenerator f).symm)
    · rfl

/-- Pieces written in a generator are written alike, but for the wording of a failure. -/
theorem spell_map_inGenerator (quote : Quote σ) (ps : List Piece) (s : σ) :
    spell quote (ps.map .inGenerator) s =
      { spell quote ps s with text := (spell quote ps s).text.mapError Fault.outOfGenerator } := by
  induction ps generalizing s with
  | nil => rfl
  | cons p ps ih =>
    have hg := spell_inGenerator quote s p
    rcases hp : p.spell quote s with ⟨f | cs, s', vs⟩
    · rw [hp] at hg
      rw [List.map_cons, spell_cons_error hp, spell_cons_error hg]
      rfl
    · rw [hp] at hg
      rw [List.map_cons, spell_cons_ok hp, spell_cons_ok hg, ih, mapError_map]

/-! ## Actions that spell pieces -/

/-- The action `a` answers and acts as spelling the pieces `ps` does. -/
def Spells (quote : Quote σ) (a : Act σ (List Char)) (ps : List Piece) : Prop :=
  ∀ s, Act.exec a s = (spell quote ps s).outcome

namespace Spells

variable {quote : Quote σ}

theorem pure (cs : List Char) : Spells quote (Pure.pure cs) [.text cs] := by
  intro s
  rw [spell_singleton]
  rfl

theorem ofExcept (e : Except Fault (List Char)) :
    Spells quote (Act.ofExcept e) [.ofOutcome e] := by
  intro s
  rw [spell_singleton]
  cases e <;> rfl

theorem map_ofExcept (e : Except Fault (List Char)) (f : List Char → List Char) :
    Spells quote (do return f (← Act.ofExcept e)) [.ofOutcome (e.map f)] := by
  intro s
  rw [spell_singleton, Act.exec_bind_pure]
  cases e <;> rfl

theorem escaped (v : Value) : Spells quote (quote v) [.escaped v] := by
  intro s
  rw [spell_singleton]
  rfl

theorem generated {a : Act σ (List Char)} {ps : List Piece} (ha : Spells quote a ps) :
    Spells quote (generated a) (ps.map .inGenerator) := by
  intro s
  rw [spell_map_inGenerator, SqlWeave.generated, Act.exec_mapError, ha s]
  rfl

theorem append {a b : Act σ (List Char)} {ps qs : List Piece} (ha : Spells quote a ps)
    (hb : Spells quote b qs) :
    Spells quote (do let cs ← a; let ds ← b; return cs ++ ds) (ps ++ qs) := by
  intro s
  rw [spell_append, Act.exec_bind, ha s]
  rcases spell quote ps s with ⟨_ | cs, s', vs⟩
  · rfl
  · simp only [Spelling.outcome, Spelling.andThen]
    rw [Act.exec_bind_pure, hb s']
    rfl

end Spells

/-! ## Escapers without side effects -/

/-- The escaper leaves its state as it is. -/
def Quiet (quote : Quote σ) : Prop := ∀ v s, (Act.exec (quote v) s).2 = s

theorem quiet_literalQuote : Quiet (literalQuote : Quote σ) := fun _ _ => rfl

/-- The text of a piece, if the escaper is asked in the state `s`. -/
def Piece.written (quote : Quote σ) (s : σ) (p : Piece) : Except Fault (List Char) :=
  (p.spell quote s).text

theorem spell_piece_of_quiet {quote : Quote σ} (hq : Quiet quote) (s : σ) (p : Piece) :
    (p.spell quote s).state = s := by
  cases p with
  | text | failed => rfl
  | escaped v | element v => exact hq v s

/-- A quiet escaper is asked for each piece in the same state. -/
theorem spell_of_quiet {quote : Quote σ} (hq : Quiet quote) (ps : List Piece) (s : σ) :
    (spell quote ps s).outcome = ((ps.mapM (Piece.written quote s)).map List.flatten, s) := by
  induction ps with
  | nil => rfl
  | cons p ps ih =>
    have hs := spell_piece_of_quiet hq s p
    rcases hp : p.spell quote s with ⟨f | cs, s', vs⟩
    · have hw : p.written quote s = .error f := by rw [Piece.written, hp]
      rw [hp] at hs
      rw [spell_cons_error hp, List.mapM_cons, hw]
      exact congrArg (Prod.mk (Except.error f)) hs
    · have hw : p.written quote s = .ok cs := by rw [Piece.written, hp]
      rw [hp] at hs
      obtain rfl : s' = s := hs
      obtain ⟨ht, hs⟩ := Prod.mk.inj ih
      rw [spell_cons_ok hp, Spelling.outcome, ht, hs, List.mapM_cons, hw]
      rcases ps.mapM (Piece.written quote s') with f | xs <;> rfl

/-- Rows of pieces with a comma and a blank between them. -/
def separated (rows : List (List Piece)) : List Piece := [.text [',', ' ']].intercalate rows

theorem separated_cons_cons (r r' : List Piece) (rows : List (List Piece)) :
    separated (r :: r' :: rows) = r ++ (.text [',', ' '] :: separated (r' :: rows)) := by
  simp [separated, List.intercalate]

theorem Spells.commaSeparated {α : Type} {quote : Quote σ} {f : α → Act σ (List Char)}
    {g : α → List Piece} (h : ∀ x, Spells quote (f x) (g x)) (xs : List α) :
    Spells quote (do return commaSeparated (← xs.mapM f)) (separated (xs.map g)) := by
  induction xs with
  | nil => exact fun _ => rfl
  | cons x xs ih =>
    cases xs with
    | nil => simpa [SqlWeave.commaSeparated, separated, List.intercalate] using h x
    | cons y ys =>
      have hsep : Spells quote (Pure.pure [',', ' ']) [.text [',', ' ']] := .pure _
      have hall := (h x).append (hsep.append ih)
      simpa [separated_cons_cons, commaSeparated_cons_cons] using hall

/-! ## The pieces of a parameter -/

namespace Kind

/-- The pieces that a marker of kind `k` puts in for the parameter `v`. -/
def pieces (k : Kind) (v : Value) : List Piece :=
  match k with
  | .string => [.escaped v]
  | .integer => [.ofOutcome (integerArgument v)]
  | .float => [.ofOutcome (floatArgument v)]
  | .array => separated ((v.elements?.getD []).map fun x => [.element x])
  | .assoc => separated ((v.entries?.getD []).map fun e =>
      [.inGenerator (.ofOutcome (e.1.plain.map fun name => backticked name ++ ['='])), .element e.2])
  | .table => [.ofOutcome (v.plain.map backticked)]
  | .raw => [.ofOutcome v.plain]

theorem convert_of_not_accepts {k : Kind} {v : Value} (h : ¬ k.accepts v = true) (quote : Quote σ)
    (s : σ) : Act.exec (k.convert v quote) s = (.error (.shape k v.typeName), s) := by
  cases k with
  | array => simp [convert, inList, checkShape, h, Act.exec_bind]
  | assoc => simp [convert, setList, checkShape, h, Act.exec_bind]
  | string | integer | float | table | raw => exact absurd rfl h

theorem spells_assignment (quote : Quote σ) (e : Value × Value) :
    Spells quote (assignment quote e)
      [.ofOutcome (e.1.plain.map fun name => backticked name ++ ['=']), .escaped e.2] := by
  -- the field's text comes first, then the call of the escaper
  have hvalue : Spells quote (quote e.2) [.escaped e.2] := .escaped _
  have hall := (Spells.map_ofExcept e.1.plain fun name => backticked name ++ ['=']).append hvalue
  simpa only [assignment, bind_assoc, pure_bind, List.append_assoc, List.cons_append,
    List.nil_append] using hall

theorem spells_convert {k : Kind} {v : Value} (h : k.accepts v = true) (quote : Quote σ) :
    Spells quote (k.convert v quote) (k.pieces v) := by
  have hs : Act.ofExcept (k.checkShape v) = (pure () : Act σ Unit) := by
    rw [checkShape_eq_ok_iff.2 h]
    rfl
  cases k with
  | string => exact .escaped v
  | integer => exact .ofExcept _
  | float => exact .ofExcept _
  | array =>
    simp only [convert, inList, hs, pure_bind]
    exact .commaSeparated (fun x => (Spells.escaped x).generated) _
  | assoc =>
    simp only [convert, setList, hs, pure_bind]
    exact .commaSeparated (fun e => (spells_assignment quote e).generated) _
  | table => exact .map_ofExcept _ _
  | raw => exact .ofExcept _

/-- With a quiet escaper the conversion of a parameter leaves the state as it is, too. -/
theorem convert_quiet {quote : Quote σ} (hq : Quiet quote) (k : Kind) (v : Value) (s : σ) :
    (Act.exec (k.convert v quote) s).2 = s := by
  by_cases h : k.accepts v = true
  · rw [spells_convert h quote s, spell_of_quiet hq]
  · rw [convert_of_not_accepts h]

end Kind

/-! ## The pieces of a template -/

namespace Template

/-- The pieces of a template with the parameters `vs`: its texts, and between them those that its
    markers put in. -/
def pieces (t : Template) (vs : List Value) : List Piece :=
  .text t.head :: (t.tail.zip vs).flatMap fun p => p.1.1.pieces p.2 ++ [.text p.1.2]

theorem fill_cons (l l' : List Char) (k : Kind) (ps : List (Kind × List Char)) (x : List Char)
    (xs : List (List Char)) :
    fill ⟨l, (k, l') :: ps⟩ (x :: xs) = l ++ (x ++ fill ⟨l', ps⟩ xs) := by
  simp [fill]

theorem pieces_cons (l l' : List Char) (k : Kind) (ps : List (Kind × List Char)) (v : Value)
    (vs : List Value) :
    pieces ⟨l, (k, l') :: ps⟩ (v :: vs) = [.text l] ++ (k.pieces v ++ pieces ⟨l', ps⟩ vs) := by
  simp [pieces]

/-- Filling a template spells its pieces. -/
theorem spells_fill (quote : Quote σ) (t : Template) (vs : List Value)
    (h : ∀ p ∈ t.kinds.zip vs, p.1.accepts p.2 = true) :
    Spells quote (do return t.fill (← convertAll quote (t.kinds.zip vs))) (t.pieces vs) := by
  obtain ⟨l, ps⟩ := t
  induction ps generalizing l vs with
  | nil => simpa [convertAll, kinds, pieces, fill] using Spells.pure l
  | cons p ps ih =>
    obtain ⟨k, l'⟩ := p
    cases vs with
    | nil => simpa [convertAll, kinds, pieces, fill] using Spells.pure l
    | cons v vs =>
      have hv : k.accepts v = true := h (k, v) (by simp [kinds])
      have hvs := ih vs l' fun p hp => h p (by simpa [kinds] using .inr hp)
      have hall := (Spells.pure l).append ((Kind.spells_convert hv quote).append hvs)
      rw [pieces_cons]
      simpa [convertAll, kinds, fill_cons] using hall

/-- A template with markers and with parameters of the right number and shapes is spelled. -/
theorem exec_compile_of_accepts {source : String} {parameters : Value}
    (h0 : (ofString source).count ≠ 0) (hn : parameters.length = .ok (ofString source).count)
    (ha : ∀ p ∈ (ofString source).kinds.zip (parameters.elements?.getD []), p.1.accepts p.2 = true)
    (quote : Quote σ) (s : σ) :
    Act.exec (compile source parameters quote) s =
      let r := spell quote ((ofString source).pieces (parameters.elements?.getD [])) s
      (r.text.map String.ofList, r.state) := by
  have h := spells_fill quote (ofString source) _ ha s
  rw [Act.exec_bind_pure] at h
  obtain ⟨ht, hs⟩ := Prod.mk.inj h
  rw [exec_compile]
  simp only [h0, if_false, hn, ne_eq, not_true_eq_false, checkShapes_eq_ok_iff.2 ha]
  rw [← ht, ← hs]
  cases (Act.exec (convertAll quote _) s).1 <;> rfl

end Template

end SqlWeave
