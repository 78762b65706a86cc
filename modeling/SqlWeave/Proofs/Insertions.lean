/-
  Comments in compiled texts.

  A template whose texts hold no comment may still be compiled to a text in which
  one begins.  The text of a parameter is put in right after what stands before
  its marker, so a minus sign there makes a comment with the sign of a negative
  number; and an empty list puts in nothing, so what stands around it comes
  together.

  * `signed_converted`: the text of a string, a number or a list is `Signed`,
    and that of an empty list is empty;
  * `Insertion` is a parameter between what is compiled before it and the text of
    the template after it, and `Insertion.Clear` says that it begins no comment;
  * `commentFree_insertion` and `commentFree_fill_iff`: one insertion, and by
    induction all insertions into a template;
  * `commentFree_compile_iff`: a compiled text has no comment exactly if all its
    insertions are clear.
-/
import SqlWeave.Proofs.Comments
import SqlWeave.Proofs.ListReading

namespace SqlWeave

variable {σ : Type}

/-! ## Conversions -/

namespace Kind

/-- The text that a marker puts in begins with a minus sign. -/
def Negative (k : Kind) (v : Value) : Prop :=
  match k with
  | .string => v.hasMinus = true
  | .integer => ∃ n, v.castInteger = .ok n ∧ n < 0
  | .float => ∃ x, v.castFloat = .ok x ∧ (Numeral.parts x).isNegative = true ∧
      ∀ y, v = .derivedFloat y → y.opening = []
  | .array => ∃ x ∈ (v.elements?.getD []).head?, x.hasMinus = true
  | .assoc | .table | .raw => False

/-- The marker puts in nothing. -/
def WritesNothing (k : Kind) (v : Value) : Prop := k = .array ∧ v.elements?.getD [] = []

theorem WritesNothing.not_negative {k : Kind} {v : Value} (h : k.WritesNothing v) :
    ¬ k.Negative v := by
  obtain ⟨rfl, h⟩ := h
  simp [Negative, h]

end Kind

/-- The text of a float, which its class may write. -/
theorem signed_floatArgument {v : Value} {text : List Char} (h : floatArgument v = .ok text) :
    Signed (Kind.float.Negative v) text := by
  unfold floatArgument at h
  split at h
  · next y =>
    have negative : Kind.float.Negative (.derivedFloat y) ↔
        (Numeral.parts (Value.finiteOrZero y.number)).isNegative = true ∧ y.opening = [] := by
      simp [Kind.Negative, Value.castFloat]
    cases h
    rw [negative, Value.finiteOrZero]
    split_ifs with finite
    · simpa [DerivedFloat.hasMinus, and_comm] using y.signed_shown
    · have zero : (Numeral.parts 0).isNegative = false := by decide +kernel
      simpa [zero] using Numeral.signed_floatText 0
  · next derived =>
    obtain ⟨x, hx, ht⟩ := bind_eq_ok_iff.1 h
    cases ht
    have negative : Kind.float.Negative v ↔ (Numeral.parts x).isNegative = true := by
      have own : ∀ y, v = .derivedFloat y → y.opening = [] := fun y hy => (derived y hy).elim
      simp only [Kind.Negative, hx, Except.ok.injEq, exists_eq_left']
      exact and_iff_left own
    rw [negative]
    exact Numeral.signed_floatText x

theorem signed_commaSeparated {negative : Prop} {text : List Char} {texts : List (List Char)}
    (h : Signed negative text) (hs : ∀ t ∈ texts, Settled t) :
    Signed negative (commaSeparated (text :: texts)) := by
  rw [commaSeparated_cons]
  refine h.append ?_
  induction texts with
  | nil => exact settled_nil
  | cons t ts ih =>
    obtain ⟨ht, hts⟩ := List.forall_mem_cons.1 hs
    have hcomma : Settled [',', ' '] := settled_of_harmless (by simp [IsHarmless])
    rw [List.flatMap_cons]
    exact (hcomma.append ht).append (ih hts)

theorem settled_literals {vs : List Value} {texts : List (List Char)}
    (h : vs.mapM literal = .ok texts) : ∀ t ∈ texts, Settled t := by
  induction vs generalizing texts with
  | nil =>
    cases h
    simp
  | cons v vs ih =>
    rw [List.mapM_cons, bind_eq_ok_iff] at h
    obtain ⟨text, hv, h⟩ := h
    obtain ⟨texts, hvs, h⟩ := bind_eq_ok_iff.1 h
    cases h
    exact List.forall_mem_cons.2 ⟨(signed_literal hv).toSettled, ih hvs⟩

/-- The list of literals is empty, or it is signed as its first literal is. -/
theorem signed_literals {vs : List Value} {texts : List (List Char)}
    (h : vs.mapM literal = .ok texts) :
    vs = [] ∧ commaSeparated texts = [] ∨
      vs ≠ [] ∧ Signed (∃ x ∈ vs.head?, x.hasMinus = true) (commaSeparated texts) := by
  cases vs with
  | nil =>
    cases h
    exact .inl ⟨rfl, rfl⟩
  | cons v vs =>
    rw [List.mapM_cons, bind_eq_ok_iff] at h
    obtain ⟨text, hv, h⟩ := h
    obtain ⟨texts, hvs, h⟩ := bind_eq_ok_iff.1 h
    cases h
    simpa using signed_commaSeparated (signed_literal hv) (settled_literals hvs)

namespace Template

/-- The text for a string, a number or a list is empty or signed. -/
theorem signed_converted {k : Kind} (hk : k.isClosing = true) (ha : k ≠ .assoc) {v : Value} {s : σ}
    {text : List Char} (h : converted literalQuote s k v = .ok text) :
    k.WritesNothing v ∧ text = [] ∨ ¬ k.WritesNothing v ∧ Signed (k.Negative v) text := by
  cases k with
  | string => exact .inr ⟨nofun, signed_literal h⟩
  | integer =>
    obtain ⟨n, hn, ht⟩ := bind_eq_ok_iff.1 h
    exact .inr ⟨nofun, by simpa [Kind.Negative, hn] using signed_integerText ht⟩
  | float =>
    exact .inr ⟨nofun, signed_floatArgument h⟩
  | array =>
    have hexec := exec_inList_literalQuote (accepts_of_converted h) s
    have h : (Act.exec (inList literalQuote v) s).1 = .ok text := h
    rw [hexec] at h
    obtain ⟨texts, hts, rfl⟩ := map_eq_ok_iff.1 h
    simpa [Kind.WritesNothing, Kind.Negative] using signed_literals (mapError_eq_ok_iff.1 hts)
  | assoc => exact absurd rfl ha
  | table | raw => cases hk

theorem even_count_converted {k : Kind} (hk : k.isClosing = true) (ha : k ≠ .assoc) {v : Value}
    {s : σ} {text : List Char} (h : converted literalQuote s k v = .ok text) :
    Even (text.count '\'') := by
  rcases signed_converted hk ha h with ⟨-, rfl⟩ | ⟨-, h⟩
  · exact .zero
  · exact h.closed

/-! ## Insertions -/

/-- A parameter at its marker. -/
structure Insertion where
  /-- What is compiled before the marker. -/
  before : List Char
  /-- The marker's kind. -/
  kind : Kind
  /-- The parameter. -/
  value : Value
  /-- The text of the template after the marker, up to the next one. -/
  after : List Char

/-- No comment begins where the text of the parameter is put in: no sign of a number follows a minus
    sign, and what stands around an empty list does not make a comment. -/
structure Insertion.Clear (e : Insertion) : Prop where
  /-- After a minus sign, the text begins with none. -/
  left : e.before.getLast? = some '-' → ¬ e.kind.Negative e.value
  /-- The texts around nothing do not begin a comment where they meet. -/
  around : e.kind.WritesNothing e.value → ¬ Joins e.before e.after

/-- The insertions into a template, where `before` is compiled before its first marker and `texts` are
    put in for the parameters. -/
def insertions (before : List Char) :
    List (Kind × List Char) → List Value → List (List Char) → List Insertion
  | (k, after) :: ps, v :: vs, text :: texts =>
    ⟨before, k, v, after⟩ :: insertions (before ++ text ++ after) ps vs texts
  | _, _, _ => []

/-- One insertion after closed strings begins no comment exactly if it is clear. -/
theorem commentFree_insertion {e : Insertion} {text : List Char} (hb : Even (e.before.count '\''))
    (hl : CommentFree e.after)
    (h : e.kind.WritesNothing e.value ∧ text = [] ∨
      ¬ e.kind.WritesNothing e.value ∧ Signed (e.kind.Negative e.value) text) :
    CommentFree (e.before ++ text ++ e.after) ↔ CommentFree e.before ∧ e.Clear := by
  rcases h with ⟨hn, rfl⟩ | ⟨hn, ht⟩
  · rw [List.append_nil, commentFree_append hb]
    constructor
    · rintro ⟨h, -, hj⟩
      exact ⟨h, fun _ => hn.not_negative, fun _ => hj⟩
    · rintro ⟨h, hclear⟩
      exact ⟨h, hl, hclear.around hn⟩
  · have hrest : CommentFree (text ++ e.after) :=
      (commentFree_append ht.closed).2 ⟨ht.commentFree, hl, ht.not_joins _⟩
    have hjoins : Joins e.before (text ++ e.after) ↔
        e.before.getLast? = some '-' ∧ e.kind.Negative e.value := by
      rw [Joins, List.head?_append_of_ne_nil _ ht.ne_nil, ht.sign]
      simp [ht.head]
    rw [List.append_assoc, commentFree_append hb, hjoins, not_and]
    constructor
    · rintro ⟨h, -, hj⟩
      exact ⟨h, hj, fun hnothing => absurd hnothing hn⟩
    · rintro ⟨h, hclear⟩
      exact ⟨h, hrest, hclear.left⟩

/-- A filled template has no comment exactly if it begins with none and all its insertions are
    clear. -/
theorem commentFree_fill_iff {passed before : List Char} {ps : List (Kind × List Char)}
    {vs : List Value} {texts : List (List Char)} {s : σ} (hg : Guarded (source ⟨passed, ps⟩))
    (hs : insideAfter false before = insideAfter false passed) (ha : ∀ p ∈ ps, p.1 ≠ .assoc)
    (hl : ∀ p ∈ ps, CommentFree p.2)
    (ht : convertEach (converted literalQuote s) ((kinds ⟨passed, ps⟩).zip vs) = .ok texts) :
    CommentFree (fill ⟨before, ps⟩ texts) ↔
      CommentFree before ∧ ∀ e ∈ insertions before ps vs texts, e.Clear := by
  -- what is compiled is within a string where the template, passed so far, is
  induction ps generalizing passed before vs texts with
  | nil => simp [fill, insertions]
  | cons p ps ih =>
    obtain ⟨k, after⟩ := p
    cases vs with
    | nil =>
      cases ht
      simp [fill, insertions]
    | cons v vs =>
      obtain ⟨hak, ha⟩ := List.forall_mem_cons.1 ha
      obtain ⟨hafter, hl⟩ := List.forall_mem_cons.1 hl
      have hkinds : kinds ⟨passed, (k, after) :: ps⟩ = k :: kinds ⟨passed, ps⟩ := rfl
      rw [hkinds, List.zip_cons_cons, convertEach_cons, bind_eq_ok_iff] at ht
      obtain ⟨text, hx, ht⟩ := ht
      obtain ⟨texts, hts, ht⟩ := bind_eq_ok_iff.1 ht
      cases ht
      have hsource : source ⟨passed ++ (k.marker ++ after), ps⟩ =
          source ⟨passed, (k, after) :: ps⟩ := by simp [source]
      obtain ⟨hk, heven⟩ := hg passed k (source ⟨after, ps⟩) (by simp [source])
      have hsigned := signed_converted hk hak hx
      have hclosed := even_count_converted hk hak hx
      have hbefore : Even (before.count '\'') := by
        rw [insideAfter_of_even heven] at hs
        simpa [insideAfter] using hs
      have hstate : insideAfter false (before ++ text ++ after) =
          insideAfter false (passed ++ (k.marker ++ after)) := by
        simp only [insideAfter_append, insideAfter_marker, insideAfter_of_even hclosed, hs]
      have hfill : fill ⟨before, (k, after) :: ps⟩ (text :: texts) =
          fill ⟨before ++ text ++ after, ps⟩ texts := by simp [fill]
      have hinsertion := commentFree_insertion (e := ⟨before, k, v, after⟩) hbefore hafter hsigned
      rw [hfill, ih (hsource ▸ hg) hstate ha hl hts, hinsertion, insertions,
        List.forall_mem_cons, and_assoc]

end Template

end SqlWeave
