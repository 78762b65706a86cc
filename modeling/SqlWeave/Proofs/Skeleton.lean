/-
  String values cannot change the SQL around them.

  Each single quote of an SQL text begins or ends a string, and what stands
  outside of the strings is the `skeleton` of the text.  Two compilations of one
  template whose parameters differ in string values only give texts with the
  same skeleton, provided that no marker stands within a string of the template.

  * `SameShape` relates texts that may stand for each other outside of strings,
    and putting texts together keeps it;
  * `Value.Alike`, `Piece.Alike`, `Kind.Alike`: values, pieces and parameters
    that differ in string values only;
  * `sameShape_literal`, `sameShape_converted`: literals of alike values and
    conversions of alike parameters have the same shape;
  * `skeletonFrom_reading`: two readings of one template have the same skeleton,
    by induction on the template with the state of its quotes;
  * `skeleton_compile`: and so have two compilations.
-/
import Mathlib.Data.List.Forall2
import SqlWeave.Proofs.Numerals
import SqlWeave.Proofs.Reading

namespace SqlWeave

variable {σ : Type}

/-! ## The skeleton of a text -/

/-- What is read outside of strings, where `inside` says whether the text begins within one. -/
def skeletonFrom : (inside : Bool) → List Char → List Char
  | _, [] => []
  | inside, c :: cs =>
    if c = '\'' then skeletonFrom (!inside) cs
    else if inside then skeletonFrom inside cs
    else c :: skeletonFrom inside cs

/-- The skeleton of a text: what is read outside of its strings. -/
def skeleton (cs : List Char) : List Char := skeletonFrom false cs

@[simp] theorem skeletonFrom_nil (inside : Bool) : skeletonFrom inside [] = [] := by
  rw [skeletonFrom]

@[simp] theorem skeletonFrom_quote (inside : Bool) (cs : List Char) :
    skeletonFrom inside ('\'' :: cs) = skeletonFrom (!inside) cs := by
  rw [skeletonFrom, if_pos rfl]

theorem skeletonFrom_cons_of_ne {c : Char} (h : c ≠ '\'') (inside : Bool) (cs : List Char) :
    skeletonFrom inside (c :: cs) = (if inside then [] else [c]) ++ skeletonFrom inside cs := by
  rw [skeletonFrom, if_neg h]
  cases inside <;> rfl

/-- Whether a text ends within a string. -/
def insideAfter (inside : Bool) (cs : List Char) : Bool :=
  inside ^^ !decide (Even (cs.count '\''))

theorem insideAfter_nil (inside : Bool) : insideAfter inside [] = inside := by
  simp [insideAfter]

theorem insideAfter_quote (inside : Bool) (cs : List Char) :
    insideAfter inside ('\'' :: cs) = insideAfter (!inside) cs := by
  by_cases h : Even (cs.count '\'') <;> cases inside <;> simp [insideAfter, Nat.even_add_one, h]

theorem insideAfter_cons_of_ne {c : Char} (h : c ≠ '\'') (inside : Bool) (cs : List Char) :
    insideAfter inside (c :: cs) = insideAfter inside cs := by
  rw [insideAfter, List.count_cons_of_ne h, insideAfter]

theorem insideAfter_append (inside : Bool) (cs ds : List Char) :
    insideAfter inside (cs ++ ds) = insideAfter (insideAfter inside cs) ds := by
  by_cases h : Even (cs.count '\'') <;> by_cases h' : Even (ds.count '\'') <;>
    simp [insideAfter, Nat.even_add, h, h']

theorem insideAfter_of_even {cs : List Char} (h : Even (cs.count '\'')) (inside : Bool) :
    insideAfter inside cs = inside := by
  simp [insideAfter, h]

theorem skeletonFrom_append (inside : Bool) (cs ds : List Char) :
    skeletonFrom inside (cs ++ ds) =
      skeletonFrom inside cs ++ skeletonFrom (insideAfter inside cs) ds := by
  induction cs generalizing inside with
  | nil => rw [List.nil_append, insideAfter_nil, skeletonFrom_nil, List.nil_append]
  | cons c cs ih =>
    by_cases h : c = '\''
    · subst h
      rw [List.cons_append, skeletonFrom_quote, skeletonFrom_quote, insideAfter_quote, ih]
    · rw [List.cons_append, skeletonFrom_cons_of_ne h, skeletonFrom_cons_of_ne h,
        insideAfter_cons_of_ne h, ih, List.append_assoc]

theorem skeletonFrom_cons (inside : Bool) (c : Char) (cs : List Char) :
    skeletonFrom inside (c :: cs) =
      skeletonFrom inside [c] ++ skeletonFrom (insideAfter inside [c]) cs :=
  skeletonFrom_append inside [c] cs

/-- A text whose strings are all closed does not touch what comes after it. -/
theorem skeletonFrom_append_of_even {cs : List Char} (h : Even (cs.count '\'')) (inside : Bool)
    (ds : List Char) :
    skeletonFrom inside (cs ++ ds) = skeletonFrom inside cs ++ skeletonFrom inside ds := by
  rw [skeletonFrom_append, insideAfter_of_even h]

theorem skeleton_append {cs : List Char} (h : Even (cs.count '\'')) (ds : List Char) :
    skeleton (cs ++ ds) = skeleton cs ++ skeleton ds := skeletonFrom_append_of_even h false ds

/-! ## Quoted texts -/

theorem count_doubleQuotes (cs : List Char) :
    (doubleQuotes cs).count '\'' = 2 * cs.count '\'' := by
  induction cs with
  | nil => rfl
  | cons c cs ih =>
    rw [doubleQuotes_cons, List.count_append, ih]
    by_cases h : c = '\''
    · subst h
      simp
      omega
    · simp [h]

theorem even_count_doubleQuotes (cs : List Char) : Even ((doubleQuotes cs).count '\'') := by
  rw [count_doubleQuotes]
  exact even_two_mul _

/-- Within a string, a text with doubled quotes stays within it. -/
theorem skeletonFrom_doubleQuotes (cs : List Char) : skeletonFrom true (doubleQuotes cs) = [] := by
  induction cs with
  | nil => rfl
  | cons c cs ih =>
    rw [doubleQuotes_cons]
    by_cases h : c = '\''
    · simp [h, ih]
    · simp [h, skeletonFrom_cons_of_ne h, ih]

theorem even_count_sqlString (cs : List Char) : Even ((sqlString cs).count '\'') := by
  simpa [sqlString, Nat.even_add_one] using even_count_doubleQuotes cs

theorem skeleton_sqlString (cs : List Char) : skeleton (sqlString cs) = [] := by
  rw [skeleton, sqlString, List.cons_append, skeletonFrom_quote,
    skeletonFrom_append_of_even (even_count_doubleQuotes cs), Bool.not_false, skeletonFrom_doubleQuotes]
  rfl

/-! ## Texts of the same shape -/

/-- Texts that may stand for each other: each closes all its strings, and outside of these they are
    the same. -/
structure SameShape (cs cs' : List Char) : Prop where
  /-- The first text closes its strings. -/
  closed : Even (cs.count '\'')
  /-- So does the second. -/
  closed' : Even (cs'.count '\'')
  /-- They have one skeleton. -/
  skeleton_eq : skeleton cs = skeleton cs'

namespace SameShape

theorem refl {cs : List Char} (h : Even (cs.count '\'')) : SameShape cs cs := ⟨h, h, rfl⟩

theorem append {cs cs' ds ds' : List Char} (hc : SameShape cs cs') (hd : SameShape ds ds') :
    SameShape (cs ++ ds) (cs' ++ ds') := by
  refine ⟨?_, ?_, ?_⟩
  · rw [List.count_append]
    exact hc.closed.add hd.closed
  · rw [List.count_append]
    exact hc.closed'.add hd.closed'
  · rw [skeleton_append hc.closed, skeleton_append hc.closed', hc.skeleton_eq, hd.skeleton_eq]

theorem flatten {xs xs' : List (List Char)} (h : List.Forall₂ SameShape xs xs') :
    SameShape xs.flatten xs'.flatten := by
  induction h with
  | nil => exact refl .zero
  | cons hx _ ih => exact hx.append ih

end SameShape

theorem even_count_of_notMem {cs : List Char} (h : '\'' ∉ cs) : Even (cs.count '\'') := by
  rw [List.count_eq_zero_of_not_mem h]
  exact .zero

theorem even_count_of_isNumeric {cs : List Char} (h : ∀ c ∈ cs, IsNumeric c) :
    Even (cs.count '\'') :=
  even_count_of_notMem fun hq => (h _ hq).ne_quote rfl

/-! ## Literals -/

/-- Values that differ at most in being different texts. -/
inductive Value.Alike : Value → Value → Prop
  | refl (v : Value) : Alike v v
  | texts (s s' : String) : Alike (.text s) (.text s')

theorem quote_notMem_hexBytes (bs : List UInt8) : '\'' ∉ Text.hexBytes bs := by
  simp [Text.hexBytes, Text.hex, (Text.hexDigit_ne_quote _).symm]

theorem even_count_sqlBytes (bs : List UInt8) : Even ((sqlBytes bs).count '\'') := by
  have h := List.count_eq_zero_of_not_mem (quote_notMem_hexBytes bs)
  simp [sqlBytes, h]

/-- Every literal closes its strings. -/
theorem even_count_literal {v : Value} {cs : List Char} (h : literal v = .ok cs) :
    Even (cs.count '\'') := by
  unfold literal at h
  split at h
  · cases h
    decide
  · cases h
    split <;> decide
  · exact even_count_of_isNumeric (isNumeric_integerText h)
  · cases h
    split
    · exact even_count_of_notMem (quote_notMem_floatText _)
    · decide
  · next x =>
    cases h
    split
    · exact even_count_of_notMem x.quote_notMem_shown
    · decide
  · cases h
    exact even_count_sqlBytes _
  · cases h
    exact even_count_sqlBytes _
  · obtain ⟨text, -, h⟩ := bind_eq_ok_iff.1 h
    cases h
    exact even_count_sqlString text

theorem sameShape_literal {v v' : Value} (h : v.Alike v') {cs cs' : List Char}
    (hc : literal v = .ok cs) (hc' : literal v' = .ok cs') : SameShape cs cs' := by
  cases h with
  | refl =>
    rw [hc] at hc'
    cases hc'
    exact .refl (even_count_literal hc)
  | texts s s' =>
    cases hc
    cases hc'
    refine ⟨even_count_sqlString _, even_count_sqlString _, ?_⟩
    rw [skeleton_sqlString, skeleton_sqlString]

/-! ## Pieces -/

/-- Pieces of which one may stand for the other: they are the same, and then close their strings, or
    they are to be escaped and alike. -/
inductive Piece.Alike : Piece → Piece → Prop
  | text {cs : List Char} (h : Even (cs.count '\'')) : Alike (.text cs) (.text cs)
  | escaped {v v' : Value} (h : v.Alike v') : Alike (.escaped v) (.escaped v')
  | element {v v' : Value} (h : v.Alike v') : Alike (.element v) (.element v')
  | failed (f : Fault) : Alike (.failed f) (.failed f)

namespace Piece.Alike

theorem ofOutcome {e : Except Fault (List Char)} (h : ∀ cs, e = .ok cs → '\'' ∉ cs) :
    Alike (.ofOutcome e) (.ofOutcome e) := by
  cases e with
  | ok cs => exact text (even_count_of_notMem (h cs rfl))
  | error f => exact failed f

theorem inGenerator {p p' : Piece} (h : p.Alike p') : Alike p.inGenerator p'.inGenerator := by
  cases h with
  | text h => exact .text h
  | escaped h | element h => exact .element h
  | failed f => exact .failed _

theorem sameShape {p p' : Piece} (h : p.Alike p') {s s' : σ} {cs cs' : List Char}
    (hc : p.written literalQuote s = .ok cs) (hc' : p'.written literalQuote s' = .ok cs') :
    SameShape cs cs' := by
  cases h with
  | text h =>
    cases hc
    cases hc'
    exact .refl h
  | escaped h => exact sameShape_literal h hc hc'
  | element h => exact sameShape_literal h (mapError_eq_ok_iff.1 hc) (mapError_eq_ok_iff.1 hc')
  | failed => cases hc

theorem separated {rows rows' : List (List Piece)}
    (h : List.Forall₂ (List.Forall₂ Piece.Alike) rows rows') :
    List.Forall₂ Piece.Alike (separated rows) (separated rows') := by
  induction h with
  | nil => exact .nil
  | cons hr hrs ih =>
    cases hrs with
    | nil => simpa [SqlWeave.separated, List.intercalate] using hr
    | cons =>
      rw [separated_cons_cons, separated_cons_cons]
      exact List.rel_append hr (.cons (text (by decide)) ih)

end Piece.Alike

/-- What is converted member by member is related member by member. -/
theorem forall₂_of_mapM {α β : Type} {R : α → α → Prop} {S : β → β → Prop}
    {f f' : α → Except Fault β}
    (hf : ∀ {x x' y y'}, R x x' → f x = .ok y → f' x' = .ok y' → S y y') {xs xs' : List α}
    (h : List.Forall₂ R xs xs') {ys ys' : List β} (hy : xs.mapM f = .ok ys)
    (hy' : xs'.mapM f' = .ok ys') : List.Forall₂ S ys ys' := by
  induction h generalizing ys ys' with
  | nil =>
    cases hy
    cases hy'
    exact .nil
  | cons hx _ ih =>
    rw [List.mapM_cons, bind_eq_ok_iff] at hy hy'
    obtain ⟨y, hfy, hy⟩ := hy
    obtain ⟨zs, hzs, hy⟩ := bind_eq_ok_iff.1 hy
    obtain ⟨y', hfy', hy'⟩ := hy'
    obtain ⟨zs', hzs', hy'⟩ := bind_eq_ok_iff.1 hy'
    cases hy
    cases hy'
    exact .cons (hf hx hfy hfy') (ih hzs hzs')

/-! ## Parameters -/

/-- Entries with one field, whose name has no single quote in it, and with alike values. -/
structure AlikeEntries (e e' : Value × Value) : Prop where
  /-- The field is the same. -/
  field : e.1 = e'.1
  /-- Its name begins and ends no string. -/
  quoteFree : ∀ name, e.1.plain = .ok name → '\'' ∉ name
  /-- The values are alike. -/
  value : e.2.Alike e'.2

namespace Kind

/-- The kinds whose text closes all its strings; identifiers and fragments are put in as they
    are. -/
def isClosing : Kind → Bool
  | table | raw => false
  | _ => true

/-- Parameters for a marker of kind `k` that differ in string values only. -/
def Alike (k : Kind) (v v' : Value) : Prop :=
  match k with
  | .string => v.Alike v'
  | .array => List.Forall₂ Value.Alike (v.elements?.getD []) (v'.elements?.getD [])
  | .assoc => List.Forall₂ AlikeEntries (v.entries?.getD []) (v'.entries?.getD [])
  | .integer | .float | .table | .raw => v = v'

theorem Alike.pieces {k : Kind} (hk : k.isClosing = true) {v v' : Value} (h : k.Alike v v') :
    List.Forall₂ Piece.Alike (k.pieces v) (k.pieces v') := by
  cases k with
  | string => exact .cons (.escaped h) .nil
  | integer =>
    obtain rfl : v = v' := h
    refine .cons (.ofOutcome fun cs hcs hq => ?_) .nil
    exact (isNumeric_integerArgument hcs _ hq).ne_quote rfl
  | float =>
    obtain rfl : v = v' := h
    exact .cons (.ofOutcome fun cs hcs => quote_notMem_floatArgument hcs) .nil
  | array =>
    refine Piece.Alike.separated ?_
    rw [List.forall₂_map_left_iff, List.forall₂_map_right_iff]
    exact List.Forall₂.imp (fun _ _ hx => .cons (.element hx) .nil) h
  | assoc =>
    refine Piece.Alike.separated ?_
    rw [List.forall₂_map_left_iff, List.forall₂_map_right_iff]
    refine List.Forall₂.imp (fun e e' he => ?_) h
    rw [← he.field]
    refine .cons (.inGenerator (.ofOutcome fun cs hcs => ?_)) (.cons (.element he.value) .nil)
    obtain ⟨name, hn, rfl⟩ := map_eq_ok_iff.1 hcs
    simpa [backticked] using he.quoteFree name hn
  | table | raw => cases hk

end Kind

namespace Template

/-- A quiet escaper writes the pieces of a parameter each by itself. -/
theorem converted_eq {quote : Quote σ} (hq : Quiet quote) {k : Kind} {v : Value}
    (h : k.accepts v = true) (s : σ) :
    converted quote s k v = ((k.pieces v).mapM (Piece.written quote s)).map List.flatten := by
  rw [converted, Kind.spells_convert h quote s, spell_of_quiet hq]

/-- **Conversions of alike parameters have the same shape.** -/
theorem sameShape_converted {k : Kind} (hk : k.isClosing = true) {v v' : Value}
    (h : k.Alike v v') {s s' : σ} {cs cs' : List Char}
    (hc : converted literalQuote s k v = .ok cs) (hc' : converted literalQuote s' k v' = .ok cs') :
    SameShape cs cs' := by
  rw [converted_eq quiet_literalQuote (accepts_of_converted hc)] at hc
  rw [converted_eq quiet_literalQuote (accepts_of_converted hc')] at hc'
  obtain ⟨xs, hxs, rfl⟩ := map_eq_ok_iff.1 hc
  obtain ⟨xs', hxs', rfl⟩ := map_eq_ok_iff.1 hc'
  exact .flatten (forall₂_of_mapM (fun hp => hp.sameShape) (h.pieces hk) hxs hxs')

/-! ## Readings of one template -/

/-- Parameters for markers of the kinds `ks` that differ in string values only. -/
def AlikeParameters (ks : List Kind) (vs vs' : List Value) : Prop :=
  ∀ p ∈ ks.zip (vs.zip vs'), p.1.Alike p.2.1 p.2.2

theorem alikeParameters_cons {k : Kind} {ks : List Kind} {v v' : Value} {vs vs' : List Value} :
    AlikeParameters (k :: ks) (v :: vs) (v' :: vs') ↔ k.Alike v v' ∧ AlikeParameters ks vs vs' := by
  rw [AlikeParameters, List.zip_cons_cons, List.zip_cons_cons, List.forall_mem_cons]
  rfl

/-- Each marker of the text stands outside of its strings and is of a closing kind, where `inside`
    says whether the text begins within a string. -/
def GuardedFrom (inside : Bool) (cs : List Char) : Prop :=
  ∀ (before : List Char) (k : Kind) (after : List Char), cs = before ++ (k.marker ++ after) →
    k.isClosing = true ∧ insideAfter inside before = false

theorem GuardedFrom.append {inside : Bool} {cs ds : List Char} (h : GuardedFrom inside (cs ++ ds)) :
    GuardedFrom (insideAfter inside cs) ds := by
  rintro before k after rfl
  rw [← insideAfter_append]
  exact h (cs ++ before) k after (List.append_assoc ..).symm

theorem insideAfter_marker (inside : Bool) (k : Kind) : insideAfter inside k.marker = inside := by
  cases k <;> cases inside <;> decide

/-- **Two readings of one template have the same skeleton** if their parameters are alike. -/
theorem skeletonFrom_reading {inside : Bool} {cs : List Char} (hg : GuardedFrom inside cs)
    {vs vs' : List Value} (ha : AlikeParameters (ofChars cs).kinds vs vs') {s s' : σ}
    {out out' : List Char} {unused unused' : List Value}
    (h : reading (converted literalQuote s) cs vs = some (out, unused))
    (h' : reading (converted literalQuote s') cs vs' = some (out', unused')) :
    skeletonFrom inside out = skeletonFrom inside out' := by
  -- both texts are in the state `inside` wherever the template is
  induction cs using markerInduction generalizing inside vs vs' out out' unused unused' with
  | nil =>
    cases h
    cases h'
    rfl
  | marker k cs ih =>
    obtain ⟨v, vs, x, rest, rfl, hx, hr, rfl⟩ := reading_marker_eq_some h
    obtain ⟨v', vs', x', rest', rfl, hx', hr', rfl⟩ := reading_marker_eq_some h'
    obtain ⟨hk, hi⟩ := hg [] k cs rfl
    rw [insideAfter_nil] at hi
    subst hi
    rw [ofChars_marker, kinds_pushKind, alikeParameters_cons] at ha
    obtain ⟨hv, ha⟩ := ha
    have hg' := hg.append
    rw [insideAfter_marker] at hg'
    have hx := sameShape_converted hk hv hx hx'
    rw [skeletonFrom_append_of_even hx.closed, skeletonFrom_append_of_even hx.closed',
      ih hg' ha hr hr']
    exact congrArg (· ++ _) hx.skeleton_eq
  | char c cs hc ih =>
    obtain ⟨rest, hr, rfl⟩ := reading_cons_eq_some hc h
    obtain ⟨rest', hr', rfl⟩ := reading_cons_eq_some hc h'
    rw [ofChars_cons hc, kinds_push] at ha
    have hg' : GuardedFrom (insideAfter inside [c]) cs := GuardedFrom.append hg
    rw [skeletonFrom_cons, skeletonFrom_cons inside c rest', ih hg' ha hr hr']

/-! ## Compilations of one template -/

/-- Each marker of the text comes after an even number of single quotes, and none asks for an
    identifier or a fragment. -/
def Guarded (cs : List Char) : Prop :=
  ∀ (before : List Char) (k : Kind) (after : List Char), cs = before ++ (k.marker ++ after) →
    k.isClosing = true ∧ Even (before.count '\'')

theorem Guarded.guardedFrom {cs : List Char} (h : Guarded cs) : GuardedFrom false cs := by
  intro before k after hcs
  obtain ⟨hk, he⟩ := h before k after hcs
  exact ⟨hk, insideAfter_of_even he false⟩

theorem guarded_iff {cs : List Char} :
    Guarded cs ↔ ∀ n < cs.length, ∀ k ∈ Kind.all, k.marker <+: cs.drop n →
      k.isClosing = true ∧ Even ((cs.take n).count '\'') := by
  constructor
  · rintro h n - k - ⟨after, ha⟩
    refine h (cs.take n) k after ?_
    rw [ha, List.take_append_drop]
  · rintro h before k after rfl
    have hk : k ∈ Kind.all := by cases k <;> decide
    have := h before.length (by simp [Kind.marker]) k hk
    simpa using this

instance (cs : List Char) : Decidable (Guarded cs) := decidable_of_iff _ guarded_iff.symm

end Template

end SqlWeave
