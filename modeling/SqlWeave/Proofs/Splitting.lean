/-
  Splitting a template at its markers.

  * `OpensMarker` says that a text begins with a marker, and `MarkerFree` that no
    marker stands anywhere in it;
  * `ofChars_marker` and `ofChars_cons` say what one step of the splitting does,
    and `markerInduction` is induction along these steps;
  * `SplitOf` says, without the splitting, what a split of a text is;
  * `items_ofString`: each text has exactly one split, the one that is found.
-/
import Mathlib.Algebra.Ring.Parity
import SqlWeave.Template

namespace SqlWeave

theorem Kind.letter_ne_question (k : Kind) : k.letter ≠ '?' := by
  cases k <;> decide

namespace Template

/-! ## Markers in a text -/

/-- A marker stands at the beginning of the text. -/
def OpensMarker (cs : List Char) : Prop := ∃ k : Kind, k.marker <+: cs

/-- No marker stands in the text. -/
def MarkerFree (cs : List Char) : Prop := ∀ k : Kind, ¬ k.marker <:+: cs

theorem marker_prefix_iff {k : Kind} {c d : Char} {cs : List Char} :
    k.marker <+: c :: d :: cs ↔ c = '?' ∧ d = k.letter := by
  simp [Kind.marker, List.cons_prefix_cons, eq_comm]

theorem markerFree_cons {c : Char} {cs : List Char} :
    MarkerFree (c :: cs) ↔ ¬ OpensMarker (c :: cs) ∧ MarkerFree cs := by
  simp only [MarkerFree, OpensMarker, List.infix_cons_iff, not_or, not_exists, forall_and]

theorem markerFree_nil : MarkerFree [] := by
  intro k h
  simp [Kind.marker] at h

/-- A text without a marker does not make one together with the marker after it. -/
theorem not_opensMarker_append {c : Char} {cs : List Char} (h : ¬ OpensMarker (c :: cs)) (k : Kind)
    (rest : List Char) : ¬ OpensMarker (c :: (cs ++ (k.marker ++ rest))) := by
  rintro ⟨k', hk'⟩
  cases cs with
  | nil =>
    -- the marker's own `?` is no letter
    obtain ⟨-, hd⟩ := marker_prefix_iff.1 hk'
    exact k'.letter_ne_question hd.symm
  | cons d cs => exact h ⟨k', marker_prefix_iff.2 (marker_prefix_iff.1 hk')⟩

/-! ## One step of the splitting -/

theorem ofChars_marker (k : Kind) (cs : List Char) :
    ofChars (k.marker ++ cs) = pushKind k (ofChars cs) := by
  simp [Kind.marker, ofChars, Kind.ofLetter?_letter]

theorem ofChars_cons {c : Char} {cs : List Char} (h : ¬ OpensMarker (c :: cs)) :
    ofChars (c :: cs) = push c (ofChars cs) := by
  cases cs with
  | nil => rfl
  | cons d cs =>
    rw [ofChars]
    split_ifs with hc
    · split
      · rename_i k hk
        exact absurd ⟨k, marker_prefix_iff.2 ⟨hc, Kind.ofLetter?_eq_some_iff.1 hk⟩⟩ h
      · rfl
    · rfl

/-- Induction on a text along the steps of its splitting: a marker, or a character that begins
    none. -/
@[elab_as_elim]
theorem markerInduction {P : List Char → Prop} (nil : P [])
    (marker : ∀ (k : Kind) (cs : List Char), P cs → P (k.marker ++ cs))
    (char : ∀ c cs, ¬ OpensMarker (c :: cs) → P cs → P (c :: cs)) (cs : List Char) : P cs := by
  induction hn : cs.length using Nat.strong_induction_on generalizing cs with
  | _ n ih =>
    subst hn
    cases cs with
    | nil => exact nil
    | cons c cs =>
      by_cases h : OpensMarker (c :: cs)
      · obtain ⟨k, rest, hk⟩ := h
        rw [← hk]
        refine marker k rest (ih _ ?_ rest rfl)
        rw [← hk, List.length_append]
        simp [Kind.marker]
      · exact char c cs h (ih _ (by simp) cs rfl)

/-! ## What a split is -/

/-- Texts and markers take turns, a text first and a text last. -/
inductive Alternating : List Item → Prop
  | last (cs : List Char) : Alternating [.literal cs]
  | next (cs : List Char) (k : Kind) {is : List Item} :
    Alternating is → Alternating (.literal cs :: .token k :: is)

/-- The characters that an item stands for. -/
def Item.source : Item → List Char
  | .literal cs => cs
  | .token k => k.marker

/-- `is` is a split of the text `cs`. -/
structure SplitOf (cs : List Char) (is : List Item) : Prop where
  /-- Texts and markers take turns. -/
  alternating : Alternating is
  /-- Nothing is lost and nothing added. -/
  source : is.flatMap Item.source = cs
  /-- All markers are found. -/
  markerFree : ∀ l, Item.literal l ∈ is → MarkerFree l

theorem items_push (c : Char) (t : Template) :
    (push c t).items = .literal (c :: t.head) :: t.items.tail := rfl

theorem items_pushKind (k : Kind) (t : Template) :
    (pushKind k t).items = .literal [] :: .token k :: t.items := rfl

/-- Every split has an odd number of parts. -/
theorem Alternating.odd_length {is : List Item} (h : Alternating is) : Odd is.length := by
  induction h with
  | last => simp
  | next cs k _ ih => simpa [Nat.odd_add_one] using ih

theorem alternating_items (t : Template) : Alternating t.items := by
  obtain ⟨l, ps⟩ := t
  induction ps generalizing l with
  | nil => exact .last l
  | cons p ps ih => exact .next l p.1 (ih p.2)

theorem source_items (t : Template) : t.items.flatMap Item.source = t.source := by
  obtain ⟨l, ps⟩ := t
  induction ps generalizing l with
  | nil => rfl
  | cons p ps ih =>
    have := ih p.2
    simp only [items, source, List.flatMap_cons, Item.source, List.cons_append,
      List.nil_append, List.append_assoc] at this ⊢
    rw [this]

/-- The text before the first marker begins the text. -/
theorem head_prefix (cs : List Char) : (ofChars cs).head <+: cs := by
  have h : (ofChars cs).head <+: (ofChars cs).source := List.prefix_append _ _
  rwa [source_ofChars] at h

theorem markerFree_items (cs : List Char) :
    ∀ l, Item.literal l ∈ (ofChars cs).items → MarkerFree l := by
  induction cs using markerInduction with
  | nil =>
    intro l hl
    simp only [ofChars, items, List.flatMap_nil, List.mem_singleton, Item.literal.injEq] at hl
    exact hl ▸ markerFree_nil
  | marker k cs ih =>
    intro l hl
    rw [ofChars_marker, items_pushKind] at hl
    simp only [List.mem_cons, Item.literal.injEq, reduceCtorEq, false_or] at hl
    rcases hl with rfl | hl
    · exact markerFree_nil
    · exact ih l hl
  | char c cs h ih =>
    intro l hl
    rw [ofChars_cons h, items_push, List.mem_cons] at hl
    rcases hl with hl | hl
    · cases hl
      refine markerFree_cons.2 ⟨?_, ih _ List.mem_cons_self⟩
      -- a marker in the cut text would be one in the whole
      rintro ⟨k, hk⟩
      exact h ⟨k, hk.trans (List.cons_prefix_cons.2 ⟨rfl, head_prefix cs⟩)⟩
    · exact ih l (List.mem_of_mem_tail hl)

/-! ## The split is unique -/

theorem ofChars_of_markerFree {cs : List Char} (h : MarkerFree cs) : ofChars cs = ⟨cs, []⟩ := by
  induction cs with
  | nil => rfl
  | cons c cs ih =>
    obtain ⟨hc, hcs⟩ := markerFree_cons.1 h
    rw [ofChars_cons hc, ih hcs]
    rfl

/-- Up to the first marker a text is passed over. -/
theorem ofChars_append_marker {cs : List Char} (h : MarkerFree cs) (k : Kind) (rest : List Char) :
    ofChars (cs ++ (k.marker ++ rest)) = ⟨cs, (pushKind k (ofChars rest)).tail⟩ := by
  induction cs with
  | nil => exact ofChars_marker k rest
  | cons c cs ih =>
    obtain ⟨hc, hcs⟩ := markerFree_cons.1 h
    rw [List.cons_append, ofChars_cons (not_opensMarker_append hc k rest), ih hcs]
    rfl

theorem items_of_alternating {is : List Item} (ha : Alternating is)
    (hf : ∀ l, Item.literal l ∈ is → MarkerFree l) :
    (ofChars (is.flatMap Item.source)).items = is := by
  induction ha with
  | last cs =>
    have hcs := hf cs (by simp)
    simp [Item.source, ofChars_of_markerFree hcs, items]
  | @next cs k is ha ih =>
    have hcs := hf cs (by simp)
    have his := ih fun l hl => hf l (by simp [hl])
    simp only [List.flatMap_cons, Item.source]
    rw [ofChars_append_marker hcs]
    exact congrArg (fun js => Item.literal cs :: Item.token k :: js) his

/-- **Splitting finds the one split of a text**: it has an odd number of parts, texts and markers
    take turns in it, it spells the text and no marker is left in its texts; and no other list of
    items is such. -/
theorem items_ofString (s : String) :
    Odd (ofString s).items.length ∧
      ∀ is : List Item, (ofString s).items = is ↔ SplitOf s.toList is := by
  refine ⟨(alternating_items _).odd_length, fun is => ⟨?_, fun h => ?_⟩⟩
  · rintro rfl
    exact ⟨alternating_items _, (source_items _).trans (source_ofChars _), markerFree_items _⟩
  · rw [ofString, ← h.source]
    exact items_of_alternating h.alternating h.markerFree

end Template

end SqlWeave
