/-
  Where the markers of a text stand.

  A template lists its markers in order; `Template.places` also tells at which
  position of the text each of them begins.

  * `places_ofChars`: the places of a split text are the positions at which a
    `?` stands before a marker's letter, from left to right;
  * `mem_places_ofChars`: a marker is found wherever it stands in the text.
-/
import SqlWeave.Proofs.Splitting

namespace SqlWeave.Template

/-- The places of markers with the texts after them, the first of which begins at `i`. -/
def placesFrom (i : Nat) : List (Kind × List Char) → List (Nat × Kind)
  | [] => []
  | (k, l) :: ps => (i, k) :: placesFrom (i + 2 + l.length) ps

/-- The position of each marker in the text of a template, with its kind. -/
def places (t : Template) : List (Nat × Kind) := placesFrom t.head.length t.tail

/-- A place in a text, seen from `n` characters further to the left. -/
def moved (n : Nat) (p : Nat × Kind) : Nat × Kind := (p.1 + n, p.2)

theorem placesFrom_add (i n : Nat) (ps : List (Kind × List Char)) :
    placesFrom (i + n) ps = (placesFrom i ps).map (moved n) := by
  induction ps generalizing i with
  | nil => rfl
  | cons p ps ih =>
    have hi : i + n + 2 + p.2.length = i + 2 + p.2.length + n := by omega
    simp only [placesFrom, List.map_cons, moved, hi, ih]

theorem places_push (c : Char) (t : Template) : (push c t).places = t.places.map (moved 1) :=
  placesFrom_add _ 1 _

theorem places_pushKind (k : Kind) (t : Template) :
    (pushKind k t).places = (0, k) :: t.places.map (moved 2) := by
  have h : (pushKind k t).places = (0, k) :: placesFrom (0 + 2 + t.head.length) t.tail := rfl
  rw [h, places, ← placesFrom_add, Nat.zero_add, Nat.add_comm]

/-- The markers are those that parameters are put in for. -/
theorem map_snd_places (t : Template) : t.places.map Prod.snd = t.kinds := by
  have h : ∀ i ps, (placesFrom i ps).map Prod.snd = ps.map Prod.fst := by
    intro i ps
    induction ps generalizing i with
    | nil => rfl
    | cons p ps ih => exact congrArg (p.1 :: ·) (ih _)
  exact h _ _

/-- The kind of the marker at position `i`, if one stands there. -/
def markerAt? (cs : List Char) (i : Nat) : Option Kind :=
  if cs[i]? = some '?' then (cs[i + 1]?).bind Kind.ofLetter? else none

theorem markerAt?_eq_some_iff {cs : List Char} {i : Nat} {k : Kind} :
    markerAt? cs i = some k ↔ k.marker <+: cs.drop i := by
  have hd : (cs.drop i).head? = cs[i]? := List.head?_drop
  have hd' : (cs.drop (i + 1)).head? = cs[i + 1]? := List.head?_drop
  rw [← List.tail_drop] at hd'
  rw [markerAt?, ← hd, ← hd']
  rcases cs.drop i with _ | ⟨c, _ | ⟨d, ds⟩⟩
  · simp [Kind.marker]
  · simp [Kind.marker]
  · rw [marker_prefix_iff]
    by_cases hc : c = '?' <;> simp [hc, Kind.ofLetter?_eq_some_iff]

@[simp] theorem markerAt?_cons_succ (c : Char) (cs : List Char) (i : Nat) :
    markerAt? (c :: cs) (i + 1) = markerAt? cs i := rfl

theorem markerAt?_cons_zero {c : Char} {cs : List Char} (h : ¬ OpensMarker (c :: cs)) :
    markerAt? (c :: cs) 0 = none := by
  rw [Option.eq_none_iff_forall_ne_some]
  exact fun k hk => h ⟨k, markerAt?_eq_some_iff.1 hk⟩

theorem OpensMarker.of_prefix {cs ds : List Char} (h : OpensMarker cs) (hp : cs <+: ds) :
    OpensMarker ds := h.imp fun _ hk => hk.trans hp

/-- A marker begins with a question mark. -/
theorem eq_question_of_opensMarker {c : Char} {cs : List Char} (h : OpensMarker (c :: cs)) :
    c = '?' := by
  obtain ⟨k, hk⟩ := h
  exact (List.cons_prefix_cons.1 hk).1.symm

theorem not_opensMarker_letter (k : Kind) (cs : List Char) : ¬ OpensMarker (k.letter :: cs) :=
  fun h => k.letter_ne_question (eq_question_of_opensMarker h)

/-- The positions from the left, with the kinds of the markers that stand there. -/
def scan (cs : List Char) : List (Nat × Kind) :=
  (List.range cs.length).filterMap fun i => (markerAt? cs i).map fun k => (i, k)

theorem scan_cons (c : Char) (cs : List Char) :
    scan (c :: cs) = ((markerAt? (c :: cs) 0).map fun k => (0, k)).toList ++
      (scan cs).map (moved 1) := by
  have hrest : ((List.range cs.length).map Nat.succ).filterMap
      (fun i => (markerAt? (c :: cs) i).map fun k => (i, k)) = (scan cs).map (moved 1) := by
    rw [List.filterMap_map, scan, List.map_filterMap]
    congr 1
    funext i
    simp only [Function.comp_apply, Nat.succ_eq_add_one, markerAt?_cons_succ, Option.map_map]
    rfl
  rw [scan, List.length_cons, List.range_succ_eq_map]
  rcases h : markerAt? (c :: cs) 0 with _ | k <;> simp [h, ← hrest]

/-- **The markers of a text stand where a `?` is followed by a marker's letter.** -/
theorem places_ofChars (cs : List Char) : (ofChars cs).places = scan cs := by
  induction cs using markerInduction with
  | nil => rfl
  | marker k cs ih =>
    have hk : markerAt? ('?' :: k.letter :: cs) 0 = some k := markerAt?_eq_some_iff.2 ⟨cs, rfl⟩
    have hl : markerAt? (k.letter :: cs) 0 = none :=
      markerAt?_cons_zero (not_opensMarker_letter k cs)
    rw [ofChars_marker, places_pushKind, ih]
    show _ = scan ('?' :: k.letter :: cs)
    rw [scan_cons, hk, scan_cons, hl]
    simp [moved, Function.comp_def]
  | char c cs h ih =>
    rw [ofChars_cons h, places_push, ih, scan_cons, markerAt?_cons_zero h]
    rfl

theorem mem_scan_iff {cs : List Char} {i : Nat} {k : Kind} :
    (i, k) ∈ scan cs ↔ markerAt? cs i = some k := by
  simp only [scan, List.mem_filterMap, List.mem_range, Option.map_eq_some_iff, Prod.mk.injEq]
  constructor
  · rintro ⟨j, -, k', hk, rfl, rfl⟩
    exact hk
  · intro h
    refine ⟨i, ?_, k, h, rfl, rfl⟩
    by_contra hi
    have : cs[i]? = none := List.getElem?_eq_none (Nat.le_of_not_lt hi)
    simp [markerAt?, this] at h

/-- A marker is found wherever it stands. -/
theorem mem_places_ofChars {cs : List Char} {i : Nat} {k : Kind} :
    (i, k) ∈ (ofChars cs).places ↔ k.marker <+: cs.drop i := by
  rw [places_ofChars, mem_scan_iff, markerAt?_eq_some_iff]

end SqlWeave.Template
