/-
  Fragments of templates.

  A fragment is compiled by itself and put into a template by `?p`, or its
  template is written into the other one and all is compiled at once.

  * `append` joins two templates, and `ofChars_append` splits a text in two
    parts by splitting each, unless the two parts make a marker across their
    seam (`Seam`);
  * `le_count_append` and `not_seam_of_count`: a seam only ever adds a marker,
    so the number of markers tells whether there is one;
  * `exec_compile_list`: the outcome of a compilation as one expression, with or
    without markers;
  * `compile_fragment`: both ways of using a fragment come to the same.
-/
import SqlWeave.Proofs.Places
import SqlWeave.Proofs.Reading

namespace SqlWeave.Template

variable {σ : Type}

/-! ## Joining templates -/

/-- The template `u` after a text and markers. -/
def appendFrom (u : Template) (l : List Char) : List (Kind × List Char) → Template
  | [] => ⟨l ++ u.head, u.tail⟩
  | (k, l') :: ps => ⟨l, (pushKind k (appendFrom u l' ps)).tail⟩

/-- Two templates one after the other.  The last text of the first goes on with the first text of
    the second. -/
def append (t u : Template) : Template := appendFrom u t.head t.tail

theorem nil_append (u : Template) : append ⟨[], []⟩ u = u := rfl

theorem push_append (c : Char) (t u : Template) : (push c t).append u = push c (t.append u) := by
  obtain ⟨l, _ | ⟨p, ps⟩⟩ := t <;> rfl

theorem pushKind_append (k : Kind) (t u : Template) :
    (pushKind k t).append u = pushKind k (t.append u) := rfl

theorem kinds_append (t u : Template) : (t.append u).kinds = t.kinds ++ u.kinds := by
  obtain ⟨l, ps⟩ := t
  induction ps generalizing l with
  | nil => rfl
  | cons p ps ih => exact congrArg (p.1 :: ·) (ih p.2)

theorem count_append (t u : Template) : (t.append u).count = t.count + u.count := by
  rw [← length_kinds, kinds_append, List.length_append, length_kinds, length_kinds]

/-- Joined templates are filled one after the other. -/
theorem fill_append (t u : Template) {xs : List (List Char)} (h : xs.length = t.count)
    (ys : List (List Char)) : (t.append u).fill (xs ++ ys) = t.fill xs ++ u.fill ys := by
  obtain ⟨l, ps⟩ := t
  induction ps generalizing l xs with
  | nil =>
    obtain rfl := List.eq_nil_of_length_eq_zero h
    simp [append, appendFrom, fill]
  | cons p ps ih =>
    obtain ⟨k, l'⟩ := p
    obtain _ | ⟨x, xs⟩ := xs
    · cases h
    have hr : append ⟨l, (k, l') :: ps⟩ u = ⟨l, (pushKind k (append ⟨l', ps⟩ u)).tail⟩ := rfl
    rw [hr, List.cons_append, fill_cons, List.append_assoc, List.append_assoc,
      ← ih l' (Nat.succ.inj h), pushKind, fill_cons]

/-! ## Seams -/

/-- A text that ends with a question mark is followed by one that begins with a marker's letter. -/
def Seam (a b : List Char) : Prop := ∃ k : Kind, a.getLast? = some '?' ∧ b.head? = some k.letter

theorem Seam.append_left {a b : List Char} (h : Seam a b) (c : List Char) : Seam (c ++ a) b := by
  obtain ⟨k, ha, hb⟩ := h
  exact ⟨k, by rw [List.getLast?_append, ha, Option.some_or], hb⟩

theorem not_seam_question (a b : List Char) : ¬ Seam a ('?' :: b) := by
  rintro ⟨k, -, hb⟩
  exact k.letter_ne_question (Option.some.inj hb).symm

/-- Without a seam a text in two parts is split part by part. -/
theorem ofChars_append {a b : List Char} (h : ¬ Seam a b) :
    ofChars (a ++ b) = (ofChars a).append (ofChars b) := by
  induction a using markerInduction with
  | nil => rfl
  | marker k cs ih =>
    rw [List.append_assoc, ofChars_marker, ofChars_marker, pushKind_append,
      ih fun hs => h (hs.append_left _)]
  | char c cs hc ih =>
    have hc' : ¬ OpensMarker (c :: (cs ++ b)) := by
      rintro ⟨k, hk⟩
      cases cs with
      | nil =>
        cases b with
        | nil => exact hc ⟨k, hk⟩
        | cons d b =>
          -- the marker consists of the last character and the next
          obtain ⟨rfl, rfl⟩ := marker_prefix_iff.1 hk
          exact h ⟨k, rfl, rfl⟩
      | cons d cs => exact hc ⟨k, marker_prefix_iff.2 (marker_prefix_iff.1 hk)⟩
    rw [List.cons_append, ofChars_cons hc', ofChars_cons hc, push_append,
      ih fun hs => h (hs.append_left [c])]

/-- A seam makes one marker more. -/
theorem count_append_of_seam {a b : List Char} (h : Seam a b) :
    (ofChars (a ++ b)).count = (ofChars a).count + (ofChars b).count + 1 := by
  obtain ⟨k, ha, hb⟩ := h
  obtain ⟨a, rfl⟩ := List.getLast?_eq_some_iff.1 ha
  obtain ⟨b, rfl⟩ := List.head?_eq_some_iff.1 hb
  have hab : a ++ ['?'] ++ k.letter :: b = a ++ ('?' :: k.letter :: b) := by simp
  have hk : ofChars ('?' :: k.letter :: b) = pushKind k (ofChars b) := ofChars_marker k b
  rw [hab, ofChars_append (not_seam_question _ _), ofChars_append (not_seam_question _ _), hk,
    ofChars_cons (not_opensMarker_letter k b), count_append, count_append, count_pushKind,
    count_push]
  rfl

/-- Putting texts together loses no marker. -/
theorem le_count_append (a b : List Char) :
    (ofChars a).count + (ofChars b).count ≤ (ofChars (a ++ b)).count := by
  by_cases h : Seam a b
  · rw [count_append_of_seam h]
    exact Nat.le_succ _
  · rw [ofChars_append h, count_append]

theorem not_seam_of_count {a b : List Char}
    (h : (ofChars (a ++ b)).count = (ofChars a).count + (ofChars b).count) : ¬ Seam a b := by
  intro hs
  rw [count_append_of_seam hs] at h
  omega

/-! ## Splitting at a place -/

/-- Before the marker of number `n` there are `n` markers. -/
theorem count_take_place {cs : List Char} {n i : Nat} {k : Kind}
    (h : (ofChars cs).places[n]? = some (i, k)) : (ofChars (cs.take i)).count = n := by
  induction cs using markerInduction generalizing n i with
  | nil => cases h
  | marker k' cs ih =>
    rw [ofChars_marker, places_pushKind] at h
    cases n with
    | zero =>
      cases h
      rfl
    | succ n =>
      rw [List.getElem?_cons_succ, List.getElem?_map, Option.map_eq_some_iff] at h
      obtain ⟨⟨j, k⟩, hj, he⟩ := h
      cases he
      have ht : (k'.marker ++ cs).take (j + 2) = k'.marker ++ cs.take j := rfl
      rw [ht, ofChars_marker, count_pushKind, ih hj]
  | char c cs hc ih =>
    rw [ofChars_cons hc, places_push, List.getElem?_map, Option.map_eq_some_iff] at h
    obtain ⟨⟨j, k⟩, hj, he⟩ := h
    cases he
    have hc' : ¬ OpensMarker (c :: cs.take j) :=
      fun ho => hc (ho.of_prefix (List.cons_prefix_cons.2 ⟨rfl, List.take_prefix j cs⟩))
    rw [List.take_succ_cons, ofChars_cons hc', count_push, ih hj]

/-- A text with a marker at position `i` is split before and after it. -/
theorem ofChars_of_place {cs : List Char} {i : Nat} {k : Kind} (h : (i, k) ∈ (ofChars cs).places) :
    ofChars cs = (ofChars (cs.take i)).append (pushKind k (ofChars (cs.drop (i + 2)))) := by
  obtain ⟨rest, hr⟩ := mem_places_ofChars.1 h
  have hd : cs.drop (i + 2) = rest := by
    rw [← List.drop_drop, ← hr]
    rfl
  have hs : ¬ Seam (cs.take i) (k.marker ++ rest) := not_seam_question _ _
  rw [hd, ← ofChars_marker, ← ofChars_append hs, hr, List.take_append_drop]

/-! ## Compilations of lists of parameters -/

theorem checkShapes_append (ps qs : List (Kind × Value)) :
    checkShapes (ps ++ qs) = checkShapes ps >>= fun _ => checkShapes qs := by
  induction ps with
  | nil => rfl
  | cons p ps ih =>
    rw [List.cons_append, checkShapes, checkShapes, ih]
    rcases p.1.checkShape p.2 with f | _ <;> rfl

theorem convertEach_append (convert : Kind → Value → Except Fault (List Char))
    (ps qs : List (Kind × Value)) :
    convertEach convert (ps ++ qs) = do
      let xs ← convertEach convert ps
      let ys ← convertEach convert qs
      return xs ++ ys := List.mapM_append

theorem length_convertEach {convert : Kind → Value → Except Fault (List Char)}
    {ps : List (Kind × Value)} {texts : List (List Char)} (h : convertEach convert ps = .ok texts) :
    texts.length = ps.length := by
  induction ps generalizing texts with
  | nil => exact congrArg List.length (Except.ok.inj h).symm
  | cons p ps ih =>
    rw [convertEach_cons, bind_eq_ok_iff] at h
    obtain ⟨text, -, h⟩ := h
    obtain ⟨texts', ht, he⟩ := bind_eq_ok_iff.1 h
    rw [← Except.ok.inj he, List.length_cons, List.length_cons, ih ht]

/-- What comes of filling `t` with the parameters `vs`, one for each marker. -/
def filled (quote : Quote σ) (s : σ) (t : Template) (vs : List Value) : Except Fault String := do
  checkShapes (t.kinds.zip vs)
  let texts ← convertEach (converted quote s) (t.kinds.zip vs)
  return String.ofList (t.fill texts)

/-- A compilation of as many parameters as there are markers, also if there are none. -/
theorem exec_compile_list {quote : Quote σ} (hq : Quiet quote) {source : String} {vs : List Value}
    (h : vs.length = (ofString source).count) (s : σ) :
    Act.exec (compile source (.list vs) quote) s = (filled quote s (ofString source) vs, s) := by
  by_cases h0 : (ofString source).count = 0
  · have hf : String.ofList ((ofString source).fill []) = source := by
      rw [fill_nil_of_count_eq_zero h0, String.ofList_toList]
    rw [exec_compile_of_count_eq_zero _ _ h0, filled, kinds_of_count_eq_zero h0]
    exact congrArg (fun x => (Except.ok x, s)) hf.symm
  · have he : (Value.list vs).elements?.getD [] = vs := rfl
    rw [exec_compile, filled]
    simp only [h0, if_false, Value.length_list, h, ne_eq, not_true_eq_false, he,
      exec_convertAll_of_quiet hq]
    rcases checkShapes _ with f | _
    · rfl
    · rcases convertEach _ _ with f | texts <;> rfl

/-- A successful filling, step by step. -/
theorem filled_eq_ok_iff {quote : Quote σ} {s : σ} {t : Template} {vs : List Value} {text : String} :
    filled quote s t vs = .ok text ↔
      checkShapes (t.kinds.zip vs) = .ok () ∧
        ∃ texts, convertEach (converted quote s) (t.kinds.zip vs) = .ok texts ∧
          String.ofList (t.fill texts) = text := by
  simp only [filled, bind_eq_ok_iff]
  constructor
  · rintro ⟨_, hc, texts, ht, he⟩
    exact ⟨hc, texts, ht, Except.ok.inj he⟩
  · rintro ⟨hc, texts, ht, rfl⟩
    exact ⟨(), hc, texts, ht, rfl⟩

/-! ## Fragments -/

/-- The text `source` with `fragment` in the place of the two characters from position `i` on. -/
def replaceAt (source : String) (i : Nat) (fragment : String) : String :=
  String.ofList (source.toList.take i ++ (fragment.toList ++ source.toList.drop (i + 2)))

theorem converted_raw_text (quote : Quote σ) (s : σ) (f : String) :
    converted quote s .raw (.text f) = .ok f.toList := rfl

/-- Three texts between which no marker arises are split one by one. -/
theorem ofChars_append_append {a b c : List Char}
    (h : (ofChars (a ++ (b ++ c))).count =
      (ofChars a).count + (ofChars b).count + (ofChars c).count) :
    ofChars (a ++ (b ++ c)) = (ofChars a).append ((ofChars b).append (ofChars c)) := by
  have h₁ := le_count_append a (b ++ c)
  have h₂ := le_count_append b c
  rw [ofChars_append (not_seam_of_count (by omega)), ofChars_append (not_seam_of_count (by omega))]

/-- A fragment's own template may stand in the place of a marker that the fragment is given to. -/
theorem filled_fragment {quote : Quote σ} {s : σ} {a b u : Template} {f : String}
    {before inner after : List Value} (hb : before.length = a.count) (hi : inner.length = u.count)
    (hf : filled quote s u inner = .ok f) :
    filled quote s (a.append (pushKind .raw b)) (before ++ .text f :: after) =
      filled quote s (a.append (u.append b)) (before ++ (inner ++ after)) := by
  obtain ⟨hc, xs, hx, rfl⟩ := filled_eq_ok_iff.1 hf
  have hxs : xs.length = u.count := by
    rw [length_convertEach hx, List.length_zip, length_kinds, hi, Nat.min_self]
  have hz : ∀ ks vs, (a.kinds ++ ks).zip (before ++ vs) = a.kinds.zip before ++ ks.zip vs :=
    fun _ _ => List.zip_append (by rw [length_kinds, hb])
  have hz' : (u.kinds ++ b.kinds).zip (inner ++ after) = u.kinds.zip inner ++ b.kinds.zip after :=
    List.zip_append (by rw [length_kinds, hi])
  -- the fragment adds nothing to the checks: it is accepted, and so were its parameters
  have hshapes : checkShapes (a.kinds.zip before ++ (u.kinds.zip inner ++ b.kinds.zip after)) =
      checkShapes (a.kinds.zip before ++ (.raw, .text (String.ofList (u.fill xs))) ::
        b.kinds.zip after) := by
    rw [checkShapes_append, checkShapes_append, checkShapes_append, hc]
    rfl
  simp only [filled, kinds_append, kinds_pushKind, hz, hz', List.zip_cons_cons, hshapes]
  rcases checkShapes _ with g | _
  · rfl
  simp only [convertEach_append, convertEach_cons, converted_raw_text, hx, String.toList_ofList]
  rcases hy : convertEach (converted quote s) (a.kinds.zip before) with g | ys
  · rfl
  have hys : ys.length = a.count := by
    rw [length_convertEach hy, List.length_zip, length_kinds, hb, Nat.min_self]
  rcases convertEach (converted quote s) (b.kinds.zip after) with g | zs
  · rfl
  have hfill : (a.append (pushKind .raw b)).fill (ys ++ u.fill xs :: zs) =
      (a.append (u.append b)).fill (ys ++ (xs ++ zs)) := by
    rw [fill_append _ _ hys, fill_append _ _ hys, fill_pushKind, fill_append _ _ hxs]
  exact congrArg (fun cs => Except.ok (String.ofList cs)) hfill

/-- **A compiled fragment and its template come to the same.**  Where the marker of number `n` of a
    template asks for a fragment, one may give it the text of a compiled fragment; or write the
    fragment's template in its place, with the fragment's parameters among the others.  If no marker
    arises at the seams, both have the same outcome: the same text, or the same failure. -/
theorem compile_fragment {quote : Quote σ} (hq : Quiet quote) (s : σ) {source fragment f : String}
    {n i : Nat} {before inner after : List Value}
    (hp : (ofString source).places[n]? = some (i, .raw)) (hb : before.length = n)
    (hi : inner.length = (ofString fragment).count)
    (ha : after.length = (ofString source).count - n - 1)
    (hf : (Act.exec (compile fragment (.list inner) quote) s).1 = .ok f)
    (hs : (ofString (replaceAt source i fragment)).count =
      (ofString source).count - 1 + (ofString fragment).count) :
    Act.exec (compile source (.list (before ++ [.text f] ++ after)) quote) s =
      Act.exec (compile (replaceAt source i fragment) (.list (before ++ inner ++ after)) quote) s := by
  have ht : ofString source = _ := ofChars_of_place (List.mem_of_getElem? hp)
  have hn := count_take_place hp
  have hc := congrArg count ht
  rw [count_append, count_pushKind] at hc
  have hr : ofString (replaceAt source i fragment) = ofChars (source.toList.take i ++
      (fragment.toList ++ source.toList.drop (i + 2))) := by
    rw [ofString, replaceAt, String.toList_ofList]
  have hu : (ofString fragment).count = (ofChars fragment.toList).count := rfl
  have hl : (before ++ [Value.text f] ++ after).length = (ofString source).count := by
    simp only [List.length_append, List.length_singleton]
    omega
  have hl' : (before ++ inner ++ after).length = (ofString (replaceAt source i fragment)).count := by
    simp only [List.length_append]
    omega
  rw [exec_compile_list hq hi] at hf
  rw [exec_compile_list hq hl, exec_compile_list hq hl']
  -- the number of markers leaves no room for one at a seam
  rw [hr] at hs
  rw [ofChars_append_append (by omega), ← ofString] at hr
  rw [ht, hr, List.append_assoc, List.append_assoc, List.singleton_append,
    filled_fragment (by omega) hi hf]

/-- A fragment with a marker in one of its values, which is not read again. -/
theorem compile_fragment_condition :
    let source := "SELECT ?i FROM t ?p LIMIT ?i"
    let fragment := "WHERE a IN (?a)"
    let before : List Value := [.int 1]
    let inner : List Value := [.list [.text "?p", .text "b'"]]
    let after : List Value := [.int 5]
    let f := "WHERE a IN ('?p', 'b''')"
    Quiet (literalQuote : Quote Unit) ∧
      (ofString source).places[1]? = some (17, .raw) ∧ before.length = 1 ∧
      inner.length = (ofString fragment).count ∧
      after.length = (ofString source).count - 1 - 1 ∧
      (Act.exec (compile fragment (.list inner) literalQuote) ()).1 = .ok f ∧
      (ofString (replaceAt source 17 fragment)).count =
        (ofString source).count - 1 + (ofString fragment).count ∧
      Act.exec (compile source (.list (before ++ [.text f] ++ after)) literalQuote) () =
        Act.exec (compile (replaceAt source 17 fragment) (.list (before ++ inner ++ after))
          literalQuote) () :=
  ⟨quiet_literalQuote, by decide, rfl, by decide, by decide, rfl, by decide,
    compile_fragment quiet_literalQuote () (by decide) rfl (by decide) (by decide) rfl (by decide)⟩

end SqlWeave.Template
