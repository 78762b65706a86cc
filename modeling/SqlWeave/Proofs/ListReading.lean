/-
  Lists of literals, read back.

  A sequence is put into a statement as the literals of its elements, with a
  comma and a blank between them.  Strings may hold commas, quotes and whatever
  looks like a literal, so where an element ends is for the reader to find out.

  * `readList?` reads a list of literals, one by `readLiteral?` after another;
  * `suffix_of_readLiteral?`: what follows a literal is the end of the text, so
    reading on from there comes to an end;
  * `Value.IsListed` are the elements that a list tells, and `Value.frozen` is
    what is read for one of them;
  * `readList?_commaSeparated`: texts that are read back one by one are read back
    from their list;
  * `inList_read_back`: and so are the elements of a sequence.
-/
import SqlWeave.Conversion
import SqlWeave.Proofs.LiteralReading
import SqlWeave.Proofs.Numerals

namespace SqlWeave

variable {σ : Type}

/-! ## What is left over -/

section
variable {cs rest : List Char}

theorem exists_of_map_fst {α β : Type} {f : α → β} {o : Option (α × List Char)} {b : β}
    (h : (o.map fun r => (f r.1, r.2)) = some (b, rest)) : ∃ a, o = some (a, rest) := by
  obtain ⟨⟨a, rest'⟩, ho, he⟩ := Option.map_eq_some_iff.1 h
  cases he
  exact ⟨a, ho⟩

theorem suffix_of_readString? {item : List Char} (h : readString? cs = some (item, rest)) :
    rest <:+ cs := by
  fun_induction readString? cs generalizing item with
  | case1 cs ih =>
    obtain ⟨item', h⟩ := exists_of_map_fst h
    exact (ih h).trans (List.suffix_append ['\'', '\''] cs)
  | case2 cs =>
    cases h
    exact List.suffix_cons _ _
  | case3 c cs _ _ ih =>
    obtain ⟨item', h⟩ := exists_of_map_fst h
    exact (ih h).trans (List.suffix_cons c cs)
  | case4 => cases h

theorem suffix_of_readBytes? {item : List UInt8} (h : readBytes? cs = some (item, rest)) :
    rest <:+ cs := by
  fun_induction readBytes? cs generalizing item with
  | case1 cs =>
    cases h
    exact List.suffix_cons _ _
  | case2 a b cs _ ih =>
    simp only [Option.bind_eq_bind, Option.bind_eq_some_iff] at h
    obtain ⟨_, -, _, -, ⟨item', rest'⟩, hr, he⟩ := h
    cases he
    exact (ih hr).trans (List.suffix_append [a, b] cs)
  | case3 => cases h

theorem suffix_of_readInteger? {n : Int} (h : readInteger? cs = some (n, rest)) : rest <:+ cs := by
  simp only [readInteger?] at h
  split at h
  · cases h
  · cases h
    exact (List.dropWhile_suffix _).trans ⟨_, Numeral.splitSign_append cs⟩

/-- What follows a literal is the end of the text. -/
theorem suffix_of_readLiteral? {v : Value} (h : readLiteral? cs = some (v, rest)) : rest <:+ cs := by
  unfold readLiteral? at h
  split at h
  · cases h
    exact List.suffix_append ['N', 'U', 'L', 'L'] rest
  · cases h
    exact List.suffix_append ['T', 'R', 'U', 'E'] rest
  · cases h
    exact List.suffix_append ['F', 'A', 'L', 'S', 'E'] rest
  · obtain ⟨item, h⟩ := exists_of_map_fst h
    exact (suffix_of_readBytes? h).trans (List.suffix_append ['X', '\''] _)
  · obtain ⟨item, h⟩ := exists_of_map_fst (f := fun cs => Value.text (String.ofList cs)) h
    exact (suffix_of_readString? h).trans (List.suffix_cons '\'' _)
  · obtain ⟨n, h⟩ := exists_of_map_fst h
    exact suffix_of_readInteger? h

end

/-! ## The reader -/

/-- Reads literals with a comma and a blank between them, one at least, up to the end of the
    text. -/
def readLiterals? (cs : List Char) : Option (List Value) :=
  match _h : readLiteral? cs with
  | none => none
  | some (v, []) => some [v]
  | some (v, ',' :: ' ' :: cs') => (readLiterals? cs').map (v :: ·)
  | some _ => none
termination_by cs.length
decreasing_by
  have := (suffix_of_readLiteral? _h).length_le
  simp only [List.length_cons] at this
  omega

/-- Reads a list of literals; the empty text is the empty list. -/
def readList? (cs : List Char) : Option (List Value) :=
  if cs = [] then some [] else readLiterals? cs

theorem readLiterals?_of_end {cs : List Char} {v : Value} (h : readLiteral? cs = some (v, [])) :
    readLiterals? cs = some [v] := by
  rw [readLiterals?]
  split <;> simp_all

theorem readLiterals?_of_comma {cs cs' : List Char} {v : Value}
    (h : readLiteral? cs = some (v, ',' :: ' ' :: cs')) :
    readLiterals? cs = (readLiterals? cs').map (v :: ·) := by
  rw [readLiterals?]
  split <;> simp_all

/-- Texts that are read back one by one, one at least, are read back from their list. -/
theorem readLiterals?_commaSeparated {v : Value} {vs : List Value} {text : List Char}
    {texts : List (List Char)} (h : Decodes readLiteral? v text)
    (hs : List.Forall₂ (Decodes readLiteral?) vs texts) :
    readLiterals? (commaSeparated (text :: texts)) = some (v :: vs) := by
  induction hs generalizing v text with
  | nil =>
    have hread := h [] endsLiteral_nil
    rw [List.append_nil] at hread
    simpa [commaSeparated] using readLiterals?_of_end hread
  | @cons v' text' vs texts h' _ ih =>
    have hread := h (',' :: ' ' :: commaSeparated (text' :: texts)) (endsLiteral_comma _)
    rw [commaSeparated_cons_cons, readLiterals?_of_comma hread, ih h']
    rfl

theorem Decodes.ne_nil {v : Value} {text : List Char} (h : Decodes readLiteral? v text) :
    text ≠ [] := by
  rintro rfl
  have hread := h [] endsLiteral_nil
  cases hread

theorem commaSeparated_eq_nil_iff {vs : List Value} {texts : List (List Char)}
    (h : List.Forall₂ (Decodes readLiteral?) vs texts) : commaSeparated texts = [] ↔ vs = [] := by
  cases h with
  | nil => simp [commaSeparated]
  | cons hx _ => simp [commaSeparated_cons, hx.ne_nil]

/-- The same for any number of texts. -/
theorem readList?_commaSeparated {vs : List Value} {texts : List (List Char)}
    (h : List.Forall₂ (Decodes readLiteral?) vs texts) :
    readList? (commaSeparated texts) = some vs := by
  have hnil := commaSeparated_eq_nil_iff h
  cases h with
  | nil => rfl
  | cons hx hxs =>
    rw [readList?, if_neg (by simp [hnil]), readLiterals?_commaSeparated hx hxs]

/-! ## Sequences -/

namespace Value

/-- The elements that a list tells: nothing, truth values, integers that are not too long, texts and
    byte strings. -/
def IsListed : Value → Prop
  | none | bool _ | text _ | bytes _ | byteArray _ => True
  | int n => (Numeral.digits n.natAbs).length ≤ Numeral.maxDigits
  | _ => False

/-- The value, or its bytes if they can be changed. -/
def frozen : Value → Value
  | byteArray bs => bytes bs
  | v => v

end Value

theorem literal_frozen (v : Value) : literal v.frozen = literal v := by
  cases v <;> rfl

theorem isScalar_frozen {v : Value} (h : v.IsListed) : v.frozen.IsScalar := by
  cases v with
  | none | bool | int | text | bytes | byteArray => trivial
  | _ => exact h.elim

theorem exists_literal {v : Value} (h : v.IsListed) : ∃ text, literal v = .ok text := by
  cases v with
  | none | bool | text | bytes | byteArray => exact ⟨_, rfl⟩
  | int n => exact ⟨_, Value.integerText_of_length_le h⟩
  | _ => exact h.elim

theorem decodes_frozen {v : Value} (h : v.IsListed) {text : List Char} (ht : literal v = .ok text) :
    Decodes readLiteral? v.frozen text := by
  rw [← literal_frozen] at ht
  exact decodes_literal (isScalar_frozen h) ht

/-- Elements that a list tells have literals, from which they are read back. -/
theorem exists_literals {vs : List Value} (h : ∀ v ∈ vs, v.IsListed) :
    ∃ texts, vs.mapM literal = .ok texts ∧
      List.Forall₂ (Decodes readLiteral?) (vs.map Value.frozen) texts := by
  induction vs with
  | nil => exact ⟨[], rfl, .nil⟩
  | cons v vs ih =>
    obtain ⟨hv, hvs⟩ := List.forall_mem_cons.1 h
    obtain ⟨text, ht⟩ := exists_literal hv
    obtain ⟨texts, hts, hall⟩ := ih hvs
    refine ⟨text :: texts, ?_, .cons (decodes_frozen hv ht) hall⟩
    rw [List.mapM_cons, ht, hts]
    rfl

/-- With generic literals the text of a sequence is the list of its elements' literals. -/
theorem exec_inList_literalQuote {v : Value} (h : Kind.array.accepts v = true) (s : σ) :
    Act.exec (inList literalQuote v) s =
      ((((v.elements?.getD []).mapM literal).mapError Fault.outOfGenerator).map commaSeparated,
        s) := by
  have hquote : ∀ x, Act.exec (generated (literalQuote x)) s =
      ((literal x).mapError Fault.outOfGenerator, s) := fun _ => rfl
  rw [inList, Kind.checkShape_eq_ok_iff.2 h, Act.exec_bind, Act.exec_ofExcept]
  simp only
  rw [Act.exec_bind_pure, Act.exec_mapM hquote, mapM_mapError]

/-- **A sequence is read back from its list.**  The elements of a sequence that are nothing, truth
    values, integers of no more than `maxDigits` digits, texts or byte strings have a list of generic
    literals, and reading it gives exactly these elements in their order, those of changeable bytes as
    bytes.  The empty text is the list of the empty sequence and of no other. -/
theorem inList_read_back {v : Value} (hv : Kind.array.accepts v = true)
    (h : ∀ x ∈ v.elements?.getD [], x.IsListed) (s : σ) :
    ∃ text, Act.exec (inList literalQuote v) s = (.ok text, s) ∧
      readList? text = some ((v.elements?.getD []).map Value.frozen) ∧
      (text = [] ↔ v.elements?.getD [] = []) := by
  obtain ⟨texts, hts, hall⟩ := exists_literals h
  refine ⟨commaSeparated texts, ?_, readList?_commaSeparated hall, ?_⟩
  · rw [exec_inList_literalQuote hv, hts]
    rfl
  · rw [commaSeparated_eq_nil_iff hall, List.map_eq_nil_iff]

/-- Strings that hold separators, quotes and other literals are told from their neighbours. -/
theorem inList_read_back_separators :
    let v : Value := .tuple [.text "a', 'b", .text "NULL", .none, .int (-120), .byteArray [0, 255],
      .text "', X'00'", .bool true, .text ""]
    Kind.array.accepts v = true ∧ (∀ x ∈ v.elements?.getD [], x.IsListed) ∧
      readList? "'a'', ''b', 'NULL', NULL, -120, X'00ff', ''', X''00''', TRUE, ''".toList =
        some [.text "a', 'b", .text "NULL", .none, .int (-120), .bytes [0, 255],
          .text "', X'00'", .bool true, .text ""] := by
  intro v
  have hdigits : (Numeral.digits (-120 : Int).natAbs).length ≤ Numeral.maxDigits := by decide
  have h : ∀ x ∈ v.elements?.getD [], x.IsListed := by
    simp only [v, Value.elements?, Option.getD_some, List.forall_mem_cons]
    exact ⟨trivial, trivial, trivial, hdigits, trivial, trivial, trivial, trivial, nofun⟩
  obtain ⟨text, ht, hread, -⟩ := inList_read_back (v := v) rfl h ()
  have htext : Act.exec (inList literalQuote v) () =
      (.ok "'a'', ''b', 'NULL', NULL, -120, X'00ff', ''', X''00''', TRUE, ''".toList, ()) := by
    rw [exec_inList_literalQuote rfl]
    simp only [v, Value.elements?, Option.getD_some, List.mapM_cons, List.mapM_nil, literal,
      Value.integerText_of_length_le hdigits]
    rfl
  rw [htext] at ht
  cases ht
  exact ⟨rfl, h, hread⟩

end SqlWeave
