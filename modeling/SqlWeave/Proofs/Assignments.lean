/-
  Assignments told from their text.

  A mapping is put into a statement as a list of assignments, each a field's
  name between backticks, an equals sign and the literal of its value.  The name
  is not escaped, so it ends where an equals sign first follows a backtick.

  * `readAssignment?` reads an assignment, whose name ends there;
  * `IsField` are the entries whose name holds no such place and whose value is
    a scalar; they are read back from their assignments (`decodes_assignment`);
  * `setList_injective`: mappings of such entries with one text are the same;
  * `setList_one_text`: a name that holds a backtick and an equals sign can pass
    for an assignment of its own.
-/
import SqlWeave.Conversion
import SqlWeave.Proofs.LiteralReading

namespace SqlWeave

variable {σ : Type}

/-! ## Mappings under generic literals -/

/-- The assignment of an entry, its value written as a generic literal. -/
def assignmentText (e : Value × Value) : Except Fault (List Char) := do
  let name ← e.1.plain
  return backticked name ++ '=' :: (← literal e.2)

theorem exec_assignment_literalQuote (e : Value × Value) (s : σ) :
    Act.exec (assignment literalQuote e) s = (assignmentText e, s) := by
  simp only [assignment, Act.exec_bind, Act.exec_ofExcept, literalQuote, assignmentText]
  rcases e.1.plain with f | name
  · rfl
  · rcases literal e.2 with f | text <;> rfl

theorem exec_mapM_assignment (es : List (Value × Value)) (s : σ) :
    Act.exec (es.mapM fun e => generated (assignment literalQuote e)) s =
      ((es.mapM assignmentText).mapError Fault.outOfGenerator, s) := by
  rw [← mapM_mapError]
  refine Act.exec_mapM (fun e => ?_) es
  rw [generated, Act.exec_mapError, exec_assignment_literalQuote]

/-- With generic literals the assignments of a mapping are its entries' own. -/
theorem exec_setList_literalQuote {v : Value} {es : List (Value × Value)} (h : v.entries? = some es)
    (s : σ) :
    Act.exec (setList literalQuote v) s =
      (((es.mapM assignmentText).mapError Fault.outOfGenerator).map commaSeparated, s) := by
  have hshape : Kind.assoc.checkShape v = .ok () :=
    Kind.checkShape_eq_ok_iff.2 (by simp [Kind.accepts, Value.isMapping, h])
  rw [setList, hshape, Act.exec_bind, Act.exec_ofExcept]
  simp only [h, Option.getD_some]
  rw [Act.exec_bind_pure, exec_mapM_assignment]

/-! ## Reading assignments -/

/-- Reads a name up to the first backtick that an equals sign follows. -/
def readName? : List Char → Option (List Char × List Char)
  | '`' :: '=' :: cs => some ([], cs)
  | c :: cs => (readName? cs).map fun r => (c :: r.1, r.2)
  | [] => none

/-- Reads an assignment. -/
def readAssignment? : List Char → Option ((Value × Value) × List Char)
  | '`' :: cs => do
    let (name, cs) ← readName? cs
    let (value, rest) ← readLiteral? cs
    return ((.text (String.ofList name), value), rest)
  | _ => none

/-- An entry whose name is a text in which no equals sign follows a backtick, and whose value is a
    scalar. -/
def IsField (e : Value × Value) : Prop :=
  ∃ name, e.1 = .text name ∧ ¬ ['`', '='] <:+: name.toList ∧ e.2.IsScalar

theorem readName?_append {name : List Char} (h : ¬ ['`', '='] <:+: name) (rest : List Char) :
    readName? (name ++ '`' :: '=' :: rest) = some (name, rest) := by
  induction name with
  | nil => rfl
  | cons c cs ih =>
    have hcs : ¬ ['`', '='] <:+: cs := fun hin => h (hin.trans (List.suffix_cons c cs).isInfix)
    -- the name does not end here, since with its first character no closing begins
    have hopen : ∀ ds, cs ++ '`' :: '=' :: rest = '=' :: ds → c ≠ '`' := by
      rintro ds hds rfl
      cases cs with
      | nil => simp at hds
      | cons c cs =>
        obtain ⟨rfl, -⟩ := List.cons.inj hds
        exact h ⟨[], cs, rfl⟩
    rw [List.cons_append, readName?, ih hcs]
    · rfl
    · intro ds hc hds
      exact hopen ds hds hc

/-- A field is read back from its assignment. -/
theorem decodes_assignment {e : Value × Value} (he : IsField e) {text : List Char}
    (h : assignmentText e = .ok text) : Decodes readAssignment? e text := by
  intro rest hrest
  obtain ⟨field, value⟩ := e
  obtain ⟨name, rfl, hname, hvalue⟩ := he
  obtain ⟨_, hplain, h⟩ := bind_eq_ok_iff.1 h
  cases hplain
  obtain ⟨lit, hlit, h⟩ := bind_eq_ok_iff.1 h
  cases h
  have hread := decodes_literal hvalue hlit rest hrest
  have htext : backticked name.toList ++ '=' :: lit ++ rest =
      '`' :: (name.toList ++ '`' :: '=' :: (lit ++ rest)) := by simp [backticked]
  rw [htext, readAssignment?, readName?_append hname]
  simp [hread]

theorem decodes_assignments {es : List (Value × Value)} (hes : ∀ e ∈ es, IsField e)
    {texts : List (List Char)} (h : es.mapM assignmentText = .ok texts) :
    List.Forall₂ (Decodes readAssignment?) es texts := by
  induction es generalizing texts with
  | nil =>
    cases h
    exact .nil
  | cons e es ih =>
    obtain ⟨he, hes⟩ := List.forall_mem_cons.1 hes
    rw [List.mapM_cons, bind_eq_ok_iff] at h
    obtain ⟨text, htext, h⟩ := h
    obtain ⟨ts, hts, h⟩ := bind_eq_ok_iff.1 h
    cases h
    exact .cons (decodes_assignment he htext) (ih hes hts)

/-- **A list of assignments tells the fields and their values.**  Two mappings of fields, in whose
    names no equals sign follows a backtick, to scalars have the same fields in the same order, each
    with the same value of the same type, if generic literals give the same text for both. -/
theorem setList_injective {v v' : Value} {es es' : List (Value × Value)} (h : v.entries? = some es)
    (h' : v'.entries? = some es') (hes : ∀ e ∈ es, IsField e) (hes' : ∀ e ∈ es', IsField e)
    {s s' : σ} {text : List Char} (ht : (Act.exec (setList literalQuote v) s).1 = .ok text)
    (ht' : (Act.exec (setList literalQuote v') s').1 = .ok text) : es = es' := by
  rw [exec_setList_literalQuote h] at ht
  rw [exec_setList_literalQuote h'] at ht'
  obtain ⟨texts, htexts, rfl⟩ := map_eq_ok_iff.1 ht
  obtain ⟨texts', htexts', heq⟩ := map_eq_ok_iff.1 ht'
  exact eq_of_commaSeparated rfl (decodes_assignments hes (mapError_eq_ok_iff.1 htexts))
    (decodes_assignments hes' (mapError_eq_ok_iff.1 htexts')) heq.symm

/-- Strings may hold what separates assignments, and names may hold backticks. -/
theorem setList_injective_separators :
    ∃ (v : Value) (es : List (Value × Value)) (text : List Char),
      v.entries? = some es ∧ (∀ e ∈ es, IsField e) ∧
      (Act.exec (setList literalQuote v) ()).1 = .ok text ∧
      text = "`a``='x'', `b`=1', `b`=NULL".toList ∧
      ∀ es', (∀ e ∈ es', IsField e) →
        (Act.exec (setList literalQuote (.dict es')) ()).1 = .ok text → es = es' := by
  have hes : ∀ e ∈ [(Value.text "a`", Value.text "x', `b`=1"), (.text "b", .none)], IsField e := by
    refine List.forall_mem_cons.2 ⟨⟨"a`", rfl, by decide, trivial⟩, ?_⟩
    exact List.forall_mem_singleton.2 ⟨"b", rfl, by decide, trivial⟩
  have ht : (Act.exec (setList literalQuote
      (.dict [(.text "a`", .text "x', `b`=1"), (.text "b", .none)])) ()).1 =
        .ok "`a``='x'', `b`=1', `b`=NULL".toList := by rfl
  exact ⟨_, _, _, rfl, hes, ht, rfl, fun es' hes' ht' => setList_injective rfl rfl hes hes' ht ht'⟩

/-- One name can bring in an assignment of its own: a mapping of one field and one of two have the
    same text. -/
theorem setList_one_text :
    ∃ (es es' : List (Value × Value)) (text : List Char),
      (∀ e ∈ es ++ es', (∃ name, e.1 = .text name) ∧ e.2.IsScalar) ∧
      (Act.exec (setList literalQuote (.dict es)) ()).1 = .ok text ∧
      (Act.exec (setList literalQuote (.dict es')) ()).1 = .ok text ∧
      text = "`role`='admin', `name`='ann'".toList ∧ es.length = 1 ∧ es'.length = 2 := by
  refine ⟨[(.text "role`='admin', `name", .text "ann")],
    [(.text "role", .text "admin"), (.text "name", .text "ann")], _, ?_, rfl, rfl, rfl, rfl, rfl⟩
  simp [Value.IsScalar]

end SqlWeave
