/-
  Comments in SQL texts.

  A comment begins with `--` or with a slash and a star, unless these stand
  within a string.  Of a text in two parts it may begin where the parts meet, so
  what may be put next to a text depends on its first and its last character.

  * `CommentFree` says that no comment begins outside of the strings of a text,
    and `Joins` that the sign of one stands where two texts meet;
  * `commentFreeFrom_append`: comments begin in a part or where the parts meet;
  * `Settled` texts have no comment and begin none with what follows them;
    `Signed` ones are not empty, and their first character may be a minus sign;
  * `signed_literal`: a literal is settled, and a minus sign begins it for a
    negative number only.
-/
import SqlWeave.Proofs.Skeleton

namespace SqlWeave

/-! ## Texts without comments -/

/-- The text begins with the sign of a comment. -/
def BeginsComment (cs : List Char) : Prop := ['-', '-'] <+: cs ∨ ['/', '*'] <+: cs

/-- No comment begins outside of strings, where `inside` says whether the text begins within one. -/
def CommentFreeFrom (inside : Bool) (cs : List Char) : Prop :=
  ∀ before after, cs = before ++ after → insideAfter inside before = false → ¬ BeginsComment after

/-- No comment begins outside of the strings of the text. -/
def CommentFree (cs : List Char) : Prop := CommentFreeFrom false cs

/-- The sign of a comment stands where the two texts meet. -/
def Joins (cs ds : List Char) : Prop :=
  cs.getLast? = some '-' ∧ ds.head? = some '-' ∨ cs.getLast? = some '/' ∧ ds.head? = some '*'

theorem beginsComment_cons {c : Char} {cs : List Char} :
    BeginsComment (c :: cs) ↔ Joins [c] cs := by
  cases cs <;> simp [BeginsComment, Joins, List.cons_prefix_cons, eq_comm]

theorem not_beginsComment_nil : ¬ BeginsComment [] := by simp [BeginsComment]

theorem not_beginsComment_singleton (c : Char) : ¬ BeginsComment [c] := by
  simp [beginsComment_cons, Joins]

theorem commentFreeFrom_nil (inside : Bool) : CommentFreeFrom inside [] := by
  intro before after h _
  obtain ⟨-, rfl⟩ := List.append_eq_nil_iff.1 h.symm
  exact not_beginsComment_nil

theorem commentFreeFrom_cons {inside : Bool} {c : Char} {cs : List Char} :
    CommentFreeFrom inside (c :: cs) ↔
      (inside = false → ¬ BeginsComment (c :: cs)) ∧
        CommentFreeFrom (insideAfter inside [c]) cs := by
  constructor
  · intro h
    refine ⟨fun hi => h [] (c :: cs) rfl (by rwa [insideAfter_nil]), ?_⟩
    rintro before after rfl hi
    exact h (c :: before) after rfl (by rwa [← List.singleton_append, insideAfter_append])
  · rintro ⟨hc, hcs⟩ before after h hi
    cases before with
    | nil =>
      rw [List.nil_append] at h
      rw [insideAfter_nil] at hi
      exact h ▸ hc hi
    | cons b before =>
      obtain ⟨rfl, rfl⟩ := List.cons.inj h
      rw [← List.singleton_append, insideAfter_append] at hi
      exact hcs before after rfl hi

theorem commentFreeFrom_singleton (inside : Bool) (c : Char) : CommentFreeFrom inside [c] :=
  commentFreeFrom_cons.2 ⟨fun _ => not_beginsComment_singleton c, commentFreeFrom_nil _⟩

/-- The comments of a text in two parts begin in one of the parts, or where these meet. -/
theorem commentFreeFrom_append {inside : Bool} {cs ds : List Char} :
    CommentFreeFrom inside (cs ++ ds) ↔
      CommentFreeFrom inside cs ∧ CommentFreeFrom (insideAfter inside cs) ds ∧
        (insideAfter inside cs = false → ¬ Joins cs ds) := by
  induction cs generalizing inside with
  | nil => simp [commentFreeFrom_nil, insideAfter_nil, Joins]
  | cons c cs ih =>
    rw [List.cons_append, commentFreeFrom_cons, ih, ← insideAfter_append, List.singleton_append]
    cases cs with
    | nil =>
      -- a quote begins no comment, and any other character changes no state
      have hc : (inside = false → ¬ BeginsComment (c :: ds)) ↔
          (insideAfter inside [c] = false → ¬ Joins [c] ds) := by
        rw [beginsComment_cons]
        by_cases h : c = '\''
        · simp [h, Joins]
        · rw [insideAfter_cons_of_ne h, insideAfter_nil]
      have hnil : ¬ Joins [] ds := by simp [Joins]
      simp only [List.nil_append, hc, commentFreeFrom_nil, commentFreeFrom_singleton, hnil,
        not_false_eq_true, implies_true, true_and, and_true]
      exact and_comm
    | cons d cs =>
      have hbegins : BeginsComment (c :: (d :: cs ++ ds)) ↔ BeginsComment (c :: d :: cs) := by
        simp [beginsComment_cons, Joins]
      have hjoins : Joins (c :: d :: cs) ds ↔ Joins (d :: cs) ds := by simp [Joins]
      rw [hbegins, hjoins, commentFreeFrom_cons (c := c), and_assoc]

theorem commentFree_append {cs ds : List Char} (h : Even (cs.count '\'')) :
    CommentFree (cs ++ ds) ↔ CommentFree cs ∧ CommentFree ds ∧ ¬ Joins cs ds := by
  rw [CommentFree, commentFreeFrom_append, insideAfter_of_even h]
  simp [CommentFree]

/-- A text without the signs of comments is free of comments. -/
theorem commentFree_of_infix {cs : List Char} (h : ¬ ['-', '-'] <:+: cs) (h' : ¬ ['/', '*'] <:+: cs) :
    CommentFree cs := by
  rintro before after rfl - (hb | hb)
  · exact h (hb.isInfix.trans (List.suffix_append _ _).isInfix)
  · exact h' (hb.isInfix.trans (List.suffix_append _ _).isInfix)

/-! ## Settled texts -/

/-- The text has no comment, and begins none with what follows it.  With what stands before it, it can
    only begin one of two minus signs. -/
structure Settled (cs : List Char) : Prop where
  /-- All strings are closed. -/
  closed : Even (cs.count '\'')
  /-- The text has no comment. -/
  commentFree : CommentFree cs
  /-- It does not begin with a star. -/
  head : cs.head? ≠ some '*'
  /-- It does not end in a minus sign. -/
  last : cs.getLast? ≠ some '-'
  /-- Nor does it end in a slash. -/
  last' : cs.getLast? ≠ some '/'

theorem Settled.not_joins {cs : List Char} (h : Settled cs) (ds : List Char) : ¬ Joins cs ds := by
  simp [Joins, h.last, h.last']

theorem settled_nil : Settled [] := ⟨.zero, commentFreeFrom_nil false, nofun, nofun, nofun⟩

theorem getLast?_append_ne {cs ds : List Char} {c : Char} (hc : cs.getLast? ≠ some c)
    (hd : ds.getLast? ≠ some c) : (cs ++ ds).getLast? ≠ some c := by
  rw [List.getLast?_append, ne_eq, Option.or_eq_some_iff]
  rintro (h | ⟨-, h⟩)
  · exact hd h
  · exact hc h

theorem Settled.append {cs ds : List Char} (hc : Settled cs) (hd : Settled ds) :
    Settled (cs ++ ds) := by
  refine ⟨?_, ?_, ?_, ?_, ?_⟩
  · rw [List.count_append]
    exact hc.closed.add hd.closed
  · exact (commentFree_append hc.closed).2 ⟨hc.commentFree, hd.commentFree, hc.not_joins ds⟩
  · cases cs with
    | nil => exact hd.head
    | cons => exact hc.head
  · exact getLast?_append_ne hc.last hd.last
  · exact getLast?_append_ne hc.last' hd.last'

theorem settled_of_harmless {cs : List Char} (h : ∀ c ∈ cs, IsHarmless c) : Settled cs := by
  induction cs with
  | nil => exact settled_nil
  | cons c cs ih =>
    obtain ⟨hc, hcs⟩ := List.forall_mem_cons.1 h
    simp only [IsHarmless, List.mem_cons, List.not_mem_nil, or_false, not_or] at hc
    have hone : Settled [c] :=
      ⟨by simp [hc], commentFreeFrom_singleton false c, by simp [hc], by simp [hc], by simp [hc]⟩
    exact hone.append (ih hcs)

/-- A settled text that is not empty, and that begins with a minus sign exactly if `negative`
    holds. -/
structure Signed (negative : Prop) (cs : List Char) : Prop extends Settled cs where
  /-- The text is not empty. -/
  ne_nil : cs ≠ []
  /-- Its first character says whether `negative` holds. -/
  sign : cs.head? = some '-' ↔ negative

namespace Signed

theorem append {negative : Prop} {cs ds : List Char} (hc : Signed negative cs) (hd : Settled ds) :
    Signed negative (cs ++ ds) where
  toSettled := hc.toSettled.append hd
  ne_nil := List.append_ne_nil_of_left_ne_nil hc.ne_nil ds
  sign := by rw [List.head?_append_of_ne_nil cs hc.ne_nil, hc.sign]

theorem of_harmless {cs : List Char} (hne : cs ≠ []) (h : ∀ c ∈ cs, IsHarmless c) :
    Signed False cs where
  toSettled := settled_of_harmless h
  ne_nil := hne
  sign := iff_false_intro fun hc => h '-' (List.mem_of_mem_head? hc) (by decide)

/-- A minus sign may be put before a text that has none there. -/
theorem minus {cs : List Char} (h : Signed False cs) : Signed True ('-' :: cs) := by
  have hlast : ('-' :: cs).getLast? = cs.getLast? := List.getLast?_cons_of_ne_nil h.ne_nil
  refine ⟨⟨?_, commentFreeFrom_cons.2 ⟨fun _ => ?_, h.commentFree⟩, by simp, ?_, ?_⟩, by simp,
    by simp⟩
  · rw [List.count_cons_of_ne (by decide)]
    exact h.closed
  · simp [beginsComment_cons, Joins, h.sign]
  · exact hlast ▸ h.last
  · exact hlast ▸ h.last'

/-- The minus sign of a text goes where `negative` says. -/
theorem signed {cs : List Char} (h : Signed False cs) (negative : Bool) :
    Signed (negative = true) ((if negative then ['-'] else []) ++ cs) := by
  cases negative with
  | false => simpa using h
  | true => simpa using h.minus

end Signed

/-! ## Numerals -/

theorem isHarmless_of_isDigit {c : Char} (h : c.isDigit) : IsHarmless c := by
  intro hc
  simp only [List.mem_cons, List.not_mem_nil, or_false] at hc
  rcases hc with rfl | rfl | rfl | rfl <;> cases h

namespace Numeral

theorem AreDigits.signed {cs : List Char} (h : AreDigits cs) : Signed False cs :=
  .of_harmless h.ne_nil fun c hc => isHarmless_of_isDigit (h.isDigit c hc)

theorem signed_digits (n : Nat) : Signed False (digits n) := (areDigits_digits n).signed

theorem signed_write (n : Int) : Signed (n < 0) (write n) := by
  unfold write
  split_ifs with h
  · simpa [h] using (signed_digits _).minus
  · simpa [h] using signed_digits _

theorem FloatForm.WellFormed.signed {width : Nat} {f : FloatForm} (h : f.WellFormed width) :
    Signed False f.source := by
  have mark : ∀ c, IsHarmless c → Settled [c] := fun c hc => settled_of_harmless (by simpa using hc)
  refine (h.whole.signed.append ?_).append ?_
  · cases hf : f.fraction with
    | none => exact settled_nil
    | some ds => exact (mark '.' (by decide)).append (h.fraction ds hf).signed.toSettled
  · cases he : f.exponent with
    | none => exact settled_nil
    | some e =>
      have digits := (h.exponent e he).1.signed
      refine (mark 'e' (by decide)).append ?_
      rcases h.sign e he with hs | hs <;> rw [hs]
      · exact digits.minus.toSettled
      · exact (mark '+' (by decide)).append digits.toSettled

theorem signed_layout (l : FloatLayout) (d : Nat) (k : Int) : Signed False (l.write d k) := by
  obtain ⟨f, wellFormed, written⟩ := exists_form l d k
  rw [written]
  exact wellFormed.signed

/-- Whether a quantity has a minus sign. -/
def Parts.isNegative : Parts → Bool
  | .finite s .. => s
  | .infinite s => s
  | .nan => false

theorem signed_floatText (x : Float) : Signed ((parts x).isNegative = true) (floatText x) := by
  unfold floatText
  cases parts x with
  | finite s m q => exact (signed_layout _ _ _).signed s
  | infinite s => exact (Signed.of_harmless (by simp) (by simp [IsHarmless])).signed s
  | nan =>
    have hnan : Signed False ['n', 'a', 'n'] := .of_harmless (by simp) (by simp [IsHarmless])
    simpa [Parts.isNegative] using hnan

end Numeral

/-! ## Literals -/

/-- Within a string, a text that does not leave it begins no comment. -/
theorem commentFreeFrom_of_notMem {cs : List Char} (h : '\'' ∉ cs) : CommentFreeFrom true cs := by
  rintro before after rfl hi
  have he : Even (before.count '\'') :=
    even_count_of_notMem fun hq => h (List.mem_append_left after hq)
  rw [insideAfter_of_even he] at hi
  cases hi

/-- Nor does a text with doubled quotes. -/
theorem commentFreeFrom_doubleQuotes (cs : List Char) : CommentFreeFrom true (doubleQuotes cs) := by
  induction cs with
  | nil => exact commentFreeFrom_nil true
  | cons c cs ih =>
    rw [doubleQuotes_cons, commentFreeFrom_append]
    split_ifs with h
    · exact ⟨commentFreeFrom_cons.2 ⟨nofun, commentFreeFrom_singleton _ _⟩, ih, nofun⟩
    · have hi : insideAfter true [c] = true := by rw [insideAfter_cons_of_ne h, insideAfter_nil]
      rw [hi]
      exact ⟨commentFreeFrom_singleton _ _, ih, nofun⟩

/-- A text between quotes, whose quotes are in pairs. -/
theorem settled_between_quotes {body : List Char} (he : Even (body.count '\''))
    (h : CommentFreeFrom true body) : Settled ('\'' :: body ++ ['\'']) := by
  have hi : insideAfter true body = true := insideAfter_of_even he true
  have hlast : ('\'' :: body ++ ['\'']).getLast? = some '\'' := List.getLast?_concat
  refine ⟨?_, commentFreeFrom_cons.2 ⟨fun _ => ?_, ?_⟩, by simp, ?_, ?_⟩
  · simpa [Nat.even_add_one] using he
  · simp [beginsComment_cons, Joins]
  · refine commentFreeFrom_append.2 ⟨h, commentFreeFrom_singleton _ _, fun hf => ?_⟩
    cases hi.symm.trans hf
  · rw [hlast]
    decide
  · rw [hlast]
    decide

theorem signed_sqlString (cs : List Char) : Signed False (sqlString cs) where
  toSettled :=
    settled_between_quotes (even_count_doubleQuotes cs) (commentFreeFrom_doubleQuotes cs)
  ne_nil := by simp [sqlString]
  sign := by simp [sqlString]

theorem signed_sqlBytes (bs : List UInt8) : Signed False (sqlBytes bs) := by
  have hq := quote_notMem_hexBytes bs
  have hstring := settled_between_quotes (even_count_of_notMem hq) (commentFreeFrom_of_notMem hq)
  have hmark : Signed False ['X'] := .of_harmless (by simp) (by simp [IsHarmless])
  exact hmark.append hstring

/-- Whether the text of a number begins with a minus sign for a reader. -/
def DerivedFloat.hasMinus (x : DerivedFloat) : Bool :=
  x.opening.isEmpty && (Numeral.parts x.number).isNegative

theorem DerivedFloat.signed_shown (x : DerivedFloat) : Signed (x.hasMinus = true) x.shown := by
  have around := List.forall_mem_append.1 x.harmless
  have rest := (Numeral.signed_floatText x.number).append (settled_of_harmless around.2)
  rw [hasMinus, shown, List.append_assoc]
  cases ho : x.opening with
  | nil => simpa using rest
  | cons c cs =>
    have opening : Signed False (c :: cs) := .of_harmless (by simp) (ho ▸ around.1)
    simpa using opening.append rest.toSettled

/-- Whether the literal of a value begins with a minus sign. -/
def Value.hasMinus : Value → Bool
  | int n => decide (n < 0)
  | float x => Numeral.isFinite x && (Numeral.parts x).isNegative
  | derivedFloat x => Numeral.isFinite x.number && x.hasMinus
  | _ => false

theorem signed_integerText {n : Int} {cs : List Char} (h : Value.integerText n = .ok cs) :
    Signed (n < 0) cs := by
  obtain rfl := Value.eq_write_of_integerText h
  exact Numeral.signed_write n

/-- **A literal is settled and not empty**, and a minus sign begins it for a negative number only. -/
theorem signed_literal {v : Value} {cs : List Char} (h : literal v = .ok cs) :
    Signed (v.hasMinus = true) cs := by
  have hname : ∀ {cs : List Char}, cs ≠ [] → (∀ c ∈ cs, IsHarmless c) →
      Signed (false = true) cs := by
    intro cs hne hall
    simpa using Signed.of_harmless hne hall
  cases v with
  | none =>
    cases h
    exact hname (by decide) (by simp [IsHarmless])
  | bool b =>
    cases h
    cases b <;> exact hname (by decide) (by simp [IsHarmless])
  | int n => simpa [Value.hasMinus] using signed_integerText h
  | float x =>
    cases h
    rw [Value.hasMinus]
    split_ifs with hx
    · simpa [hx] using Numeral.signed_floatText x
    · rw [Bool.not_eq_true] at hx
      rw [hx, Bool.false_and]
      exact hname (by decide) (by simp [IsHarmless])
  | derivedFloat x =>
    cases h
    rw [Value.hasMinus]
    split_ifs with hx
    · simpa [hx] using x.signed_shown
    · rw [Bool.not_eq_true] at hx
      rw [hx, Bool.false_and]
      exact hname (by decide) (by simp [IsHarmless])
  | bytes bs | byteArray bs =>
    cases h
    simpa [Value.hasMinus] using signed_sqlBytes bs
  | _ =>
    obtain ⟨text, -, h⟩ := bind_eq_ok_iff.1 h
    cases h
    simpa [Value.hasMinus] using signed_sqlString text

end SqlWeave
