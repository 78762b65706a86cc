/-
  The last value under each key.

  Entries are put under their keys one after another: an equal key keeps its
  place and its spelling, and the value there is replaced.

  * `eraseDupsBy` keeps of some elements each that repeats none before it; it is
    extended by one element at the end (`eraseDupsBy_concat`);
  * `Entries.latest` says what comes out of all entries: each key where it occurs
    first, with what was last under it; one insertion extends it by one entry
    (`insert_latest`), and so do all, one after another (`foldl_insert`);
  * `latest_of_pairwise`: where no key repeats another, nothing changes;
  * `lookup?_latest`: what is found under a key.
-/
import Mathlib.Data.List.Induction
import SqlWeave.Proofs.KeyEquality

namespace SqlWeave

open List (eraseDupsBy)

/-! ## Without repetitions -/

section
variable {α : Type} {r : α → α → Bool}

theorem eraseDupsBy_loop_concat (as : List α) (a : α) (kept : List α) :
    eraseDupsBy.loop r (as ++ [a]) kept =
      if (eraseDupsBy.loop r as kept).any (r a) then eraseDupsBy.loop r as kept
      else eraseDupsBy.loop r as kept ++ [a] := by
  induction as generalizing kept with
  | nil =>
    simp only [List.nil_append, eraseDupsBy.loop, List.any_reverse]
    cases kept.any (r a) <;> simp
  | cons b as ih =>
    by_cases hb : kept.any (r b) = true
    · simpa only [List.cons_append, eraseDupsBy.loop, hb] using ih kept
    · rw [Bool.not_eq_true] at hb
      simpa only [List.cons_append, eraseDupsBy.loop, hb] using ih (b :: kept)

/-- One more element is kept unless it repeats one that was kept. -/
theorem eraseDupsBy_concat (as : List α) (a : α) :
    eraseDupsBy r (as ++ [a]) =
      if (eraseDupsBy r as).any (r a) then eraseDupsBy r as else eraseDupsBy r as ++ [a] :=
  eraseDupsBy_loop_concat as a []

theorem pairwise_eraseDupsBy (as : List α) :
    (eraseDupsBy r as).Pairwise fun a b => r b a = false := by
  induction as using List.reverseRecOn with
  | nil => exact .nil
  | append_singleton as a ih =>
    rw [eraseDupsBy_concat]
    split
    · exact ih
    · next h =>
      rw [List.pairwise_append]
      refine ⟨ih, List.pairwise_singleton _ _, fun b hb c hc => ?_⟩
      rw [List.mem_singleton.1 hc]
      rw [List.any_eq_true] at h
      exact Bool.eq_false_iff.2 fun hr => h ⟨b, hb, hr⟩

theorem not_any_of_pairwise {as : List α} {a : α}
    (h : (as ++ [a]).Pairwise fun a b => r b a = false) : ¬as.any (r a) = true := by
  rw [List.any_eq_true]
  rintro ⟨b, hb, hr⟩
  rw [(List.pairwise_append.1 h).2.2 b hb a List.mem_cons_self] at hr
  cases hr

theorem eraseDupsBy_map {β : Type} (f : β → α) (bs : List β) :
    eraseDupsBy r (bs.map f) = (eraseDupsBy (fun b c => r (f b) (f c)) bs).map f := by
  induction bs using List.reverseRecOn with
  | nil => rfl
  | append_singleton bs b ih =>
    rw [List.map_append, List.map_singleton, eraseDupsBy_concat, eraseDupsBy_concat, ih,
      List.any_map, apply_ite (List.map f), List.map_append, List.map_singleton]
    rfl

theorem findRev?_concat (p : α → Bool) (as : List α) (a : α) :
    (as ++ [a]).findRev? p = if p a then some a else as.findRev? p := by
  simp only [List.findRev?_eq_find?_reverse, List.reverse_append, List.reverse_singleton,
    List.singleton_append, List.find?_cons]
  cases p a <;> rfl

end

/-! ## The last value under each key -/

namespace Entries

variable {α : Type}

/-- What was last put under the key of `e`: the value of the last entry whose key equals it, or that
    of `e` itself if its key equals none. -/
def lastValue (es : List (Value × α)) (e : Value × α) : α :=
  ((es.findRev? fun e' => e.1.equal e'.1).getD e).2

/-- Each key where and as it occurs first, with what was last put under it. -/
def latest (es : List (Value × α)) : List (Value × α) :=
  (es.eraseDupsBy fun e' e => e.1.equal e'.1).map fun e => (e.1, lastValue es e)

theorem lastValue_concat (es : List (Value × α)) (x e : Value × α) :
    lastValue (es ++ [x]) e = if e.1.equal x.1 then x.2 else lastValue es e := by
  rw [lastValue, findRev?_concat]
  split
  · rfl
  · rfl

theorem lastValue_concat_self {es : List (Value × α)} {x : Value × α} :
    lastValue (es ++ [x]) x = x.2 := by
  rw [lastValue_concat]
  split
  · rfl
  · next h =>
    -- a key that does not equal itself equals no other key either
    have none : es.findRev? (fun e => x.1.equal e.1) = none := by
      rw [List.findRev?_eq_find?_reverse, List.find?_eq_none]
      exact fun e _ he => h (Value.equal_trans he (Value.equal_symm he))
    rw [lastValue, none]
    rfl

/-- Under a key that is there, the value is replaced. -/
theorem insert_map_of_any {es : List (Value × α)} {f : Value × α → α} {k : Value} {v : α}
    (hes : es.Pairwise fun e e' => e.1.equal e'.1 = false)
    (h : es.any (fun e => e.1.equal k) = true) :
    insert k v (es.map fun e => (e.1, f e)) =
      es.map fun e => (e.1, if e.1.equal k then v else f e) := by
  induction es with
  | nil => cases h
  | cons e es ih =>
    rw [List.pairwise_cons] at hes
    by_cases he : e.1.equal k = true
    · -- the keys are distinct, so no other one equals `k`
      have rest : ∀ e' ∈ es, ¬e'.1.equal k = true := by
        intro e' he' hk
        have := hes.1 e' he'
        rw [Value.equal_trans he (Value.equal_symm hk)] at this
        cases this
      simp only [List.map_cons, insert, he, if_true, List.cons.injEq, true_and]
      exact List.map_congr_left fun e' he' => by rw [if_neg (rest e' he')]
    · rw [List.any_cons, Bool.or_eq_true] at h
      simp [insert, he, ih hes.2 (h.resolve_left he)]

/-- Under a new key, a value is added at the end. -/
theorem insert_of_not_any {es : List (Value × α)} {k : Value} {v : α}
    (h : ¬es.any (fun e => e.1.equal k) = true) : insert k v es = es ++ [(k, v)] := by
  induction es with
  | nil => rfl
  | cons e es ih =>
    rw [List.any_cons, Bool.or_eq_true, not_or] at h
    simp [insert, h.1, ih h.2]

theorem insert_latest (es : List (Value × α)) (x : Value × α) :
    insert x.1 x.2 (latest es) = latest (es ++ [x]) := by
  have distinct := pairwise_eraseDupsBy (r := fun e' e : Value × α => e.1.equal e'.1) es
  rw [latest, latest, eraseDupsBy_concat]
  by_cases h : (es.eraseDupsBy fun e' e => e.1.equal e'.1).any (fun e => e.1.equal x.1) = true
  · rw [if_pos h, insert_map_of_any distinct h]
    simp only [lastValue_concat]
  · have fresh : ∀ e ∈ es.eraseDupsBy fun e' e => e.1.equal e'.1, ¬e.1.equal x.1 = true :=
      fun e he hx => h (List.any_eq_true.2 ⟨e, he, hx⟩)
    rw [if_neg h, insert_of_not_any (by simpa [List.any_map, Function.comp_def] using h),
      List.map_append, List.map_singleton, lastValue_concat_self]
    refine congrArg (· ++ [x]) (List.map_congr_left fun e he => ?_)
    rw [lastValue_concat, if_neg (fresh e he)]

/-- Entries put in one after another. -/
theorem foldl_insert (es : List (Value × α)) :
    es.foldl (fun es e => insert e.1 e.2 es) [] = latest es := by
  induction es using List.reverseRecOn with
  | nil => rfl
  | append_singleton es x ih => rw [List.foldl_concat, ih, insert_latest]

/-- Entries under keys of which no two are equal stay as they are. -/
theorem latest_of_pairwise {es : List (Value × α)}
    (h : es.Pairwise fun e e' => e.1.equal e'.1 = false) : latest es = es := by
  induction es using List.reverseRecOn with
  | nil => rfl
  | append_singleton es x ih =>
    have fresh : ¬es.any (fun e => e.1.equal x.1) = true :=
      not_any_of_pairwise (r := fun e' e : Value × α => e.1.equal e'.1) h
    rw [← insert_latest, ih (List.pairwise_append.1 h).1, insert_of_not_any fresh]

/-- No two of the keys are equal. -/
theorem pairwise_latest (es : List (Value × α)) :
    (latest es).Pairwise fun e e' => e.1.equal e'.1 = false := by
  rw [latest, List.pairwise_map]
  exact pairwise_eraseDupsBy es

/-- Under a key is what was last put under an equal one. -/
theorem lookup?_latest (k : Value) (es : List (Value × α)) :
    lookup? k (latest es) = (es.findRev? fun e => e.1.equal k).map Prod.snd := by
  induction es using List.reverseRecOn with
  | nil => rfl
  | append_singleton es x ih =>
    rw [← insert_latest, lookup?_insert, ih, findRev?_concat]
    split <;> rfl

end Entries

end SqlWeave
