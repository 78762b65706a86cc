/-
  Actions that change the state only in a given way.

  `Keeps R a` says that the action `a` goes from a state only to states that `R`
  relates to it, whether it fails or not.  For a preorder `R` this passes from
  actions to what is composed of them.

  * `Keeps.bind`, `Keeps.mapM` and `Keeps.attempt`: the compositions;
  * `Keeps.compile`: a compilation does to the state no more than its escaper.
-/
import Mathlib.Order.Defs.Unbundled
import SqlWeave.Compile

namespace SqlWeave

variable {σ α β : Type}

namespace Act

/-- However the action ends, the state after it is related to the one before. -/
def Keeps (R : σ → σ → Prop) (a : Act σ α) : Prop := ∀ s, R s (exec a s).2

namespace Keeps

variable {R : σ → σ → Prop}

theorem attempt {a : Act σ α} (ha : Keeps R a) : Keeps R (Act.attempt a) := ha

theorem mapError {a : Act σ α} (ha : Keeps R a) (f : Fault → Fault) : Keeps R (Act.mapError f a) :=
  ha

variable [IsPreorder σ R]

theorem pure (x : α) : Keeps R (Pure.pure x) := fun s => Std.Refl.refl s

theorem throw (f : Fault) : Keeps R (MonadExcept.throw f : Act σ α) := fun s => Std.Refl.refl s

theorem ofExcept (e : Except Fault α) : Keeps R (Act.ofExcept e) := fun s => Std.Refl.refl s

/-- What follows an action does to the state after it no more than it may. -/
theorem after {f : α → Act σ β} (hf : ∀ x, Keeps R (f x)) (a : Act σ α) (s : σ) :
    R (exec a s).2 (exec (a >>= f) s).2 := by
  rw [exec_bind]
  rcases exec a s with ⟨_ | x, s'⟩
  · exact Std.Refl.refl s'
  · exact hf x s'

theorem bind {a : Act σ α} {f : α → Act σ β} (ha : Keeps R a) (hf : ∀ x, Keeps R (f x)) :
    Keeps R (a >>= f) := fun s => IsTrans.trans _ _ _ (ha s) (after hf a s)

theorem mapM {f : α → Act σ β} (hf : ∀ x, Keeps R (f x)) (xs : List α) : Keeps R (xs.mapM f) := by
  induction xs with
  | nil => exact pure _
  | cons x xs ih =>
    rw [List.mapM_cons]
    exact (hf x).bind fun y => ih.bind fun ys => pure _

/-! ## Compilations -/

variable {quote : Quote σ}

theorem convert (hq : ∀ v, Keeps R (quote v)) (k : Kind) (v : Value) :
    Keeps R (k.convert v quote) := by
  cases k with
  | string => exact hq v
  | integer => exact ofExcept _
  | float => exact ofExcept _
  | array => exact (ofExcept _).bind fun _ => (mapM (fun x => (hq x).mapError _) _).bind fun _ => pure _
  | assoc =>
    refine (ofExcept _).bind fun _ => (mapM (fun e => mapError ?_ _) _).bind fun _ => pure _
    exact (ofExcept _).bind fun _ => (hq e.2).bind fun _ => pure _
  | table => exact (ofExcept _).bind fun _ => pure _
  | raw => exact ofExcept _

theorem convertAll (hq : ∀ v, Keeps R (quote v)) (ps : List (Kind × Value)) :
    Keeps R (Template.convertAll quote ps) := by
  unfold Template.convertAll
  exact mapM (fun p : Kind × Value => convert hq p.1 p.2) ps

/-- A compilation does to the state no more than its escaper. -/
theorem compile (hq : ∀ v, Keeps R (quote v)) (source : String) (parameters : Value) :
    Keeps R (Template.compile source parameters quote) := by
  unfold Template.compile
  dsimp only
  split
  · exact pure _
  · refine (ofExcept _).bind fun n => ?_
    split
    · exact throw _
    · exact (ofExcept _).bind fun _ => (convertAll hq _).bind fun _ => pure _

end Keeps

end Act

end SqlWeave
