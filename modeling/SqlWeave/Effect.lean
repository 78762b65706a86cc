/-
  Actions that may fail and that act on a state.

  What a failing action has done to the state stays done.

  * `Act.exec` runs an action;
  * `exec_bind`: after a failing action nothing more is done;
  * `exec_mapM`: actions that leave the state alone, one after another.
-/
import SqlWeave.Fault

namespace SqlWeave

section
variable {ε α β : Type}

theorem ok_bind (a : α) (f : α → Except ε β) : (Except.ok a >>= f) = f a := rfl

theorem bind_eq_ok_iff {e : Except ε α} {f : α → Except ε β} {b : β} :
    (e >>= f) = .ok b ↔ ∃ a, e = .ok a ∧ f a = .ok b := by
  cases e <;> simp [bind, Except.bind]

theorem map_eq_ok_iff {e : Except ε α} {f : α → β} {b : β} :
    e.map f = .ok b ↔ ∃ a, e = .ok a ∧ f a = b := by
  cases e <;> simp [Except.map]

theorem mapError_eq_ok_iff {ε' : Type} {e : Except ε α} {f : ε → ε'} {a : α} :
    e.mapError f = .ok a ↔ e = .ok a := by
  cases e with
  | error => exact iff_of_false nofun nofun
  | ok => exact ⟨fun h => congrArg Except.ok (Except.ok.inj h),
      fun h => congrArg Except.ok (Except.ok.inj h)⟩

theorem mapError_bind {ε' : Type} (e : Except ε α) (f : α → Except ε β) (g : ε → ε') :
    (e >>= f).mapError g = e.mapError g >>= fun a => (f a).mapError g := by
  cases e <;> rfl

theorem mapError_map {ε' : Type} (e : Except ε α) (f : α → β) (g : ε → ε') :
    (e.map f).mapError g = (e.mapError g).map f := by
  cases e <;> rfl

theorem mapM_mapError {ε' : Type} (f : α → Except ε β) (g : ε → ε') (xs : List α) :
    (xs.mapM fun x => (f x).mapError g) = (xs.mapM f).mapError g := by
  induction xs with
  | nil => rfl
  | cons x xs ih =>
    rw [List.mapM_cons, List.mapM_cons, mapError_bind, ih]
    congr 1
    funext y
    rw [mapError_bind]
    rfl

theorem toOption_eq_some_iff {e : Except ε α} {a : α} : e.toOption = some a ↔ e = .ok a := by
  cases e <;> simp [Except.toOption]

theorem exists_of_mapM_eq_ok {f : α → Except ε β} {xs : List α} {ys : List β}
    (h : xs.mapM f = .ok ys) : ∀ x ∈ xs, ∃ y, f x = .ok y := by
  induction xs generalizing ys with
  | nil => nofun
  | cons x xs ih =>
    rw [List.mapM_cons] at h
    obtain ⟨y, hx, h⟩ := bind_eq_ok_iff.1 h
    obtain ⟨_, hxs, -⟩ := bind_eq_ok_iff.1 h
    exact List.forall_mem_cons.2 ⟨⟨y, hx⟩, ih hxs⟩

end

/-- An action on a state of type `σ`. -/
abbrev Act (σ : Type) := ExceptT Fault (StateM σ)

namespace Act

variable {σ τ α β : Type}

/-- The answer of an action and the state after it. -/
def exec (a : Act σ α) (s : σ) : Except Fault α × σ := a.run s

/-- The action that runs `f` on the state. -/
def ofFn (f : σ → Except Fault α × σ) : Act σ α := ExceptT.mk f

/-- The action that gives an outcome and leaves the state alone. -/
def ofExcept (e : Except Fault α) : Act σ α := ofFn fun s => (e, s)

/-- An action on a part of the state. -/
def within (get : τ → σ) (put : τ → σ → τ) (a : Act σ α) : Act τ α :=
  ofFn fun t => let (r, s) := exec a (get t); (r, put t s)

/-- The action with its faults put in other words. -/
def mapError (f : Fault → Fault) (a : Act σ α) : Act σ α :=
  ofFn fun s => let (r, s') := exec a s; (r.mapError f, s')

/-- The outcome of an action, whether it failed or not. -/
def attempt (a : Act σ α) : Act σ (Except Fault α) :=
  ofFn fun s => let (r, s') := exec a s; (.ok r, s')

/-! ## Running actions -/

@[simp] theorem exec_pure (a : α) (s : σ) : exec (pure a : Act σ α) s = (.ok a, s) := rfl

@[simp] theorem exec_throw (f : Fault) (s : σ) : exec (throw f : Act σ α) s = (.error f, s) := rfl

@[simp] theorem exec_ofFn (f : σ → Except Fault α × σ) (s : σ) : exec (ofFn f) s = f s := rfl

@[simp] theorem exec_ofExcept (e : Except Fault α) (s : σ) : exec (ofExcept e) s = (e, s) := rfl

@[simp] theorem exec_mapError (f : Fault → Fault) (a : Act σ α) (s : σ) :
    exec (mapError f a) s = ((exec a s).1.mapError f, (exec a s).2) := rfl

@[simp] theorem exec_attempt (a : Act σ α) (s : σ) :
    exec (attempt a) s = (.ok (exec a s).1, (exec a s).2) := rfl

@[simp] theorem exec_within (get : τ → σ) (put : τ → σ → τ) (a : Act σ α) (t : τ) :
    exec (within get put a) t = ((exec a (get t)).1, put t (exec a (get t)).2) := rfl

theorem exec_bind (a : Act σ α) (f : α → Act σ β) (s : σ) :
    exec (a >>= f) s = match exec a s with
      | (.ok x, s') => exec (f x) s'
      | (.error e, s') => (.error e, s') := by
  have hb : exec (a >>= f) s = match exec a s with
      | (r, s') => (ExceptT.bindCont f r : StateM σ (Except Fault β)) s' := rfl
  rw [hb]
  rcases exec a s with ⟨_ | x, s'⟩ <;> rfl

theorem exec_bind_pure (a : Act σ α) (f : α → β) (s : σ) :
    exec (a >>= fun x => pure (f x)) s = ((exec a s).1.map f, (exec a s).2) := by
  rw [exec_bind]
  rcases exec a s with ⟨_ | x, s'⟩ <;> rfl

/-- Actions that leave the state alone leave it alone one after another. -/
theorem exec_mapM {f : α → Act σ β} {g : α → Except Fault β} {s : σ}
    (h : ∀ x, exec (f x) s = (g x, s)) (xs : List α) : exec (xs.mapM f) s = (xs.mapM g, s) := by
  induction xs with
  | nil => rfl
  | cons x xs ih =>
    rw [List.mapM_cons, List.mapM_cons, exec_bind, h]
    rcases g x with e | y
    · rfl
    · simp only
      rw [exec_bind, ih]
      rcases xs.mapM g with e | ys <;> rfl

end Act

end SqlWeave
