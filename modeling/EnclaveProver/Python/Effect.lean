import Mathlib.Logic.Basic

/-!
# Python code that raises

A Python function that can raise exceptions of the class `ε` and changes a state `σ` (a filesystem,
the socket calls made so far) is modelled in `PyM ε σ`. `exec x s` is its result, a value or the
exception raised, with the state after it; the lemmas here take one statement apart at a time, so
that the proofs about a function follow its statements.
-/

namespace EnclaveProver.Python.Effect

/-- **Python code** raising `ε` over the state `σ`. -/
abbrev PyM (ε σ : Type) := ExceptT ε (StateM σ)

variable {ε σ α β : Type}

/-- The result and the state after `x` run from `s`. -/
def exec (x : PyM ε σ α) (s : σ) : Except ε α × σ := x.run.run s

@[simp] theorem exec_pure (a : α) (s : σ) : exec (pure a : PyM ε σ α) s = (.ok a, s) := rfl

@[simp] theorem exec_throw (e : ε) (s : σ) : exec (throw e : PyM ε σ α) s = (.error e, s) := rfl

@[simp] theorem exec_liftExcept (x : Except ε α) (s : σ) :
    exec (liftExcept x : PyM ε σ α) s = (x, s) := by
  cases x <;> rfl

@[simp] theorem exec_modify (f : σ → σ) (s : σ) :
    exec (modify f : PyM ε σ Unit) s = (.ok (), f s) := rfl

theorem exec_bind (x : PyM ε σ α) (f : α → PyM ε σ β) (s : σ) :
    exec (x >>= f) s = match exec x s with
      | (.ok a, s') => exec (f a) s'
      | (.error e, s') => (.error e, s') := by
  simp only [exec, ExceptT.run_bind, StateT.run_bind]
  rcases x.run.run s with ⟨_ | a, s'⟩ <;> rfl

theorem exec_map (f : α → β) (x : PyM ε σ α) (s : σ) :
    exec (f <$> x) s = match exec x s with
      | (.ok a, s') => (.ok (f a), s')
      | (.error e, s') => (.error e, s') := by
  simp only [exec, ExceptT.run_map, StateT.run_map]
  rcases x.run.run s with ⟨_ | a, s'⟩ <;> rfl

theorem exec_tryCatch (x : PyM ε σ α) (h : ε → PyM ε σ α) (s : σ) :
    exec (tryCatch x h) s = match exec x s with
      | (.ok a, s') => (.ok a, s')
      | (.error e, s') => exec (h e) s' := by
  show StateT.run (ExceptT.tryCatch x h) s = _
  simp only [ExceptT.tryCatch, ExceptT.mk, StateT.run_bind, exec, ExceptT.run]
  rcases StateT.run x s with ⟨_ | a, s'⟩ <;> rfl

@[simp] theorem exec_get (s : σ) : exec (get : PyM ε σ σ) s = (.ok s, s) := rfl

/-- **A run that returns ran both statements to a return**: returning runs are taken apart one
statement at a time with this, and never by unfolding the callee. -/
theorem exec_bind_eq_ok {x : PyM ε σ α} {f : α → PyM ε σ β} {s s'' : σ} {b : β}
    (h : exec (x >>= f) s = (.ok b, s'')) :
    ∃ a s', exec x s = (.ok a, s') ∧ exec (f a) s' = (.ok b, s'') := by
  rw [exec_bind] at h
  rcases hx : exec x s with ⟨e | a, s'⟩ <;> rw [hx] at h
  · cases h
  · exact ⟨a, s', rfl, h⟩

/-! ### What code keeps between the state before and the state after it -/

/-- **`x` keeps the relation `R`** from the state before it to the state after it, on every way out
(a frame condition when `R` says what may change). -/
def Preserves (R : σ → σ → Prop) (x : PyM ε σ α) : Prop := ∀ s, R s (exec x s).2

section Refl

variable {R : σ → σ → Prop} (refl : ∀ s, R s s)
include refl

theorem Preserves.pure (a : α) : Preserves R (pure a : PyM ε σ α) := refl

theorem Preserves.throw (e : ε) : Preserves R (throw e : PyM ε σ α) := refl

theorem Preserves.liftExcept (x : Except ε α) : Preserves R (liftExcept x : PyM ε σ α) := by
  intro s; simpa using refl s

theorem Preserves.get : Preserves R (get : PyM ε σ σ) := refl

end Refl

section Trans

variable {R : σ → σ → Prop} (trans : ∀ a b c, R a b → R b c → R a c)
include trans

theorem Preserves.bind {x : PyM ε σ α} {f : α → PyM ε σ β} (hx : Preserves R x)
    (hf : ∀ a, Preserves R (f a)) : Preserves R (x >>= f) := by
  intro s
  rw [exec_bind]
  rcases h : exec x s with ⟨_ | a, s'⟩
  · simpa [h] using hx s
  · exact trans _ _ _ (by simpa [h] using hx s) (hf a s')

theorem Preserves.tryCatch {x : PyM ε σ α} {h : ε → PyM ε σ α} (hx : Preserves R x)
    (hh : ∀ e, Preserves R (h e)) : Preserves R (tryCatch x h) := by
  intro s
  rw [exec_tryCatch]
  rcases hs : exec x s with ⟨e | a, s'⟩
  · exact trans _ _ _ (by simpa [hs] using hx s) (hh e s')
  · simpa [hs] using hx s

end Trans

theorem Preserves.modify {R : σ → σ → Prop} {f : σ → σ} (h : ∀ s, R s (f s)) :
    Preserves R (modify f : PyM ε σ Unit) := h

theorem Preserves.imp {R R' : σ → σ → Prop} {x : PyM ε σ α} (hx : Preserves R x)
    (h : ∀ s s', R s s' → R' s s') : Preserves R' x := fun s => h _ _ (hx s)

end EnclaveProver.Python.Effect
