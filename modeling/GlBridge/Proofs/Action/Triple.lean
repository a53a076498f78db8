import GlBridge.Proofs.Action.Session

/-!
# What an action yields

`Action.Yields P x r Q` is a triple for a run whose course is known: from every state with `P` the
action results in `r`, and then `Q` holds. `Action.Fails P x` says only that it fails. There is one
rule for each combinator, so that a long action is played call by call without a look at the
states in between.
-/

namespace GlBridge.Action

variable {σ ε φ α β : Type} {P Q R : σ → Prop}

/-- Run where `P` holds, the action has this result, and then `Q` holds. -/
def Yields (P : σ → Prop) (x : Action σ ε α) (r : Except ε α) (Q : σ → Prop) : Prop :=
  ∀ s, P s → (x s).result = r ∧ Q (x s).state

/-- Run where `P` holds, the action fails. -/
def Fails (P : σ → Prop) (x : Action σ ε α) : Prop := ∀ s, P s → ∃ e, (x s).result = .error e

/-- A value is had without a look at the state. -/
theorem yields_pure (a : α) : Yields P (pure a : Action σ ε α) (.ok a) P := fun _ h => ⟨rfl, h⟩

theorem yields_emit (e : Event) : Yields P (emit e : Action σ ε Unit) (.ok ()) P :=
  fun _ h => ⟨rfl, h⟩

namespace Yields

variable {x : Action σ ε α} {f : α → Action σ ε β} {a : α}

/-- What holds after the first action is what the second one may rely on. -/
theorem bind {r : Except ε β} (hx : Yields P x (.ok a) Q) (hf : Yields Q (f a) r R) :
    Yields P (x >>= f) r R := by
  intro s hs
  obtain ⟨hresult, hnext⟩ := hx s hs
  obtain ⟨hresult', hlast⟩ := hf (x s).state hnext
  rw [bind_of_ok hresult]
  exact ⟨hresult', hlast⟩

/-- A failure is the last thing that happens. -/
theorem bind_error {e : ε} (hx : Yields P x (.error e) Q) : Yields P (x >>= f) (.error e) Q := by
  intro s hs
  obtain ⟨hresult, hlast⟩ := hx s hs
  rw [bind_of_error hresult]
  exact ⟨rfl, hlast⟩

/-- Renaming failures renames the result and leaves the state as it is. -/
theorem mapError {r : Except ε α} (hx : Yields P x r Q) (g : ε → φ) :
    Yields P (x.mapError g) (r.mapError g) Q := by
  intro s hs
  obtain ⟨hresult, hlast⟩ := hx s hs
  rw [mapError_apply, hresult]
  exact ⟨rfl, hlast⟩

/-- A failure that is caught is a value. -/
theorem attempt {r : Except ε α} (hx : Yields P x r Q) :
    Yields P (x.attempt : Action σ φ (Except ε α)) (.ok r) Q := by
  intro s hs
  obtain ⟨hresult, hlast⟩ := hx s hs
  exact ⟨congrArg Except.ok hresult, hlast⟩

/-- What goes well first does not save what fails behind it. -/
theorem bind_fails (hx : Yields P x (.ok a) Q) (hf : Fails Q (f a)) : Fails P (x >>= f) := by
  intro s hs
  obtain ⟨hresult, hnext⟩ := hx s hs
  rw [bind_of_ok hresult]
  exact hf (x s).state hnext

end Yields

/-- An action that begins with a failure fails. -/
theorem Fails.bind {x : Action σ ε α} (hx : Fails P x) (f : α → Action σ ε β) :
    Fails P (x >>= f) := by
  intro s hs
  obtain ⟨e, he⟩ := hx s hs
  rw [bind_of_error he]
  exact ⟨e, rfl⟩

/-- Giving up fails wherever it is done. -/
theorem fails_fail (e : ε) : Fails P (fail e : Action σ ε α) := fun _ _ => ⟨e, rfl⟩

/-- If the failures of an action are renamed, it still goes on only behind a success. -/
theorem fails_mapError_bind {x : Action σ ε α} {g : ε → φ} {f : α → Action σ φ β}
    (hf : ∀ a, Fails (fun _ => True) (f a)) : Fails P (x.mapError g >>= f) := by
  intro s _
  cases hr : (x s).result with
  | error e =>
    -- `f` is never reached
    have hmapped : ((x.mapError g) s).result = .error (g e) := by rw [mapError_apply, hr]; rfl
    rw [bind_of_error hmapped]
    exact ⟨_, rfl⟩
  | ok a =>
    -- the renaming leaves a success as it is, and behind it `f` fails
    have hmapped : ((x.mapError g) s).result = .ok a := by rw [mapError_apply, hr]; rfl
    rw [bind_of_ok hmapped]
    exact hf a _ trivial

end GlBridge.Action
