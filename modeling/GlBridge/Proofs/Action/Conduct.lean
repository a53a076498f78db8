import GlBridge.Proofs.Action.Session

/-!
# The conduct of actions

A **conduct** is a rule for what runs may do to a state and report on the way: `allows s es t`
says that it is in order to get from `s` to `t` with the events `es`. Standing still is always
in order, and so is one allowed run after the other.

An action is governed by a conduct if all its runs are in order (`Conduct.Governs`). There is one
rule for each combinator, so a program is governed as soon as the calls it makes are.
This differs from matching itself on the diagonal of a correspondence in that the rule sees
the whole run, its events and both its ends, and not only the state that it leaves.
-/

namespace GlBridge

/-- A rule for what runs may do and report. -/
structure Conduct (σ : Type) where
  allows : σ → List Event → σ → Prop
  rest : ∀ s, allows s [] s
  trans : ∀ {s t u es fs}, allows s es t → allows t fs u → allows s (es ++ fs) u

namespace Conduct

variable {σ ε δ α β : Type} {K : Conduct σ}

/-- The run is in order. -/
def Admits (K : Conduct σ) (s : σ) (o : Outcome σ ε α) : Prop := K.allows s o.events o.state

/-- All runs of the action are in order. -/
def Governs (K : Conduct σ) (x : Action σ ε α) : Prop := ∀ s, K.Admits s (x s)

theorem governs_pure (a : α) : K.Governs (pure a : Action σ ε α) := K.rest

theorem governs_fail (e : ε) : K.Governs (Action.fail e : Action σ ε α) := K.rest

theorem governs_get : K.Governs (Action.get : Action σ ε σ) := K.rest

/-- A change of the state is in order where the conduct has it so for every state. -/
theorem governs_modify {f : σ → σ} (h : ∀ s, K.allows s [] (f s)) :
    K.Governs (Action.modify f : Action σ ε Unit) := h

/-- And so is a report. -/
theorem governs_emit {e : Event} (h : ∀ s, K.allows s [e] s) :
    K.Governs (Action.emit e : Action σ ε Unit) := h

/-- What follows an allowed run may be allowed from where that run ended. -/
theorem Governs.bind {x : Action σ ε α} {f : α → Action σ ε β} (hx : K.Governs x)
    (hf : ∀ a, K.Governs (f a)) : K.Governs (x >>= f) := by
  intro s
  unfold Admits
  cases hr : (x s).result with
  | error e =>
    -- nothing follows, so the run is the one of `x`
    rw [Action.bind_of_error hr]
    exact hx s
  | ok a =>
    -- two runs one after the other: this is what `trans` is for
    rw [Action.bind_of_ok hr]
    exact K.trans (hx s) (hf a (x s).state)

/-- To catch a failure is to report it in another way: nothing else of the run changes. -/
theorem Governs.attempt {x : Action σ ε α} (h : K.Governs x) :
    K.Governs (x.attempt : Action σ δ (Except ε α)) := h

/-- A failure may be renamed, since no conduct looks at the result of a run. -/
theorem Governs.mapError {x : Action σ ε α} (h : K.Governs x) (f : ε → δ) :
    K.Governs (x.mapError f) := h

/-- **Sessions are governed** if their steps are. -/
theorem session_allowed {ι : Type} {x : ι → Action σ ε α} {is : List ι}
    (h : ∀ i ∈ is, K.Governs (x i)) (s : σ) :
    K.allows s (Action.session (is.map x) s).events (Action.session (is.map x) s).state := by
  -- on the steps, for all states, since the others begin where the first one ended
  induction is generalizing s with
  | nil => exact K.rest s
  | cons i rest ih =>
    rw [List.map_cons, Action.session_cons]
    exact K.trans (h i List.mem_cons_self s)
      (ih (fun j hj => h j (List.mem_cons_of_mem i hj)) (x i s).state)

/-- The conduct of reporting nothing but such events, whatever is done. -/
def reporting (p : Event → Prop) : Conduct σ where
  allows _ es _ := ∀ e ∈ es, p e
  rest _ := List.forall_mem_nil _
  trans h h' := List.forall_mem_append.2 ⟨h, h'⟩

end Conduct

end GlBridge
