import GlBridge.Log.Event

/-!
# Actions

An `Action σ ε α` changes a state of type `σ`, reports events, and either delivers an
`α` or fails with an `ε`. Failing undoes nothing: the state and the events reached so
far stay (`Outcome` always has both). `Action.attempt` turns a failure into a result,
for the places that go on after one.
-/

namespace GlBridge

/-- What an action leaves behind. -/
structure Outcome (σ ε α : Type) where
  result : Except ε α
  state : σ
  /-- what was reported, in order -/
  events : List Event

/-- A step that works on a state and may fail. -/
def Action (σ ε α : Type) : Type := σ → Outcome σ ε α

namespace Action

variable {σ ε δ α β : Type}

/-- Runs an action in a state. -/
def run (x : Action σ ε α) (s : σ) : Outcome σ ε α := x s

/-- Delivers a value and does nothing. -/
protected def pure (a : α) : Action σ ε α := fun s => ⟨.ok a, s, []⟩

/-- Runs `x`, then `f` on what it delivers. A failure of `x` is a failure of the whole. -/
protected def bind (x : Action σ ε α) (f : α → Action σ ε β) : Action σ ε β := fun s =>
  let out := x s
  match out.result with
  | .ok a =>
    let next := f a out.state
    ⟨next.result, next.state, out.events ++ next.events⟩
  | .error e => ⟨.error e, out.state, out.events⟩

instance : Monad (Action σ ε) where
  pure := Action.pure
  bind := Action.bind

/-- Fails. -/
def fail (e : ε) : Action σ ε α := fun s => ⟨.error e, s, []⟩

/-- Reports an event. -/
def emit (e : Event) : Action σ ε Unit := fun s => ⟨.ok (), s, [e]⟩

/-- The current state. -/
def get : Action σ ε σ := fun s => ⟨.ok s, s, []⟩

/-- Changes the state. -/
def modify (f : σ → σ) : Action σ ε Unit := fun s => ⟨.ok (), f s, []⟩

/-- Delivers what an action results in, be it a failure. -/
def attempt (x : Action σ ε α) : Action σ δ (Except ε α) := fun s =>
  let out := x s
  ⟨.ok out.result, out.state, out.events⟩

/-- Renames the failures of an action. -/
def mapError (f : ε → δ) (x : Action σ ε α) : Action σ δ α := fun s =>
  let out := x s
  ⟨out.result.mapError f, out.state, out.events⟩

/-- Delivers or fails as a pure computation did. -/
def ofExcept (r : Except ε α) : Action σ ε α := fun s => ⟨r, s, []⟩

theorem bind_apply (x : Action σ ε α) (f : α → Action σ ε β) (s : σ) :
    (x >>= f) s =
      match (x s).result with
      | .ok a =>
        ⟨(f a (x s).state).result, (f a (x s).state).state,
          (x s).events ++ (f a (x s).state).events⟩
      | .error e => ⟨.error e, (x s).state, (x s).events⟩ := rfl

@[simp] theorem pure_apply (a : α) (s : σ) : (pure a : Action σ ε α) s = ⟨.ok a, s, []⟩ := rfl

instance : LawfulMonad (Action σ ε) :=
  LawfulMonad.mk' (Action σ ε)
    (fun x => by
      funext s
      show (Action.bind x Action.pure) s = x s
      simp only [Action.bind, Action.pure]
      split <;> rename_i h <;> simp [← h])
    (fun a f => by
      funext s
      show (Action.bind (Action.pure a) f) s = f a s
      simp [Action.bind, Action.pure])
    (fun x f g => by
      funext s
      show Action.bind (Action.bind x f) g s = Action.bind x (fun a => Action.bind (f a) g) s
      simp only [Action.bind]
      cases (x s).result with
      | error e => rfl
      | ok a =>
        dsimp only
        cases (f a (x s).state).result with
        | error e => rfl
        | ok b => simp [List.append_assoc])

end Action

end GlBridge
