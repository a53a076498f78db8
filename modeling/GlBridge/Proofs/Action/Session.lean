import GlBridge.Action

/-!
# Running actions

The equations by which an action is run. Each says what one combinator leaves behind in
a state, and after them no proof looks into `Action.bind` again.

A **session** is what a caller makes of a device who carries on whatever happens:
actions one after the other on one state, each with its own result
(`Action.session`). A step that fails ends nothing but itself.
-/

namespace GlBridge

namespace Action

variable {σ ε δ α β : Type}

/-! ### What the combinators leave behind -/

@[simp] theorem fail_apply (e : ε) (s : σ) :
    (fail e : Action σ ε α) s = ⟨.error e, s, []⟩ := rfl

@[simp] theorem emit_apply (e : Event) (s : σ) :
    (emit e : Action σ ε Unit) s = ⟨.ok (), s, [e]⟩ := rfl

/-- The state is its own result, and nothing is done to it. -/
@[simp] theorem get_apply (s : σ) : (get : Action σ ε σ) s = ⟨.ok s, s, []⟩ := rfl

@[simp] theorem modify_apply (f : σ → σ) (s : σ) :
    (modify f : Action σ ε Unit) s = ⟨.ok (), f s, []⟩ := rfl

/-- To catch a failure makes a value of it; what the action did on the way stays done. -/
@[simp] theorem attempt_apply (x : Action σ ε α) (s : σ) :
    (x.attempt : Action σ δ (Except ε α)) s = ⟨.ok (x s).result, (x s).state, (x s).events⟩ := rfl

/-- And to rename it touches nothing but the result. -/
@[simp] theorem mapError_apply (f : ε → δ) (x : Action σ ε α) (s : σ) :
    (x.mapError f) s = ⟨(x s).result.mapError f, (x s).state, (x s).events⟩ := rfl

/-- What was decided before the action ran does nothing to the state. -/
@[simp] theorem ofExcept_apply (r : Except ε α) (s : σ) :
    (ofExcept r : Action σ ε α) s = ⟨r, s, []⟩ := rfl

/-- Behind a success the rest goes on where it ended, with what it delivered. -/
theorem bind_of_ok {x : Action σ ε α} {f : α → Action σ ε β} {s : σ} {a : α}
    (h : (x s).result = .ok a) :
    (x >>= f) s =
      ⟨(f a (x s).state).result, (f a (x s).state).state,
        (x s).events ++ (f a (x s).state).events⟩ := by
  rw [bind_apply, h]

/-- A failure is the last thing that happens. -/
theorem bind_of_error {x : Action σ ε α} {f : α → Action σ ε β} {s : σ} {e : ε}
    (h : (x s).result = .error e) :
    (x >>= f) s = ⟨.error e, (x s).state, (x s).events⟩ := by
  rw [bind_apply, h]

/-- Reading the state only chooses what is done. -/
@[simp] theorem get_bind_apply (f : σ → Action σ ε β) (s : σ) : (get >>= f) s = f s s := rfl

@[simp] theorem modify_bind_apply (g : σ → σ) (f : Unit → Action σ ε β) (s : σ) :
    (modify g >>= f) s = f () (g s) := rfl

@[simp] theorem emit_bind_apply (e : Event) (f : Unit → Action σ ε β) (s : σ) :
    (emit e >>= f) s = ⟨(f () s).result, (f () s).state, e :: (f () s).events⟩ := rfl

/-- What follows an attempt is told how the attempt went. -/
@[simp] theorem attempt_bind_apply (x : Action σ ε α) (f : Except ε α → Action σ δ β) (s : σ) :
    (x.attempt >>= f) s =
      ⟨(f (x s).result (x s).state).result, (f (x s).result (x s).state).state,
        (x s).events ++ (f (x s).result (x s).state).events⟩ := rfl

end Action

/-! ### Sessions -/

/-- What a session leaves behind. -/
structure Session (σ ε α : Type) where
  /-- what the steps resulted in, in order -/
  results : List (Except ε α)
  state : σ
  events : List Event

namespace Action

def session : List (Action σ ε α) → σ → Session σ ε α
  | [], s => ⟨[], s, []⟩
  | x :: rest, s =>
    let out := x s
    let next := session rest out.state
    ⟨out.result :: next.results, next.state, out.events ++ next.events⟩

@[simp] theorem session_nil (s : σ) : session ([] : List (Action σ ε α)) s = ⟨[], s, []⟩ := rfl

/-- A session goes on behind each of its steps, whatever came of it. -/
@[simp] theorem session_cons (x : Action σ ε α) (rest : List (Action σ ε α)) (s : σ) :
    session (x :: rest) s =
      ⟨(x s).result :: (session rest (x s).state).results, (session rest (x s).state).state,
        (x s).events ++ (session rest (x s).state).events⟩ := rfl

/-- A session goes on from the state in which its first part ended. -/
theorem session_append (xs ys : List (Action σ ε α)) (s : σ) :
    session (xs ++ ys) s =
      ⟨(session xs s).results ++ (session ys (session xs s).state).results,
        (session ys (session xs s).state).state,
        (session xs s).events ++ (session ys (session xs s).state).events⟩ := by
  -- the first part decides where the second one begins, so the state is any
  induction xs generalizing s with
  | nil => rfl
  | cons x rest ih =>
    rw [List.cons_append, session_cons, ih, session_cons, List.cons_append, List.append_assoc]

end Action

end GlBridge
