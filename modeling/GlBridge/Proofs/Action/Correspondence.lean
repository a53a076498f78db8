import GlBridge.Proofs.Action.Session

/-!
# Corresponding runs

Two runs of one program over different states are compared by a **correspondence**: a
relation between the states that both runs keep, while they deliver the same results.
`Correspondence.Matches` says so of two actions. It is closed under everything from which
actions are built, so a program matches as soon as the calls it makes do.

The relation may depend on a *level*, for which a device takes the number of chunks that are
open. An action that matches keeps every level; opening a chunk goes up by one
and closing it down by one (`MatchesFrom`).

A correspondence has two further parts, which a use may leave alone:

* `shows` picks the events in which the runs have to agree; the others are each run's
  own business.
* `admits` restricts the first run to those that *end* in some way. A relation may depend
  on what is still to come, for instance on the input that a later step will find, and
  the runs need then correspond only where that came true. For this to compose, a run that
  ends in an admitted state must have been in admitted states all along, which is
  the first half of `MatchesFrom`.

With `Correspondence.diagonal` the two runs are one and the same, and matching it says that
an action keeps an invariant (`Matches.keeps`).
-/

namespace GlBridge

/-- How the states and events of two runs correspond. -/
structure Correspondence (σ τ : Type) where
  /-- the states that correspond, level by level -/
  relates : Nat → σ → τ → Prop
  /-- the states of the first run in which it may end -/
  admits : σ → Prop := fun _ => True
  /-- the events in which the runs agree -/
  shows : Event → Bool := fun _ => true

namespace Correspondence

variable {σ τ ε δ α β : Type}

/-- Two runs deliver the same and leave states that correspond at a level. -/
structure Agree (K : Correspondence σ τ) (level : Nat) (o : Outcome σ ε α)
    (p : Outcome τ ε α) : Prop where
  result : o.result = p.result
  events : o.events.filter K.shows = p.events.filter K.shows
  state : K.relates level o.state p.state

/-- From `s` and `t` the actions agree and lead from one level to another, provided that
the states correspond and the first run ends in an admitted state. -/
def MatchesFrom (K : Correspondence σ τ) (level level' : Nat) (s : σ) (t : τ)
    (x : Action σ ε α) (y : Action τ ε α) : Prop :=
  K.admits (x s).state → K.admits s ∧ (K.relates level s t → K.Agree level' (x s) (y t))

/-- The actions agree wherever they are run, and stay at the level. -/
def Matches (K : Correspondence σ τ) (x : Action σ ε α) (y : Action τ ε α) : Prop :=
  ∀ level s t, K.MatchesFrom level level s t x y

variable {K : Correspondence σ τ}

/-- If every event is shown, the events are the same. -/
theorem filter_shows (hall : ∀ e, K.shows e = true) (es : List Event) :
    es.filter K.shows = es :=
  List.filter_eq_self.2 fun e _ => hall e

/-- Runs that agree on every event report the same. -/
theorem Agree.events_eq (hall : ∀ e, K.shows e = true) {level : Nat} {o : Outcome σ ε α}
    {p : Outcome τ ε α} (h : K.Agree level o p) : o.events = p.events := by
  have hevents := h.events
  rwa [filter_shows hall, filter_shows hall] at hevents

/-! ### Actions that leave the state alone -/

/-- Actions that leave their states alone need to agree only where the states correspond. -/
theorem matchesFrom_of_stays {level : Nat} {s : σ} {t : τ} {x : Action σ ε α}
    {y : Action τ ε α} (hs : (x s).state = s)
    (h : K.relates level s t → K.Agree level (x s) (y t)) :
    K.MatchesFrom level level s t x y := by
  intro hadm
  rw [hs] at hadm
  exact ⟨hadm, h⟩

/-- A value is the same for both, and so are the three below. -/
theorem matches_pure (a : α) : K.Matches (pure a : Action σ ε α) (pure a) :=
  fun _ _ _ => matchesFrom_of_stays rfl fun h => ⟨rfl, rfl, h⟩

theorem matches_fail (e : ε) : K.Matches (Action.fail e : Action σ ε α) (Action.fail e) :=
  fun _ _ _ => matchesFrom_of_stays rfl fun h => ⟨rfl, rfl, h⟩

theorem matches_emit (e : Event) :
    K.Matches (Action.emit e : Action σ ε Unit) (Action.emit e) :=
  fun _ _ _ => matchesFrom_of_stays rfl fun h => ⟨rfl, rfl, h⟩

theorem matches_ofExcept (r : Except ε α) :
    K.Matches (Action.ofExcept r : Action σ ε α) (Action.ofExcept r) :=
  fun _ _ _ => matchesFrom_of_stays rfl fun h => ⟨rfl, rfl, h⟩

/-! ### Actions made of others -/

/-- **Sequences match.** The second action starts from the states that the first one left, and
it is admitted there because the whole run is. -/
theorem MatchesFrom.bind {level : Nat} {s : σ} {t : τ} {x : Action σ ε α} {y : Action τ ε α}
    {f : α → Action σ ε β} {g : α → Action τ ε β} (hx : K.MatchesFrom level level s t x y)
    (hf : ∀ a, K.Matches (f a) (g a)) : K.MatchesFrom level level s t (x >>= f) (y >>= g) := by
  intro hadm
  cases hr : (x s).result with
  | error e =>
    -- the first action is the whole run, in the second state too
    rw [Action.bind_of_error hr] at hadm ⊢
    obtain ⟨hs, hagree⟩ := hx hadm
    refine ⟨hs, fun h => ?_⟩
    have hxy := hagree h
    rw [Action.bind_of_error (hxy.result.symm.trans hr)]
    exact ⟨rfl, hxy.events, hxy.state⟩
  | ok a =>
    rw [Action.bind_of_ok hr] at hadm ⊢
    -- admission is traced back: the end is admitted, hence the middle, hence the beginning
    obtain ⟨hmid, hnext⟩ := hf a level (x s).state (y t).state hadm
    obtain ⟨hs, hagree⟩ := hx hmid
    refine ⟨hs, fun h => ?_⟩
    -- agreement follows the run forward
    have hxy := hagree h
    have hfg := hnext hxy.state
    rw [Action.bind_of_ok (hxy.result.symm.trans hr)]
    refine ⟨hfg.result, ?_, hfg.state⟩
    rw [List.filter_append, List.filter_append, hxy.events, hfg.events]

/-- The same from every level. -/
theorem Matches.bind {x : Action σ ε α} {y : Action τ ε α} {f : α → Action σ ε β}
    {g : α → Action τ ε β} (hx : K.Matches x y) (hf : ∀ a, K.Matches (f a) (g a)) :
    K.Matches (x >>= f) (y >>= g) :=
  fun level s t => (hx level s t).bind hf

/-- A failure is caught on both sides or on neither. -/
theorem Matches.attempt {x : Action σ ε α} {y : Action τ ε α} (h : K.Matches x y) :
    K.Matches (x.attempt : Action σ δ (Except ε α)) y.attempt := by
  -- the states and events are those of `x` and `y`; only the results are values now
  intro level s t hadm
  obtain ⟨hs, hagree⟩ := h level s t hadm
  exact ⟨hs, fun hst =>
    ⟨congrArg Except.ok (hagree hst).result, (hagree hst).events, (hagree hst).state⟩⟩

/-- Failures that agree still do when they are renamed in the same way. -/
theorem Matches.mapError (f : ε → δ) {x : Action σ ε α} {y : Action τ ε α}
    (h : K.Matches x y) : K.Matches (x.mapError f) (y.mapError f) := by
  intro level s t hadm
  obtain ⟨hs, hagree⟩ := h level s t hadm
  exact ⟨hs, fun hst =>
    ⟨congrArg (Except.mapError f) (hagree hst).result, (hagree hst).events, (hagree hst).state⟩⟩

/-- A change matches another if together they keep the relation, and if it leads to admitted states
from such states only. -/
theorem matches_modify {f : σ → σ} {g : τ → τ} (hadm : ∀ s, K.admits (f s) → K.admits s)
    (h : ∀ level s t, K.relates level s t → K.relates level (f s) (g t)) :
    K.Matches (Action.modify f : Action σ ε Unit) (Action.modify g) :=
  fun level s t hs => ⟨hadm s hs, fun hst => ⟨rfl, rfl, h level s t hst⟩⟩

/-- **Reading a part of the state** that is the same in corresponding states. Both programs go on
with what they read, `k` and `j`. -/
theorem matches_read {γ : Type} {p : σ → γ} {q : τ → γ}
    (hpq : ∀ level s t, K.relates level s t → q t = p s) {k : γ → Action σ ε α}
    {j : γ → Action τ ε α} (h : ∀ v, K.Matches (k v) (j v)) :
    K.Matches (Action.get >>= fun s => k (p s)) (Action.get >>= fun t => j (q t)) := by
  intro level s t hadm
  -- `s` and `t` are the states that are read, so both programs go on with `p s`
  obtain ⟨hs, hagree⟩ := h (p s) level s t hadm
  refine ⟨hs, fun hst => ?_⟩
  rw [Action.get_bind_apply, Action.get_bind_apply, hpq level s t hst]
  exact hagree hst

/-- Where nothing is asked of the end of the first run, corresponding states are all there
is to matching. -/
theorem matches_of_agree (hadm : ∀ s, K.admits s) {x : Action σ ε α} {y : Action τ ε α}
    (h : ∀ level s t, K.relates level s t → K.Agree level (x s) (y t)) : K.Matches x y :=
  fun level s t _ => ⟨hadm s, h level s t⟩

/-! ### Correspondences without levels -/

/-- The relation is the same at every level. -/
def Flat (K : Correspondence σ τ) : Prop :=
  ∀ level level' s t, K.relates level s t → K.relates level' s t

/-- Then agreement carries from one level to another. -/
theorem Agree.of_flat (hflat : K.Flat) {level : Nat} (level' : Nat) {o : Outcome σ ε α}
    {p : Outcome τ ε α} (h : K.Agree level o p) : K.Agree level' o p :=
  ⟨h.result, h.events, hflat level level' _ _ h.state⟩

/-- If the level does not matter, actions that match lead from any level to any other. -/
theorem Matches.from_flat (hflat : K.Flat) {x : Action σ ε α} {y : Action τ ε α}
    (h : K.Matches x y) (level level' : Nat) (s : σ) (t : τ) :
    K.MatchesFrom level level' s t x y := by
  intro hadm
  obtain ⟨hs, hagree⟩ := h level s t hadm
  exact ⟨hs, fun hst => (hagree hst).of_flat hflat level'⟩

/-- If the level does not matter, actions match that lead from one level to another. -/
theorem matches_of_flat (hflat : K.Flat) {level level' : Nat} {x : Action σ ε α}
    {y : Action τ ε α} (h : ∀ s t, K.MatchesFrom level level' s t x y) : K.Matches x y := by
  intro l s t hadm
  obtain ⟨hs, hagree⟩ := h s t hadm
  exact ⟨hs, fun hst => (hagree (hflat l level s t hst)).of_flat hflat l⟩

/-! ### Sessions -/

/-- Two sessions deliver the same, step by step, and leave states that correspond at a level. -/
structure AgreeThroughout (K : Correspondence σ τ) (level : Nat) (o : Session σ ε α)
    (p : Session τ ε α) : Prop where
  results : o.results = p.results
  events : o.events.filter K.shows = p.events.filter K.shows
  state : K.relates level o.state p.state

/-- Sessions that agree on every event report the same. -/
theorem AgreeThroughout.events_eq (hall : ∀ e, K.shows e = true) {level : Nat}
    {o : Session σ ε α} {p : Session τ ε α} (h : K.AgreeThroughout level o p) :
    o.events = p.events := by
  have hevents := h.events
  rwa [filter_shows hall, filter_shows hall] at hevents

/-- **Sessions match** step by step: the steps `is` are carried out by `x` in the one session
and by `y` in the other. -/
theorem session_matches {ι : Type} {x : ι → Action σ ε α} {y : ι → Action τ ε α} {is : List ι}
    (h : ∀ i ∈ is, K.Matches (x i) (y i)) (level : Nat) {s : σ} {t : τ}
    (hadm : K.admits (Action.session (is.map x) s).state) :
    K.admits s ∧ (K.relates level s t →
      K.AgreeThroughout level (Action.session (is.map x) s) (Action.session (is.map y) t)) := by
  -- on the steps, for all states and with the end of the session admitted
  induction is generalizing s t with
  | nil => exact ⟨hadm, fun hst => ⟨rfl, rfl, hst⟩⟩
  | cons i rest ih =>
    rw [List.map_cons, Action.session_cons] at hadm ⊢
    have hrest : ∀ j ∈ rest, K.Matches (x j) (y j) :=
      fun j hj => h j (List.mem_cons_of_mem i hj)
    -- as in `MatchesFrom.bind`: back from the end of the session, then forward through it
    obtain ⟨hmid, hnext⟩ := ih hrest (t := (y i t).state) hadm
    obtain ⟨hs, hagree⟩ := h i List.mem_cons_self level s t hmid
    refine ⟨hs, fun hst => ?_⟩
    have hhead := hagree hst
    have htail := hnext hhead.state
    rw [List.map_cons, Action.session_cons]
    refine ⟨?_, ?_, htail.state⟩
    · rw [hhead.result, htail.results]
    · rw [List.filter_append, List.filter_append, hhead.events, htail.events]

/-- What sessions that match deliver and leave, their events aside. -/
theorem session_agree {ι : Type} {x : ι → Action σ ε α} {y : ι → Action τ ε α} {is : List ι}
    (h : ∀ i ∈ is, K.Matches (x i) (y i)) (level : Nat) {s : σ} {t : τ}
    (hadm : K.admits (Action.session (is.map x) s).state) :
    K.admits s ∧ (K.relates level s t →
      (Action.session (is.map x) s).results = (Action.session (is.map y) t).results ∧
        K.relates level (Action.session (is.map x) s).state
          (Action.session (is.map y) t).state) := by
  obtain ⟨hs, hagree⟩ := session_matches h level hadm
  exact ⟨hs, fun hst => ⟨(hagree hst).results, (hagree hst).state⟩⟩

/-! ### One run -/

/-- A run against itself, in states that satisfy `P` at their level. -/
def diagonal (P : Nat → σ → Prop) : Correspondence σ σ where
  relates level s t := s = t ∧ P level s

/-- An action that matches itself on the diagonal keeps the invariant. -/
theorem Matches.keeps {P : Nat → σ → Prop} {x : Action σ ε α} (h : (diagonal P).Matches x x)
    (level : Nat) {s : σ} (hs : P level s) : P level (x s).state :=
  ((h level s s trivial).2 ⟨rfl, hs⟩).state.2

/-- On the diagonal a run agrees with itself, so what it leaves is all there is to show. -/
theorem matchesFrom_diagonal {P : Nat → σ → Prop} {level level' : Nat} {s t : σ}
    {x : Action σ ε α} (h : P level s → P level' (x s).state) :
    (diagonal P).MatchesFrom level level' s t x x := by
  refine fun _ => ⟨trivial, ?_⟩
  rintro ⟨rfl, hs⟩
  exact ⟨rfl, rfl, rfl, h hs⟩

/-- The same wherever the action keeps the invariant at its level. -/
theorem matches_diagonal {P : Nat → σ → Prop} {x : Action σ ε α}
    (h : ∀ level s, P level s → P level (x s).state) : (diagonal P).Matches x x :=
  fun level s _ => matchesFrom_diagonal (h level s)

end Correspondence

end GlBridge
