import GlBridge.Proofs.Remote.Effect
import GlBridge.Proofs.Remote.Step

/-!
# Depth and what is held

Two facts about a context that hold over any transport, whatever its answers.

The depth changes with the explicit chunks only: any other step ends at the depth
at which it began, the builders included, which open and close chunks of their own
(`depth_matches`, `Step.depth_perform`).

Nothing is held outside of chunks, and no buffer is held without a call (`Context.Settled`).
Every step keeps this (`settled_matches`, `Step.settled_session`). Most of the primitives leave
nothing held at all, whatever comes of them (`Context.Drained`), and are settled for that reason.
-/

namespace GlBridge

open Correspondence

namespace Context

variable {σ : Type}

/-- Nothing is held outside of chunks, and no buffer without a call. -/
structure Settled (c : Context σ) : Prop where
  idle : c.depth = 0 → c.pending = []
  bare : c.pending = [] → c.buffers = []

/-- Nothing is held. -/
structure Drained (c : Context σ) : Prop where
  pending : c.pending = []
  buffers : c.buffers = []

/-- A context that holds nothing is settled at any depth. -/
theorem Drained.settled {c : Context σ} (h : c.Drained) : c.Settled :=
  ⟨fun _ => h.pending, fun _ => h.buffers⟩

/-- A settled context outside of chunks holds nothing. -/
theorem Settled.drained {c : Context σ} (h : c.Settled) (hdepth : c.depth = 0) : c.Drained :=
  ⟨h.idle hdepth, h.bare (h.idle hdepth)⟩

/-- A new context is settled. -/
theorem settled_start (config : Config) (t : σ) : (start config t).Settled :=
  ⟨fun _ => rfl, fun _ => rfl⟩

variable (tr : Transport σ) (c : Context σ)

/-! ### Depth -/

/-- A call leaves the depth as it is, although it looks at it. -/
theorem depth_exec (op : String) (args : List Value) :
    (exec tr op args c).state.depth = c.depth := by
  by_cases h : c.depth = 0
  · rw [exec_of_outside tr c op args h, depth_flush]
    rfl
  · rw [exec_of_inside tr c op args h]
    rfl

theorem depth_query (op : String) (args : List Value) :
    (query tr op args c).state.depth = c.depth := by
  rw [query_apply]
  rfl

theorem depth_storing (data : Except RemoteError (Dictionary Double)) :
    (c.storing data).depth = c.depth := by
  cases data <;> rfl

/-- Fetching leaves the depth as it is, also if the flush before it fails. -/
theorem depth_fetchConstants : (fetchConstants tr c).state.depth = c.depth := by
  cases h : (flush tr c).result with
  | error e => rw [fetchConstants_of_error tr c h, depth_flush]
  | ok u =>
    rw [fetchConstants_of_ok tr c h, depth_storing]
    exact depth_flush tr c

theorem depth_fetchMethods : (fetchMethods tr c).state.depth = c.depth := by
  cases h : (flush tr c).result with
  | error e => rw [fetchMethods_of_error tr c h, depth_flush]
  | ok u =>
    rw [fetchMethods_of_ok tr c h]
    exact depth_flush tr c

theorem depth_orbitView (args : List Value) (render : List Instruction) :
    (orbitView tr args render c).state.depth = c.depth := by
  cases h : (flush tr c).result with
  | error e => rw [orbitView_of_error tr c args render h, depth_flush]
  | ok u =>
    rw [orbitView_of_ok tr c args render h]
    exact depth_flush tr c

/-- The end of a chunk takes one off the depth, and stays at zero where none was open. -/
theorem depth_endChunk : (endChunk tr c).state.depth = c.depth - 1 := by
  match h : c.depth with
  -- there is nothing to take off
  | 0 => rw [endChunk_of_zero tr c h, depth_flush, h]
  | 1 => rw [endChunk_of_one tr c h, depth_flush]
  | depth + 2 => rw [endChunk_of_more tr c h]; rfl

/-- **The depth is the level**: chunks are the only thing by which it changes. -/
theorem depth_matches :
    Context.Matches (diagonal fun level (c : Context σ) => c.depth = level) tr tr where
  exec op args := matches_diagonal fun _ c h => (depth_exec tr c op args).trans h
  execWithBuffer op args _ := matches_diagonal fun _ c h => (depth_exec tr _ op args).trans h
  query op args := matches_diagonal fun _ c h => (depth_query tr c op args).trans h
  flush := matches_diagonal fun _ c h => (depth_flush tr c).trans h
  fetchConstants := matches_diagonal fun _ c h => (depth_fetchConstants tr c).trans h
  fetchMethods := matches_diagonal fun _ c h => (depth_fetchMethods tr c).trans h
  orbitView args render :=
    matches_diagonal fun _ c h => (depth_orbitView tr c args render).trans h
  beginChunk _ _ _ := matchesFrom_diagonal fun h => congrArg (· + 1) h
  endChunk _ c _ := matchesFrom_diagonal fun h => by rw [depth_endChunk, h, Nat.add_sub_cancel]

/-! ### What is held -/

variable {c}

/-- A flush settles every context that holds no buffer without a call. -/
theorem buffers_flush (h : c.pending = [] → c.buffers = []) :
    (flush tr c).state.buffers = [] := by
  by_cases hp : c.pending = []
  · rw [flush_of_empty tr c hp]
    exact h hp
  · rw [flush_of_held tr c hp]
    rfl

/-- It leaves nothing behind, also when the message does not get through. -/
theorem drained_flush (h : c.pending = [] → c.buffers = []) : (flush tr c).state.Drained :=
  ⟨pending_flush tr c, buffers_flush tr h⟩

/-- A call settles the context, also where its buffer was queued before it. -/
theorem settled_exec (op : String) (args : List Value) : (exec tr op args c).state.Settled := by
  by_cases h : c.depth = 0
  · rw [exec_sends tr c op args h]
    exact ⟨fun _ => rfl, fun _ => rfl⟩
  · -- whatever was held before, the queue now has this call
    rw [exec_of_inside tr c op args h]
    exact ⟨fun hd => absurd hd h, fun hp => absurd hp (by simp [queued])⟩

/-- A query takes along what is held. -/
theorem drained_query (op : String) (args : List Value) : (query tr op args c).state.Drained := by
  rw [query_apply]
  exact ⟨rfl, rfl⟩

theorem Drained.withTransport (h : c.Drained) (t : σ) : (c.withTransport t).Drained :=
  ⟨h.pending, h.buffers⟩

theorem Drained.storing (h : c.Drained) (data : Except RemoteError (Dictionary Double)) :
    (c.storing data).Drained := by
  cases data with
  | error e => exact h
  | ok d => exact ⟨h.pending, h.buffers⟩

/-- Fetching the constants begins with a flush, and nothing is held after it. -/
theorem drained_fetchConstants (h : c.Settled) : (fetchConstants tr c).state.Drained := by
  have hflush := drained_flush tr h.bare
  cases hr : (flush tr c).result with
  | error e => rwa [fetchConstants_of_error tr c hr]
  | ok u =>
    rw [fetchConstants_of_ok tr c hr]
    exact (hflush.withTransport _).storing _

/-- The methods are fetched behind a flush as well. -/
theorem drained_fetchMethods (h : c.Settled) : (fetchMethods tr c).state.Drained := by
  have hflush := drained_flush tr h.bare
  cases hr : (flush tr c).result with
  | error e => rwa [fetchMethods_of_error tr c hr]
  | ok u =>
    rw [fetchMethods_of_ok tr c hr]
    exact hflush.withTransport _

/-- A command is sent behind a flush as well. -/
theorem drained_orbitView (h : c.Settled) (args : List Value) (render : List Instruction) :
    (orbitView tr args render c).state.Drained := by
  have hflush := drained_flush tr h.bare
  cases hr : (flush tr c).result with
  | error e => rwa [orbitView_of_error tr c args render hr]
  | ok u =>
    rw [orbitView_of_ok tr c args render hr]
    exact hflush.withTransport _

/-- Inside a chunk there is nothing to be settled but the buffers. -/
theorem Settled.beginChunk (h : c.Settled) : c.beginChunk.Settled :=
  ⟨fun h0 => absurd h0 (Nat.succ_ne_zero c.depth), h.bare⟩

/-- At the end of the outermost chunk everything is sent, and at any other end the chunk around it
is still open. -/
theorem Settled.endChunk (h : c.Settled) : (endChunk tr c).state.Settled := by
  match hd : c.depth with
  | 0 =>
    rw [endChunk_of_zero tr c hd]
    exact (drained_flush tr h.bare).settled
  | 1 =>
    -- the depth is lowered first, so that the flush is one outside of chunks
    rw [endChunk_of_one tr c hd]
    exact (drained_flush tr (c := { c with depth := 0 }) h.bare).settled
  | depth + 2 =>
    rw [endChunk_of_more tr c hd]
    exact ⟨fun h0 => absurd h0 (Nat.succ_ne_zero depth), h.bare⟩

/-- **Contexts stay settled.** -/
theorem settled_matches : Context.Matches (diagonal fun _ (c : Context σ) => c.Settled) tr tr where
  exec op args := matches_diagonal fun _ _ _ => settled_exec tr op args
  execWithBuffer op args _ := matches_diagonal fun _ _ _ => settled_exec tr op args
  query op args := matches_diagonal fun _ _ _ => (drained_query tr op args).settled
  flush := matches_diagonal fun _ _ h => (drained_flush tr h.bare).settled
  fetchConstants := matches_diagonal fun _ _ h => (drained_fetchConstants tr h).settled
  fetchMethods := matches_diagonal fun _ _ h => (drained_fetchMethods tr h).settled
  orbitView args render :=
    matches_diagonal fun _ _ h => (drained_orbitView tr h args render).settled
  beginChunk _ _ _ := matchesFrom_diagonal fun h => h.beginChunk
  endChunk _ _ _ := matchesFrom_diagonal fun h => h.endChunk tr

end Context

/-! ### Operations -/

namespace Operation

variable {σ : Type} (tr : Transport σ)

/-- An operation that does not itself open or close a chunk leaves the depth as it is. -/
theorem depth_perform {o : Operation} (h : Context.Matches.isChunk o = false) (c : Context σ) :
    (o.perform tr c).state.depth = c.depth :=
  ((Context.depth_matches tr).operation o fun ho =>
    absurd (h.symm.trans ho) Bool.false_ne_true).keeps c.depth rfl

/-- Operations keep a context settled. -/
theorem settled_perform (o : Operation) {c : Context σ} (h : c.Settled) :
    (o.perform tr c).state.Settled :=
  ((Context.settled_matches tr).operation o fun _ _ _ _ _ hc => hc).keeps 0 h

end Operation

/-! ### Steps and sessions -/

namespace Step

variable {σ : Type} (tr : Transport σ)

/-- A step that does not itself open or close a chunk ends at the depth at which it began. -/
theorem depth_perform {s : Step} (h : s.isBatching = false) (c : Context σ) :
    (s.perform tr c).state.depth = c.depth := by
  -- here the level is the depth, so an explicit chunk would not match
  have hflat : s.isBatching = true →
      (diagonal fun level (c : Context σ) => c.depth = level).Flat :=
    fun hs => absurd (h.symm.trans hs) Bool.false_ne_true
  exact ((Context.depth_matches tr).step s hflat).keeps c.depth rfl

/-- Steps keep a context settled. -/
theorem settled_perform (s : Step) {c : Context σ} (h : c.Settled) :
    (s.perform tr c).state.Settled :=
  ((Context.settled_matches tr).step s fun _ _ _ _ _ hc => hc).keeps 0 h

/-- Without chunks of their own, steps end at the depth at which they began. -/
theorem depth_session {steps : List Step} (h : ∀ s ∈ steps, s.isBatching = false)
    (c : Context σ) : (session tr steps c).state.depth = c.depth := by
  unfold session
  induction steps generalizing c with
  | nil => rfl
  | cons s rest ih =>
    -- the rest leaves the depth as it is, and so does the first step
    rw [List.map_cons, Action.session_cons,
      ih (fun s' hs' => h s' (List.mem_cons_of_mem s hs')),
      depth_perform tr (h s List.mem_cons_self)]

/-- **Outside of chunks nothing is held**, after any steps. -/
theorem settled_session (steps : List Step) {c : Context σ} (h : c.Settled) :
    (session tr steps c).state.Settled :=
  (Context.settled_matches tr).session_keeps steps h

end Step

end GlBridge
