import GlBridge.Proofs.Remote.Delivery
import GlBridge.Proofs.Remote.Depth

/-!
# The queue and the chunks

What a context holds is bounded by its chunks. The depth counts their beginnings and ends and
nothing else (`Step.openChunks`), nothing is held where that count is zero, and whatever is meant
to leave nothing behind in the queue does so even if it fails (`Primitive.drains`). The main
statement is `queue_follows_chunks`.

The last of these is what keeps messages apart: a flush takes the calls out of the queue before
it hands them over, so the calls of a message that failed never turn up in a later one.
-/

namespace GlBridge

variable {σ : Type}

/-- The primitives after which nothing is held, by the depth at which they begin: those that take
the queue along or send it first, and the end of the outermost chunk. -/
def Primitive.drains (depth : Nat) : Primitive → Bool
  | .query _ _ | .flush | .fetchConstants | .fetchMethods | .orbitView _ _ => true
  | .endChunk => depth - 1 = 0
  | .exec _ _ | .execWithBuffer _ _ _ | .beginChunk => false

namespace Step

/-- The depth after a step. An end that has no beginning counts for nothing. -/
def depthAfter (depth : Nat) : Step → Nat
  | .operation (.primitive .beginChunk) => depth + 1
  | .operation (.primitive .endChunk) => depth - 1
  | _ => depth

/-- The number of chunks that steps leave open. -/
def openChunks (steps : List Step) : Nat := steps.foldl depthAfter 0

variable (tr : Transport σ)

/-! ### The depth -/

/-- **A step counts as a beginning, as an end, or not at all**, whether it succeeds or fails. -/
theorem depth_eq_depthAfter (s : Step) (c : Context σ) :
    (s.perform tr c).state.depth = s.depthAfter c.depth := by
  by_cases h : s.isBatching = true
  · -- the explicit chunks, and a flush, which is no chunk
    match s, h with
    | .operation (.primitive .beginChunk), _ => rw [state_operation]; rfl
    | .operation (.primitive .endChunk), _ =>
      rw [state_operation]
      exact (congrArg _ (Context.state_answering _ _ c)).trans (Context.depth_endChunk tr c)
    | .operation (.primitive .flush), _ =>
      rw [state_operation]
      exact (congrArg _ (Context.state_answering _ _ c)).trans (Context.depth_flush tr c)
  · -- whatever chunks such a step opens, it has closed again
    have hbatching : s.isBatching = false := Bool.eq_false_iff.mpr h
    have hdepth := depth_perform tr hbatching c
    unfold depthAfter
    split
    · exact absurd rfl h
    · exact absurd rfl h
    · exact hdepth

/-- The depth after a run is that of the count along its steps. -/
theorem depth_eq_foldl (steps : List Step) (c : Context σ) :
    (session tr steps c).state.depth = steps.foldl depthAfter c.depth := by
  unfold session
  induction steps generalizing c with
  | nil => rfl
  | cons s rest ih =>
    rw [List.map_cons, Action.session_cons, ih, depth_eq_depthAfter, List.foldl_cons]

end Step

/-! ### What is held -/

namespace Context

variable (tr : Transport σ) {c : Context σ}

/-- The end of the outermost chunk leaves nothing held. -/
theorem drained_endChunk (h : c.Settled) (hdepth : c.depth - 1 = 0) :
    (endChunk tr c).state.Drained := by
  -- at depth zero afterwards, and a settled context holds nothing there
  refine (h.endChunk tr).drained ?_
  rw [depth_endChunk, hdepth]

/-- **Primitives that drain the queue** do so whatever comes of them. -/
theorem drained_primitive (h : c.Settled) {p : Primitive} (hp : p.drains c.depth = true) :
    (p.perform tr c).state.Drained := by
  cases p with
  | query op args => rw [Primitive.perform, state_answering]; exact drained_query tr op args
  | flush => rw [Primitive.perform, state_answering]; exact drained_flush tr h.bare
  | fetchConstants => rw [Primitive.perform, state_answering]; exact drained_fetchConstants tr h
  | fetchMethods => rw [Primitive.perform, state_answering]; exact drained_fetchMethods tr h
  | orbitView args render =>
    rw [Primitive.perform, state_answering]
    exact drained_orbitView tr h args render
  | endChunk =>
    rw [Primitive.perform, state_answering]
    exact drained_endChunk tr h (of_decide_eq_true hp)
  -- the last three may leave something in the queue, and are not asked about
  | exec op args => cases hp
  | execWithBuffer op args buffer => cases hp
  | beginChunk => cases hp

/-- An end without a beginning is only reported where nothing is held. -/
theorem endChunk_of_drained (h : c.Drained) (hdepth : c.depth = 0) :
    endChunk tr c = ⟨.ok (), c, [.unmatchedEnd]⟩ := by
  rw [endChunk_of_zero tr c hdepth, flush_of_empty tr c h.pending]

end Context

/-- An end without a beginning succeeds and is reported, and it does nothing else. -/
theorem Operation.perform_endChunk_of_drained (tr : Transport σ) {c : Context σ} (h : c.Drained)
    (hdepth : c.depth = 0) :
    (Operation.primitive .endChunk).perform tr c = ⟨.ok .done, c, [.unmatchedEnd]⟩ := by
  have hend := Context.endChunk_of_drained tr h hdepth
  show answering _ (Context.endChunk tr) c = _
  unfold answering
  rw [Action.bind_of_ok (congrArg Outcome.result hend), hend]
  rfl

/-! ### The queue along a run -/

/-- **The queue follows the chunks.** Take any steps over any transport, with chunks that are
closed too often or never and with steps that fail. Then the depth is the number of chunks that
were opened and not closed; outside of chunks nothing is held; a query that is issued,
a flush, discovery, a command and the end of the outermost chunk leave nothing held, whatever they
result in; and so an end too many succeeds, changes nothing and hands nothing to the transport. -/
theorem queue_follows_chunks (tr : Transport σ) (config : Config) (t : σ) (steps : List Step) :
    let c := (Step.session tr steps (Context.start config t)).state
    c.depth = Step.openChunks steps ∧
      (c.depth = 0 → c.Drained) ∧
      (∀ (o : Operation) (p : Primitive), o.primitive? = .ok p → p.drains c.depth = true →
        (o.perform tr c).state.Drained) ∧
      (c.depth = 0 →
        (Operation.primitive .endChunk).perform tr c = ⟨.ok .done, c, [.unmatchedEnd]⟩ ∧
        ((Operation.primitive .endChunk).perform tr.observed
          c.underObservation).state.transport.exchanges = []) := by
  intro c
  have hsettled : c.Settled := Step.settled_session tr steps (Context.settled_start config t)
  refine ⟨Step.depth_eq_foldl tr steps _, hsettled.drained, ?_, ?_⟩
  · intro o p ho hp
    rw [(Operation.perform_of_ok tr ho c).1]
    exact Context.drained_primitive tr hsettled hp
  · intro hdepth
    have hdrained := hsettled.drained hdepth
    refine ⟨Operation.perform_endChunk_of_drained tr hdrained hdepth, ?_⟩
    -- the observed context holds as little, so it stays as it is, with nothing observed
    have hobserved : c.underObservation.Drained := ⟨hdrained.pending, hdrained.buffers⟩
    rw [Operation.perform_endChunk_of_drained tr.observed hobserved hdepth]
    rfl

end GlBridge
