import GlBridge.Proofs.Remote.Delivery
import GlBridge.Proofs.Remote.Depth
import GlBridge.Remote.DryRun

/-!
# Batching is transparent

Chunks and explicit flushes decide in which messages the calls of a context leave. An executor
that answers a query for its last call cannot tell the difference, and nor can the caller:
`batching_transparent`.

What caller and executor can tell of a context is its `Outlook`, which has the calls and messages
in one stream, whether they left or are held. Over the recording transport every primitive is a
function of the outlook (`Context.Follows`), and the three that only batch leave it alone. So two
contexts with the same outlook keep having the same outlook, wherever one of them batches.
-/

namespace GlBridge

variable {ρ : Type}

/-- The answer to a query depends on nothing but its last instruction. -/
def LooksAtLast (answer : Message → ρ → Reply × ρ) : Prop :=
  ∀ is i r, answer (.query (is ++ [i])) r = answer (.query [i]) r

/-- What was recorded, taken apart into calls and messages. -/
def Recording.items (r : Recording ρ) : List Item := r.sent.flatMap fun s => s.message.items

/-- A message adds its pieces behind those of the messages before it. -/
theorem Recording.items_record (m : Message) (bs : List Bytes) (r : Recording ρ) :
    (r.record m bs).items = r.items ++ m.items := by
  unfold items record
  rw [List.flatMap_append, List.flatMap_singleton]

/-! ### Outlooks -/

/-- What the caller and the executor can tell of a context. -/
structure Outlook (ρ : Type) where
  responder : ρ
  constants : Dictionary Double
  config : Config
  /-- what was sent, and then what is held -/
  stream : List Item

/-- The outlook of a context over the recording transport. -/
def Context.outlook (c : Context (Recording ρ)) : Outlook ρ :=
  ⟨c.transport.responder, c.constants, c.config, c.transport.items ++ c.pending.map .call⟩

namespace Outlook

/-- The outlook after something was issued, no matter whether it is held. -/
def issue (o : Outlook ρ) (items : List Item) : Outlook ρ :=
  { o with stream := o.stream ++ items }

/-- The outlook after the responder was asked. -/
def answered (o : Outlook ρ) (r : ρ) : Outlook ρ := { o with responder := r }

/-- The outlook after constants were asked for. -/
def storing (o : Outlook ρ) : Except RemoteError (Dictionary Double) → Outlook ρ
  | .ok d => { o with constants := d }
  | .error _ => o

end Outlook

namespace Context

/-- An action is a function of the outlook. -/
def Follows {α : Type} (x : Remote (Recording ρ) α)
    (f : Outlook ρ → Except RemoteError α × Outlook ρ) : Prop :=
  ∀ c, (x c).result = (f c.outlook).1 ∧ (x c).state.outlook = (f c.outlook).2

variable (answer : Message → ρ → Reply × ρ) (c : Context (Recording ρ))

/-! ### The primitives as functions of the outlook -/

/-- A call that is queued shows. -/
theorem outlook_queued (i : Instruction) : (c.queued i).outlook = c.outlook.issue [.call i] := by
  unfold outlook queued Outlook.issue
  rw [List.map_append, ← List.append_assoc]
  rfl

/-- After a message that took the queue along, what shows is what was recorded. -/
theorem outlook_emptied (m : Message) (bs : List Bytes) (r : ρ) :
    (c.emptied { c.transport.record m bs with responder := r }).outlook =
      ⟨r, c.constants, c.config, c.transport.items ++ m.items⟩ := by
  unfold outlook emptied
  rw [List.map_nil, List.append_nil]
  exact congrArg (Outlook.mk r c.constants c.config) (Recording.items_record m bs c.transport)

/-- The outlook after a message that was recorded while nothing was held. -/
theorem outlook_withTransport (m : Message) (bs : List Bytes) (r : ρ) (h : c.pending = []) :
    (c.withTransport { c.transport.record m bs with responder := r }).outlook =
      (c.outlook.issue m.items).answered r := by
  unfold outlook withTransport Outlook.issue Outlook.answered
  rw [h, List.map_nil, List.append_nil, List.append_nil]
  exact congrArg (Outlook.mk r c.constants c.config) (Recording.items_record m bs c.transport)

/-- **Flushing does not show.** -/
theorem flush_follows : Follows (flush (Recording.transport answer)) fun o => (.ok (), o) := by
  intro c
  by_cases h : c.pending = []
  · rw [flush_of_empty _ c h]
    exact ⟨rfl, rfl⟩
  · rw [flush_of_held _ c h]
    exact ⟨rfl, outlook_emptied c (.exec c.pending) c.buffers c.transport.responder⟩

/-- A call shows in the same way whether it is held or sent. -/
theorem exec_follows (op : String) (args : List Value) :
    Follows (exec (Recording.transport answer) op args) fun o =>
      (.ok (), o.issue [.call (.exec op args)]) := by
  intro c
  by_cases h : c.depth = 0
  · obtain ⟨hresult, hstate⟩ := flush_follows answer (c.queued (.exec op args))
    rw [exec_of_outside _ c op args h]
    exact ⟨hresult, hstate.trans (outlook_queued c _)⟩
  · rw [exec_of_inside _ c op args h]
    exact ⟨rfl, outlook_queued c _⟩

/-- The buffer of a call does not show. -/
theorem execWithBuffer_follows (op : String) (args : List Value) (b : Bytes) :
    Follows (execWithBuffer (Recording.transport answer) op args b) fun o =>
      (.ok (), o.issue [.call (.exec op args)]) :=
  fun c => exec_follows answer op args (c.withBuffer b)

/-- **A query is answered as if nothing had been held.** -/
theorem query_follows (hlast : LooksAtLast answer) (op : String) (args : List Value) :
    Follows (query (Recording.transport answer) op args) fun o =>
      ((answer (.query [.query op args]) o.responder).1.toValue,
        (o.issue [.call (.query op args)]).answered
          (answer (.query [.query op args]) o.responder).2) := by
  intro c
  rw [query_apply]
  -- the message begins with what was held, which the responder does not look at
  refine ⟨?_, (outlook_emptied c _ _ _).trans ?_⟩
  · exact congrArg (fun out => out.1.toValue) (hlast c.pending (.query op args) _)
  · rw [hlast]
    unfold Outlook.issue Outlook.answered outlook
    rw [Message.items, List.map_append, ← List.append_assoc]
    rfl

/-- The responder is not asked by a flush. -/
theorem responder_flush :
    (flush (Recording.transport answer) c).state.transport.responder = c.transport.responder :=
  congrArg Outlook.responder (flush_follows answer c).2

/-- The outlook after a message that was recorded behind a flush. -/
theorem outlook_flush_withTransport (m : Message) (r : ρ) :
    ((flush (Recording.transport answer) c).state.withTransport
        { (flush (Recording.transport answer) c).state.transport.record m [] with
          responder := r }).outlook = (c.outlook.issue m.items).answered r := by
  rw [outlook_withTransport _ m [] r (pending_flush _ c), (flush_follows answer c).2]

theorem outlook_storing (data : Except RemoteError (Dictionary Double)) :
    (c.storing data).outlook = c.outlook.storing data := by
  cases data <;> rfl

/-- The constants are asked for, and whatever was held goes first in either case. -/
theorem fetchConstants_follows :
    Follows (fetchConstants (Recording.transport answer)) fun o =>
      let out := answer (.getConstants o.config.target) o.responder
      (out.1.toConstants, ((o.issue [.message (.getConstants o.config.target)]).answered
        out.2).storing out.1.toConstants) := by
  intro c
  rw [fetchConstants_of_ok _ c (flush_follows answer c).1]
  simp only [Recording.transport_request, responder_flush, Except.bind, outlook_storing]
  exact ⟨rfl, congrArg (Outlook.storing · _) (outlook_flush_withTransport answer c _ _)⟩

/-- The methods are asked for. -/
theorem fetchMethods_follows :
    Follows (fetchMethods (Recording.transport answer)) fun o =>
      let out := answer (.getMethods o.config.target) o.responder
      (out.1.toMethods, (o.issue [.message (.getMethods o.config.target)]).answered out.2) := by
  intro c
  rw [fetchMethods_of_ok _ c (flush_follows answer c).1]
  simp only [Recording.transport_request, responder_flush, Except.bind]
  exact ⟨rfl, outlook_flush_withTransport answer c _ _⟩

/-- A command is issued, and the responder is left alone. -/
theorem orbitView_follows (args : List Value) (render : List Instruction) :
    Follows (orbitView (Recording.transport answer) args render) fun o =>
      (.ok (), o.issue [.message (.command ⟨"orbitView", args, render⟩)]) := by
  intro c
  rw [orbitView_of_ok _ c args render (flush_follows answer c).1]
  refine ⟨rfl, ?_⟩
  -- a command is not answered, so the responder stays in the state in which the flush left it
  have hsent := outlook_flush_withTransport answer c (.command ⟨"orbitView", args, render⟩)
    c.transport.responder
  rw [← responder_flush answer c] at hsent
  exact hsent.trans (congrArg (Outlook.answered _) (responder_flush answer c))

/-- **Opening a chunk does not show.** -/
theorem beginChunk_follows :
    Follows (Action.modify beginChunk : Remote (Recording ρ) Unit) fun o => (.ok (), o) :=
  fun _ => ⟨rfl, rfl⟩

/-- **Closing a chunk does not show**, also where none is open. -/
theorem endChunk_follows :
    Follows (endChunk (Recording.transport answer)) fun o => (.ok (), o) := by
  intro c
  match h : c.depth with
  | 0 =>
    rw [endChunk_of_zero _ c h]
    exact flush_follows answer c
  | 1 =>
    rw [endChunk_of_one _ c h]
    exact flush_follows answer { c with depth := 0 }
  | depth + 2 =>
    rw [endChunk_of_more _ c h]
    exact ⟨rfl, rfl⟩

/-! ### Contexts with the same outlook -/

/-- The contexts have the same outlook. The events are each context's own business: one that
sends more messages reports more. -/
def sameOutlook : Correspondence (Context (Recording ρ)) (Context (Recording ρ)) where
  relates _ c d := c.outlook = d.outlook
  shows _ := false

/-- Functions of the outlook do the same to contexts of the same outlook. -/
theorem Follows.matches {α : Type} {x : Remote (Recording ρ) α}
    {f : Outlook ρ → Except RemoteError α × Outlook ρ} (h : Follows x f) :
    sameOutlook.Matches x x := by
  refine Correspondence.matches_of_agree (fun _ => trivial) fun _ c d hcd => ?_
  obtain ⟨hc, hc'⟩ := h c
  obtain ⟨hd, hd'⟩ := h d
  change c.outlook = d.outlook at hcd
  -- no event shows, so both filtered lists are empty
  have hnone (es : List Event) : es.filter (@sameOutlook ρ).shows = [] :=
    List.filter_eq_nil_iff.2 fun _ _ => Bool.false_ne_true
  refine ⟨?_, ?_, ?_⟩
  · rw [hc, hd, hcd]
  · rw [hnone, hnone]
  · rw [← hcd] at hd'
    exact hc'.trans hd'.symm

/-- The level is no part of the outlook. -/
theorem sameOutlook_flat : (@sameOutlook ρ).Flat := fun _ _ _ _ h => h

variable {answer}

/-- Contexts with the same outlook keep having the same, whatever is done with both. -/
theorem sameOutlook_matches (hlast : LooksAtLast answer) :
    Context.Matches sameOutlook (Recording.transport answer) (Recording.transport answer) where
  exec op args := (exec_follows answer op args).matches
  execWithBuffer op args b := (execWithBuffer_follows answer op args b).matches
  query op args := (query_follows answer hlast op args).matches
  flush := (flush_follows answer).matches
  fetchConstants := (fetchConstants_follows answer).matches
  fetchMethods := (fetchMethods_follows answer).matches
  orbitView args render := (orbitView_follows answer args render).matches
  beginChunk level := beginChunk_follows.matches.from_flat sameOutlook_flat level (level + 1)
  endChunk level := (endChunk_follows answer).matches.from_flat sameOutlook_flat (level + 1) level

end Context

/-! ### Sessions -/

namespace Step

variable {answer : Message → ρ → Reply × ρ}

/-- A step that only batches leaves the outlook as it is. -/
theorem outlook_batching {s : Step} (h : s.isBatching = true) (c : Context (Recording ρ)) :
    (s.perform (Recording.transport answer) c).state.outlook = c.outlook := by
  match s, h with
  | .operation (.primitive .flush), _ =>
    rw [state_operation]
    exact (congrArg _ (Context.state_answering _ _ c)).trans (Context.flush_follows answer c).2
  -- the depth is no part of the outlook
  | .operation (.primitive .beginChunk), _ => rw [state_operation]; rfl
  | .operation (.primitive .endChunk), _ =>
    rw [state_operation]
    exact (congrArg _ (Context.state_answering _ _ c)).trans (Context.endChunk_follows answer c).2

/-- The steps that do more than to batch. -/
def unbatched (steps : List Step) : List Step := steps.filter fun s => !s.isBatching

/-- What those steps resulted in, among the results of all. -/
def keptResults {α : Type} (steps : List Step) (results : List α) : List α :=
  ((steps.zip results).filter fun p => !p.1.isBatching).map Prod.snd

/-- **Leaving out what only batches** changes neither the results of the other steps nor the
outlook at the end. -/
theorem session_unbatched (hlast : LooksAtLast answer) (steps : List Step)
    {c d : Context (Recording ρ)} (h : c.outlook = d.outlook) :
    keptResults steps (session (Recording.transport answer) steps c).results =
        (session (Recording.transport answer) (unbatched steps) d).results ∧
      (session (Recording.transport answer) steps c).state.outlook =
        (session (Recording.transport answer) (unbatched steps) d).state.outlook := by
  unfold session
  -- the two contexts are apart as soon as a step was left out, so both are free in the induction;
  -- that they have the same outlook is what goes through it
  induction steps generalizing c d with
  | nil => exact ⟨rfl, h⟩
  | cons s rest ih =>
    cases hs : s.isBatching with
    | true =>
      -- only the first run takes the step
      obtain ⟨hresults, houtlook⟩ := ih ((outlook_batching hs c).trans h)
      have hskip : unbatched (s :: rest) = unbatched rest :=
        List.filter_cons_of_neg (by simp [hs])
      rw [hskip, List.map_cons, Action.session_cons]
      refine ⟨?_, houtlook⟩
      rw [← hresults, keptResults, List.zip_cons_cons, List.filter_cons_of_neg (by simp [hs])]
      rfl
    | false =>
      -- both runs take it
      have hmatch := (Context.sameOutlook_matches hlast).step s fun _ => Context.sameOutlook_flat
      have hagree := (hmatch 0 c d trivial).2 h
      obtain ⟨hresults, houtlook⟩ := ih hagree.state
      have hkeep : unbatched (s :: rest) = s :: unbatched rest :=
        List.filter_cons_of_pos (by simp [hs])
      rw [hkeep, List.map_cons, List.map_cons, Action.session_cons, Action.session_cons]
      refine ⟨?_, houtlook⟩
      rw [← hresults, ← hagree.result, keptResults, List.zip_cons_cons,
        List.filter_cons_of_pos (by simp [hs]), List.map_cons]
      rfl

/-- None of the steps that are kept only batches. -/
theorem isBatching_of_mem_unbatched {steps : List Step} {s : Step} (h : s ∈ unbatched steps) :
    s.isBatching = false := by
  simpa using (List.mem_filter.1 h).2

end Step

/-- Nothing is held after steps that do not batch. -/
theorem pending_session_unbatched {σ : Type} (tr : Transport σ) (config : Config) (t : σ)
    (steps : List Step) :
    (Step.session tr (Step.unbatched steps) (Context.start config t)).state.pending = [] := by
  refine (Step.settled_session tr _ (Context.settled_start config t)).idle ?_
  rw [Step.depth_session tr fun _ => Step.isBatching_of_mem_unbatched]
  rfl

/-- **Batching is transparent.** Take any steps on a new context over the recording transport, and
the same steps without those that only batch. The steps in common have the same
results; the responder ends in the same state, and so do the constants; and the calls and messages
that were sent, followed by what is still held, are the same stream. Outside of chunks nothing is
held, and then the streams that were sent are the same. -/
theorem batching_transparent (answer : Message → ρ → Reply × ρ) (hlast : LooksAtLast answer)
    (config : Config) (r : ρ) (steps : List Step) :
    let batched := Step.session (Recording.transport answer) steps (Context.start config ⟨[], r⟩)
    let plain := Step.session (Recording.transport answer) (Step.unbatched steps)
      (Context.start config ⟨[], r⟩)
    Step.keptResults steps batched.results = plain.results ∧
      batched.state.transport.responder = plain.state.transport.responder ∧
      batched.state.constants = plain.state.constants ∧
      batched.state.transport.items ++ batched.state.pending.map .call =
        plain.state.transport.items ∧
      (batched.state.depth = 0 →
        batched.state.transport.items = plain.state.transport.items) := by
  intro batched plain
  -- both runs begin in one and the same context
  obtain ⟨hresults, houtlook⟩ := Step.session_unbatched hlast steps
    (c := Context.start config ⟨[], r⟩) (d := Context.start config ⟨[], r⟩) rfl
  have hnone : plain.state.pending = [] := pending_session_unbatched _ config _ steps
  have hstream : batched.state.transport.items ++ batched.state.pending.map .call =
      plain.state.transport.items := by
    refine (congrArg Outlook.stream houtlook).trans ?_
    change _ ++ List.map Item.call plain.state.pending = _
    rw [hnone, List.map_nil, List.append_nil]
  refine ⟨hresults, congrArg Outlook.responder houtlook, congrArg Outlook.constants houtlook,
    hstream, fun hdepth => ?_⟩
  -- at depth 0 the first run holds nothing either
  have hidle := (Step.settled_session (Recording.transport answer) steps
    (Context.settled_start config ⟨[], r⟩)).idle hdepth
  change batched.state.pending = [] at hidle
  rwa [hidle, List.map_nil, List.append_nil] at hstream

/-- The dry-run executor answers a query for its last instruction. -/
theorem DryRun.looksAtLast : LooksAtLast DryRun.reply := by
  intro is i e
  simp [DryRun.reply]

/-- A query in the middle of a chunk that is never closed. -/
theorem batching_transparent_dryRun :
    LooksAtLast DryRun.reply ∧
      let steps : List Step := [.operation (.primitive .beginChunk), .operation .createProgram,
        .operation (.primitive (.exec "flush" []))]
      (Step.session DryRun.transport steps (Context.start {} DryRun.start)).state.transport.items ++
          [.call (.exec "flush" [])] =
        (Step.session DryRun.transport (Step.unbatched steps)
          (Context.start {} DryRun.start)).state.transport.items :=
  ⟨DryRun.looksAtLast,
    (batching_transparent DryRun.reply DryRun.looksAtLast {} {} _).2.2.2.1⟩

end GlBridge
