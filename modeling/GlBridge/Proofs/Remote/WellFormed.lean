import GlBridge.Proofs.Remote.Observed
import GlBridge.Remote.DryRun

/-!
# Well-formed messages

What a context hands to its transport is well formed, whatever the transport makes of it
(`Exchange.WellFormed`): a message of calls is never empty, a query has its one call for a value
at the end, and each message goes the way of its kind, with a reply or without. An executor
replies to requests only, so it is as important that each operation makes the requests it
should and no others (`Operation.asks`). The main statement is `messages_wellFormed`.

The invariant behind it is that only calls for their effect are held (`Context.Orderly`). What the
primitives do from there on is said for each of them by `Context.Leads`, which has both
the messages and the requests among them.
-/

namespace GlBridge

variable {σ : Type}

/-- The message is well formed and goes the way of its kind. -/
inductive Exchange.WellFormed : Exchange → Prop
  | exec {calls : List Instruction} (buffers : List Bytes) (result : Except RemoteError Unit)
      (some_call : calls ≠ []) (all_exec : ∀ i ∈ calls, i.purpose = .exec) :
      WellFormed (.send ⟨.exec calls, buffers⟩ result)
  | query {held : List Instruction} {last : Instruction} (buffers : List Bytes)
      (result : Except RemoteError Reply) (held_exec : ∀ i ∈ held, i.purpose = .exec)
      (last_query : last.purpose = .query) :
      WellFormed (.request ⟨.query (held ++ [last]), buffers⟩ result)
  | getConstants (target : String) (buffers : List Bytes) (result : Except RemoteError Reply) :
      WellFormed (.request ⟨.getConstants target, buffers⟩ result)
  | getMethods (target : String) (buffers : List Bytes) (result : Except RemoteError Reply) :
      WellFormed (.request ⟨.getMethods target, buffers⟩ result)
  | command (command : Command) (buffers : List Bytes) (result : Except RemoteError Unit) :
      WellFormed (.send ⟨.command command, buffers⟩ result)

/-- The message of a request. -/
def Exchange.asked : Exchange → List Message
  | .send _ _ => []
  | .request s _ => [s.message]

/-! ### What operations ask -/

/-- A message that is sent only if the calls held before it could be. -/
def Context.onceFlushed (tr : Transport σ) (c : Context σ) (m : Message) : List Message :=
  match (flush tr c).result with
  | .ok () => [m]
  | .error _ => []

/-- The requests that a primitive makes. -/
def Primitive.asks (tr : Transport σ) (c : Context σ) : Primitive → List Message
  | .query op args => [.query (c.pending ++ [.query op args])]
  | .fetchConstants => c.onceFlushed tr (.getConstants c.config.target)
  | .fetchMethods => c.onceFlushed tr (.getMethods c.config.target)
  | .exec _ _ | .execWithBuffer _ _ _ | .flush | .orbitView _ _ | .beginChunk | .endChunk => []

/-- The requests that an operation makes: none if its argument is refused. -/
def Operation.asks (tr : Transport σ) (c : Context σ) (o : Operation) : List Message :=
  match o.primitive? with
  | .ok p => p.asks tr c
  | .error _ => []

namespace Context

/-- Only calls for their effect are held. -/
def Orderly (c : Context σ) : Prop := ∀ i ∈ c.pending, i.purpose = .exec

/-- From `c` to `d` the transport was handed well-formed messages, and the requests among them
were those `asked`. The context is orderly again. -/
structure Leads (c d : Context (Observed σ)) (asked : List Message) : Prop where
  orderly : d.Orderly
  handed : ∃ xs, d.transport.exchanges = c.transport.exchanges ++ xs ∧
    (∀ x ∈ xs, x.WellFormed) ∧ xs.flatMap Exchange.asked = asked

/-! ### How primitives lead on -/

/-- Where nothing is held, no query is. -/
theorem orderly_of_pending_eq_nil {c : Context σ} (h : c.pending = []) : c.Orderly := by
  intro i hi
  rw [h] at hi
  cases hi

/-- A call for its effect may be queued. -/
theorem Orderly.queued {c : Context σ} (h : c.Orderly) (op : String) (args : List Value) :
    (c.queued (.exec op args)).Orderly := by
  intro i hi
  obtain hi | hi := List.mem_append.mp hi
  · exact h i hi
  · rw [List.mem_singleton.mp hi]
    rfl

variable {c d e : Context (Observed σ)}

/-- Where the transport is not used, nothing is handed over and nothing is asked. -/
theorem leads_of_unchanged (h : d.Orderly)
    (ht : d.transport.exchanges = c.transport.exchanges) : c.Leads d [] :=
  ⟨h, [], by rw [ht, List.append_nil], List.forall_mem_nil _, rfl⟩

/-- An exchange of the context leads on. -/
theorem leads_withTransport (h : c.Orderly) {x : Exchange} (hx : x.WellFormed) (t : σ) :
    c.Leads (c.withTransport ⟨t, c.transport.exchanges ++ [x]⟩) x.asked :=
  ⟨h, [x], rfl, List.forall_mem_singleton.mpr hx, List.flatMap_singleton _ _⟩

/-- So does an exchange that takes the queue along. -/
theorem leads_emptied {x : Exchange} (hx : x.WellFormed) (t : σ) :
    c.Leads (c.emptied ⟨t, c.transport.exchanges ++ [x]⟩) x.asked :=
  ⟨orderly_of_pending_eq_nil rfl, [x], rfl, List.forall_mem_singleton.mpr hx,
    List.flatMap_singleton _ _⟩

/-- What is handed over on two ways one after the other is handed over on both together. -/
theorem Leads.trans {asked asked' : List Message} (h : c.Leads d asked) (h' : d.Leads e asked') :
    c.Leads e (asked ++ asked') := by
  obtain ⟨xs, ht, hxs, hasked⟩ := h.handed
  obtain ⟨ys, ht', hys, hasked'⟩ := h'.handed
  refine ⟨h'.orderly, xs ++ ys, ?_, ?_, ?_⟩
  · rw [ht', ht, List.append_assoc]
  · exact List.forall_mem_append.mpr ⟨hxs, hys⟩
  · rw [List.flatMap_append, hasked, hasked']

variable (tr : Transport σ)

/-- A flush makes a message of the held calls, if there are any. -/
theorem Orderly.flush (h : c.Orderly) : c.Leads (flush tr.observed c).state [] := by
  by_cases hp : c.pending = []
  · rw [flush_of_empty _ c hp]
    exact leads_of_unchanged h rfl
  · rw [flush_of_held _ c hp]
    exact leads_emptied (.exec c.buffers _ hp h) _

/-- A call for its effect asks for nothing, whether it is sent or held. -/
theorem Orderly.exec (h : c.Orderly) (op : String) (args : List Value) :
    c.Leads (exec tr.observed op args c).state [] := by
  have hqueued : c.Leads (c.queued (.exec op args)) [] := leads_of_unchanged (h.queued op args) rfl
  by_cases hdepth : c.depth = 0
  · rw [exec_of_outside _ c op args hdepth]
    exact hqueued.trans (hqueued.orderly.flush tr)
  · rw [exec_of_inside _ c op args hdepth]
    exact hqueued

/-- A query comes last in its message. -/
theorem Orderly.query (h : c.Orderly) (op : String) (args : List Value) :
    c.Leads (query tr.observed op args c).state
      [.query (c.pending ++ [Instruction.query op args])] := by
  rw [query_apply]
  exact leads_emptied (.query c.buffers _ h rfl) _

/-- What begins with a flush and, only if that succeeds, goes on to ask for something. -/
theorem Orderly.onceFlushed (h : c.Orderly) {α : Type} {x : Remote (Observed σ) α} {m : Message}
    (herror : ∀ e, (Context.flush tr.observed c).result = .error e →
      (x c).state = (Context.flush tr.observed c).state)
    (hok : (Context.flush tr.observed c).result = .ok () →
      (Context.flush tr.observed c).state.Leads (x c).state [m]) :
    c.Leads (x c).state (c.onceFlushed tr.observed m) := by
  have hflush := h.flush tr
  unfold Context.onceFlushed
  cases hr : (Context.flush tr.observed c).result with
  | error e =>
    rw [herror e hr]
    exact hflush
  | ok u => exact hflush.trans (hok hr)

/-- Keeping constants hands over nothing. -/
theorem Leads.storing {asked : List Message} (h : c.Leads d asked)
    (data : Except RemoteError (Dictionary Double)) : c.Leads (d.storing data) asked := by
  cases data with
  | error e => exact h
  | ok constants => exact ⟨h.orderly, h.handed⟩

/-- The constants are asked for once, behind a flush. -/
theorem Orderly.fetchConstants (h : c.Orderly) :
    c.Leads (fetchConstants tr.observed c).state
      (c.onceFlushed tr.observed (.getConstants c.config.target)) := by
  refine h.onceFlushed tr (fun e hr => ?_) fun hr => ?_
  · rw [fetchConstants_of_error _ c hr]
  · rw [fetchConstants_of_ok _ c hr]
    have hflush := (h.flush tr).orderly
    exact (leads_withTransport hflush (.getConstants c.config.target [] _) _).storing _

/-- The methods are asked for once, behind a flush. -/
theorem Orderly.fetchMethods (h : c.Orderly) :
    c.Leads (fetchMethods tr.observed c).state
      (c.onceFlushed tr.observed (.getMethods c.config.target)) := by
  refine h.onceFlushed tr (fun e hr => ?_) fun hr => ?_
  · rw [fetchMethods_of_error _ c hr]
  · rw [fetchMethods_of_ok _ c hr]
    exact leads_withTransport (h.flush tr).orderly (.getMethods c.config.target [] _) _

/-- A command has no reply, so it is sent. -/
theorem Orderly.orbitView (h : c.Orderly) (args : List Value) (render : List Instruction) :
    c.Leads (orbitView tr.observed args render c).state [] := by
  have hflush := h.flush tr
  cases hr : (Context.flush tr.observed c).result with
  | error e => rwa [orbitView_of_error _ c args render hr]
  | ok u =>
    rw [orbitView_of_ok _ c args render hr]
    exact hflush.trans
      (leads_withTransport hflush.orderly (.command ⟨"orbitView", args, render⟩ [] _) _)

/-- The end of a chunk sends what is held, and asks for nothing. -/
theorem Orderly.endChunk (h : c.Orderly) : c.Leads (endChunk tr.observed c).state [] := by
  match hdepth : c.depth with
  | 0 =>
    rw [endChunk_of_zero _ c hdepth]
    exact h.flush tr
  | 1 =>
    -- the flush sees the context at its new depth, which holds the same
    rw [endChunk_of_one _ c hdepth]
    have hclosed : c.Leads { c with depth := 0 } [] := leads_of_unchanged h rfl
    exact hclosed.trans (hclosed.orderly.flush tr)
  | depth + 2 =>
    -- an inner end counts down, and that is all
    rw [endChunk_of_more _ c hdepth]
    exact leads_of_unchanged h rfl

/-! ### How operations lead on -/

/-- **A primitive leads on** with the requests it should make. -/
theorem Orderly.primitive (h : c.Orderly) (p : Primitive) :
    c.Leads (p.perform tr.observed c).state (p.asks tr.observed c) := by
  cases p with
  | exec op args => rw [Primitive.perform, state_answering]; exact h.exec tr op args
  | execWithBuffer op args buffer =>
    rw [Primitive.perform, state_answering, execWithBuffer_apply]
    -- the buffer does not concern the calls
    have hbuffer : c.Leads (c.withBuffer buffer) [] := leads_of_unchanged h rfl
    exact hbuffer.trans (hbuffer.orderly.exec tr op args)
  | query op args => rw [Primitive.perform, state_answering]; exact h.query tr op args
  | flush => rw [Primitive.perform, state_answering]; exact h.flush tr
  | fetchConstants => rw [Primitive.perform, state_answering]; exact h.fetchConstants tr
  | fetchMethods => rw [Primitive.perform, state_answering]; exact h.fetchMethods tr
  | orbitView args render =>
    rw [Primitive.perform, state_answering]
    exact h.orbitView tr args render
  | beginChunk => rw [Primitive.perform, state_answering]; exact leads_of_unchanged h rfl
  | endChunk => rw [Primitive.perform, state_answering]; exact h.endChunk tr

/-- **An operation leads on** with the requests it should make, whether it succeeds or fails. -/
theorem Orderly.operation (h : c.Orderly) (o : Operation) :
    c.Leads (o.perform tr.observed c).state (o.asks tr.observed c) := by
  unfold Operation.asks
  cases ho : o.primitive? with
  | error v =>
    rw [Operation.perform_of_error _ ho]
    exact leads_of_unchanged h rfl
  | ok p =>
    rw [(Operation.perform_of_ok _ ho c).1]
    exact h.primitive tr p

/-- The requests do not depend on the observation. -/
theorem onceFlushed_observed (m : Message) :
    c.onceFlushed tr.observed m = c.unobserved.onceFlushed tr m := by
  obtain ⟨-, hagree⟩ := tr.observed_matches.lift.flush 0 c c.unobserved trivial
  unfold onceFlushed
  rw [(hagree ⟨_, rfl, rfl⟩).result]

end Context

/-- What an operation asks for does not depend on the observation. -/
theorem Operation.asks_observed (tr : Transport σ) (c : Context (Observed σ)) (o : Operation) :
    o.asks tr.observed c = o.asks tr c.unobserved := by
  unfold Operation.asks
  cases o.primitive? with
  | error v => rfl
  | ok p =>
    cases p with
    | fetchConstants => exact Context.onceFlushed_observed tr _
    | fetchMethods => exact Context.onceFlushed_observed tr _
    | _ => rfl

/-! ### Runs -/

namespace Context

/-- Everything that was handed over is well formed, and the rest will be. -/
structure Tidy (c : Context (Observed σ)) : Prop where
  orderly : c.Orderly
  wellFormed : ∀ x ∈ c.transport.exchanges, x.WellFormed

/-- What leads on from a tidy context leads to a tidy one. -/
theorem Tidy.leads {c d : Context (Observed σ)} {asked : List Message} (h : c.Tidy)
    (hd : c.Leads d asked) : d.Tidy := by
  obtain ⟨xs, ht, hxs, -⟩ := hd.handed
  refine ⟨hd.orderly, ?_⟩
  rw [ht]
  exact List.forall_mem_append.mpr ⟨h.wellFormed, hxs⟩

/-- Nothing was handed over at the start. -/
theorem tidy_start (config : Config) (t : σ) : (start config t).underObservation.Tidy :=
  ⟨orderly_of_pending_eq_nil rfl, List.forall_mem_nil _⟩

/-- **Contexts stay tidy.** -/
theorem tidy_matches (tr : Transport σ) :
    Context.Matches (Correspondence.diagonal fun _ c => c.Tidy) tr.observed tr.observed where
  exec op args := Correspondence.matches_diagonal fun _ _ h => h.leads (h.orderly.exec tr op args)
  execWithBuffer op args buffer := Correspondence.matches_diagonal fun _ c h =>
    have hbuffer : (c.withBuffer buffer).Tidy := ⟨h.orderly, h.wellFormed⟩
    hbuffer.leads (hbuffer.orderly.exec tr op args)
  query op args := Correspondence.matches_diagonal fun _ _ h => h.leads (h.orderly.query tr op args)
  flush := Correspondence.matches_diagonal fun _ _ h => h.leads (h.orderly.flush tr)
  fetchConstants := Correspondence.matches_diagonal fun _ _ h =>
    h.leads (h.orderly.fetchConstants tr)
  fetchMethods := Correspondence.matches_diagonal fun _ _ h => h.leads (h.orderly.fetchMethods tr)
  orbitView args render := Correspondence.matches_diagonal fun _ _ h =>
    h.leads (h.orderly.orbitView tr args render)
  beginChunk _ _ _ := Correspondence.matchesFrom_diagonal fun h => ⟨h.orderly, h.wellFormed⟩
  endChunk _ _ _ := Correspondence.matchesFrom_diagonal fun h => h.leads (h.orderly.endChunk tr)

end Context

/-! ### Replies -/

/-- A dry-run executor has an answer to every well-formed message. -/
theorem DryRun.reply_of_wellFormed {x : Exchange} (h : x.WellFormed) (e : DryRun) (text : String) :
    (DryRun.reply x.sent.message e).1 ≠ .queryError text := by
  cases h with
  | query buffers result held_exec last_query =>
    -- there is a last call, and so a value for it
    rw [Exchange.sent, DryRun.reply]
    simp only [List.getLast?_concat]
    exact Reply.noConfusion
  | exec | getConstants | getMethods | command => exact Reply.noConfusion

/-- The reply, if there is one, is one that `answer` gives to the message. -/
def Exchange.AnsweredBy {ρ : Type} (answer : Message → ρ → Reply × ρ) (x : Exchange) : Prop :=
  ∀ reply, x.reply? = some reply → ∃ e, reply = (answer x.sent.message e).1

/-- Over a recording transport every reply is the responder's. -/
theorem Recording.answeredBy_session {ρ : Type} (answer : Message → ρ → Reply × ρ)
    (steps : List Step) {c : Context (Observed (Recording ρ))}
    (h : ∀ x ∈ c.transport.exchanges, x.AnsweredBy answer) :
    ∀ x ∈ (Step.session (transport answer).observed steps c).state.transport.exchanges,
      x.AnsweredBy answer := by
  refine Step.session_keeps_transport
    (P := fun o : Observed (Recording ρ) => ∀ x ∈ o.exchanges, x.AnsweredBy answer) ?_ ?_ steps h
  · intro m bs o ho
    refine List.forall_mem_append.mpr ⟨ho, List.forall_mem_singleton.mpr ?_⟩
    -- what is sent has no reply
    intro reply hreply
    cases hreply
  · intro m bs o ho
    refine List.forall_mem_append.mpr ⟨ho, List.forall_mem_singleton.mpr ?_⟩
    intro reply hreply
    exact ⟨o.inner.responder, (Option.some.inj hreply).symm⟩

/-! ### Main statement -/

/-- **Every message is well formed.** Take any steps over any transport, and let each succeed or
fail. Then every message that the transport was handed is well formed and went the way of
its kind; whatever operation comes next makes the requests it should and no others; and a dry-run
executor answers none of these messages with an error, be it asked about them or be it the
executor behind the context. -/
theorem messages_wellFormed (tr : Transport σ) (config : Config) (t : σ) (steps : List Step) :
    (∀ x ∈ (Step.session tr.observed steps
        (Context.start config t).underObservation).state.transport.exchanges,
      x.WellFormed ∧ ∀ (e : DryRun) (text : String),
        (DryRun.reply x.sent.message e).1 ≠ .queryError text) ∧
    (let c := (Step.session tr steps (Context.start config t)).state
      ∀ o : Operation,
        (o.perform tr.observed c.underObservation).state.transport.exchanges.flatMap
          Exchange.asked = o.asks tr c) ∧
    (∀ (r : Recording DryRun), ∀ x ∈ (Step.session DryRun.transport.observed steps
        (Context.start config r).underObservation).state.transport.exchanges,
      ∀ text : String, x.reply? ≠ some (.queryError text)) := by
  have htidy : ∀ {τ : Type} (tr : Transport τ) (t : τ),
      (Step.session tr.observed steps (Context.start config t).underObservation).state.Tidy :=
    fun tr t => (Context.tidy_matches tr).session_keeps steps (Context.tidy_start config t)
  refine ⟨?_, ?_, ?_⟩
  · intro x hx
    have hwf := (htidy tr t).wellFormed x hx
    exact ⟨hwf, DryRun.reply_of_wellFormed hwf⟩
  · intro c o
    -- what is held here is what the observed context holds, where the invariant is about
    have hstate : c = (Step.session tr.observed steps
        (Context.start config t).underObservation).state.unobserved :=
      (Step.session_observed tr steps (Context.start config t).underObservation).2
    have horderly : c.underObservation.Orderly := by
      rw [hstate]
      exact (htidy tr t).orderly
    obtain ⟨xs, hexchanges, -, hasked⟩ := (horderly.operation tr o).handed
    rw [hexchanges]
    exact hasked.trans (Operation.asks_observed tr _ o)
  · intro r x hx text hreply
    have hwf := (htidy DryRun.transport r).wellFormed x hx
    -- the reply in the record is the one that the executor gave to the message
    have hanswered := Recording.answeredBy_session DryRun.reply steps (List.forall_mem_nil _) x hx
    obtain ⟨e, he⟩ := hanswered _ hreply
    exact DryRun.reply_of_wellFormed hwf e text he.symm

end GlBridge
