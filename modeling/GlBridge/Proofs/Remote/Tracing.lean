import GlBridge.Proofs.Remote.Conduct
import GlBridge.Proofs.Remote.Delivery

/-!
# Tracing is observation only

A context that traces behaves as one that does not, apart from what it reports. There are
two halves to this.

* The traced run and the untraced run are compared by `Context.silencing`, which relates
  contexts that differ in the flag alone and shows all events but the trace. The parts of
  the two contexts match, hence everything done with them does.
* What the trace consists of is a conduct, `Context.recording`: a run reports one trace event
  for each piece that it adds to the ledger, in the order of the ledger, if the flag is set and
  none otherwise. The ledger has what is held as well as what was handed over, whatever came of it,
  and so the trace has it too.

Together they give `tracing_only_reports`.
-/

namespace GlBridge

variable {σ : Type}

/-- The context with tracing turned on or off. -/
def Context.withTrace (c : Context σ) (on : Bool) : Context σ :=
  { c with config := { c.config with trace := on } }

/-- The event by which a piece is traced. -/
def Item.event : Item → Event
  | .call ⟨.exec, op, _⟩ => .exec op
  | .call ⟨.query, op, _⟩ => .query op
  | .message m => .message m.kind

/-- The record by which a piece is traced: `exec` or `query` with the operation, or the kind of a
message. -/
def Item.record : Item → Log.Record
  | .call i => ⟨.debug, "jupytergl_remote::context", i.purpose.tag ++ " " ++ i.op⟩
  | .message m => ⟨.debug, "jupytergl_remote::context", m.kind.tag⟩

/-- The event of a piece is logged as its record. -/
theorem Item.record_event (i : Item) : i.event.record = i.record := by
  match i with
  | .call ⟨.exec, _, _⟩ => rfl
  | .call ⟨.query, _, _⟩ => rfl
  | .message _ => rfl

namespace Context

/-! ### With and without the trace -/

/-- A context with any flag and the same one without tracing, which agree in all events but
the trace. -/
def silencing : Correspondence (Context σ) (Context σ) where
  relates _ c d := d = c.withTrace false
  shows e := !e.isTrace

/-- A change that does not look at the flag is the same change in both contexts. -/
theorem modify_silencing {f : Context σ → Context σ}
    (h : ∀ c, f (c.withTrace false) = (f c).withTrace false) :
    silencing.Matches (Action.modify f : Remote σ Unit) (Action.modify f) := by
  refine Correspondence.matches_modify (fun _ _ => trivial) ?_
  rintro level c d rfl
  exact h c

/-- The trace is reported by one of the two at most, and is not shown. -/
theorem traced_silencing {e : Event} (he : e.isTrace = true) :
    silencing.Matches (traced e : Remote σ Unit) (traced e) := by
  refine Correspondence.matches_of_agree (fun _ => trivial) ?_
  rintro level c d rfl
  have hshows : ¬(silencing (σ := σ)).shows e = true := by
    show ¬(!e.isTrace) = true
    rw [he]
    exact Bool.false_ne_true
  rw [traced_apply, traced_apply]
  refine ⟨rfl, ?_, rfl⟩
  show (c.traceEvents e).filter _ = []
  unfold traceEvents
  cases c.config.trace with
  | false => rfl
  | true => exact List.filter_cons_of_neg hshows

/-- The parts of the two contexts match. -/
theorem silencing_parts (tr : Transport σ) : Parts silencing tr tr where
  flat _ _ _ _ h := h
  -- the flag is no part of what is read
  pending := by rintro level c d rfl; rfl
  depth := by rintro level c d rfl; rfl
  target := by rintro level c d rfl; rfl
  queue _ := modify_silencing fun _ => rfl
  stow _ := modify_silencing fun _ => rfl
  store _ := modify_silencing fun _ => rfl
  setDepth _ := modify_silencing fun _ => rfl
  takePending := by
    refine Correspondence.matches_of_agree (fun _ => trivial) ?_
    rintro level c d rfl
    exact ⟨rfl, rfl, rfl⟩
  traced _ := traced_silencing
  send m bs := by
    refine Correspondence.matches_of_agree (fun _ => trivial) ?_
    rintro level c d rfl
    exact ⟨rfl, rfl, rfl⟩
  request m bs := by
    refine Correspondence.matches_of_agree (fun _ => trivial) ?_
    rintro level c d rfl
    exact ⟨rfl, rfl, rfl⟩

/-- **A session is the same with and without the trace**, but for what it reports. -/
theorem session_silencing (tr : Transport σ) (steps : List Step) (c : Context σ) :
    silencing.AgreeThroughout 0 (Step.session tr steps c)
      (Step.session tr steps (c.withTrace false)) := by
  -- the flag is no matter of the level, so chunks match like all other steps
  have hstep : ∀ s ∈ steps, silencing.Matches (s.perform tr) (s.perform tr) :=
    fun s _ => (silencing_parts tr).primitives.step s fun _ => (silencing_parts tr).flat
  exact (Correspondence.session_matches hstep 0 trivial).2 rfl

/-! ### What the trace consists of -/

/-- A run keeps the settings, and its trace has one event for each piece that it adds to the
ledger. -/
def recording : Conduct (Context (Observed σ)) where
  allows c es d := d.config = c.config ∧ ∃ items : List Item,
    d.ledger = c.ledger ++ items ∧
      es.filter Event.isTrace = if c.config.trace then items.map Item.event else []
  rest c := ⟨rfl, [], (List.append_nil _).symm, by simp⟩
  trans := by
    rintro c d e es fs ⟨hconfig, items, hledger, htrace⟩ ⟨hconfig', items', hledger', htrace'⟩
    refine ⟨hconfig'.trans hconfig, items ++ items', ?_, ?_⟩
    · rw [hledger', hledger, List.append_assoc]
    · -- the flag is the same on both ways
      rw [List.filter_append, htrace, htrace', hconfig]
      cases c.config.trace with
      | false => rfl
      | true => exact List.map_append.symm

section

variable (tr : Transport σ) (c : Context σ)

/-- What is traced is a trace. -/
theorem traceEvents_trace {e : Event} (he : e.isTrace = true) :
    (c.traceEvents e).filter Event.isTrace = c.traceEvents e := by
  unfold traceEvents
  cases c.config.trace with
  | false => rfl
  | true => exact List.filter_cons_of_pos he

/-- A flush is no call. -/
theorem trace_flush : (flush tr c).events.filter Event.isTrace = [] := by
  by_cases h : c.pending = []
  · rw [flush_of_empty tr c h]
    rfl
  · rw [flush_of_held tr c h]
    rfl

/-- A call is traced once, and a flush behind it is not traced. -/
theorem trace_exec (op : String) (args : List Value) :
    (exec tr op args c).events.filter Event.isTrace = c.traceEvents (.exec op) := by
  by_cases h : c.depth = 0
  · rw [exec_of_outside tr c op args h, List.filter_append, trace_flush, List.append_nil]
    exact traceEvents_trace c rfl
  · rw [exec_of_inside tr c op args h]
    exact traceEvents_trace c rfl

/-- That constants were received is no part of the trace. -/
theorem trace_storingEvents (data : Except RemoteError (Dictionary Double)) :
    (storingEvents data).filter Event.isTrace = [] := by
  cases data <;> rfl

/-- What begins with a flush and is traced only if that succeeds. -/
theorem trace_afterFlush {α : Type} {x : Remote σ α} {m : Message}
    (herror : ∀ e, (flush tr c).result = .error e → (x c).events = (flush tr c).events)
    (hok : (flush tr c).result = .ok () → ∃ es, es.filter Event.isTrace = [] ∧
      (x c).events = (flush tr c).events ++ (c.traceEvents (.message m.kind) ++ es)) :
    (x c).events.filter Event.isTrace =
      if c.config.trace then (c.afterFlush tr m).map Item.event else [] := by
  unfold afterFlush
  cases h : (flush tr c).result with
  | error e =>
    -- the message was not issued, and it was not traced either
    rw [herror e h, trace_flush]
    cases c.config.trace <;> rfl
  | ok u =>
    obtain ⟨es, hes, hevents⟩ := hok h
    rw [hevents, List.filter_append, List.filter_append, trace_flush, hes, List.append_nil,
      traceEvents_trace c rfl]
    rfl

/-- Nor is the end of a chunk a call, also where no chunk is open. -/
theorem trace_endChunk : (endChunk tr c).events.filter Event.isTrace = [] := by
  match h : c.depth with
  | 0 => rw [endChunk_of_zero tr c h, List.filter_cons_of_neg Bool.false_ne_true, trace_flush]
  | 1 => rw [endChunk_of_one tr c h, trace_flush]
  | depth + 2 => rw [endChunk_of_more tr c h]; rfl

/-- **A primitive traces what it issues.** -/
theorem trace_primitive (p : Primitive) :
    (p.perform tr c).events.filter Event.isTrace =
      if c.config.trace then (p.issues tr c).map Item.event else [] := by
  have hnone : ([] : List Event) = if c.config.trace then [] else [] := by simp
  cases p with
  | exec op args =>
    rw [Primitive.perform, (Operation.answering_sameEffect _ _ c).2, trace_exec]
    rfl
  | execWithBuffer op args buffer =>
    rw [Primitive.perform, (Operation.answering_sameEffect _ _ c).2, execWithBuffer_apply,
      trace_exec]
    rfl
  | query op args =>
    rw [Primitive.perform, (Operation.answering_sameEffect _ _ c).2, query_apply,
      traceEvents_trace c rfl]
    rfl
  | flush =>
    rw [Primitive.perform, (Operation.answering_sameEffect _ _ c).2, trace_flush]
    exact hnone
  | fetchConstants =>
    -- this one and the next two begin with a flush, and are traced only if it succeeds
    rw [Primitive.perform, (Operation.answering_sameEffect _ _ c).2]
    refine trace_afterFlush tr c (fun e h => ?_) fun h => ?_
    · rw [fetchConstants_of_error tr c h]
    · rw [fetchConstants_of_ok tr c h]
      exact ⟨_, trace_storingEvents _, rfl⟩
  | fetchMethods =>
    rw [Primitive.perform, (Operation.answering_sameEffect _ _ c).2]
    refine trace_afterFlush tr c (fun e h => ?_) fun h => ?_
    · rw [fetchMethods_of_error tr c h]
    · rw [fetchMethods_of_ok tr c h]
      exact ⟨[], rfl, by rw [List.append_nil]; rfl⟩
  | orbitView args render =>
    rw [Primitive.perform, (Operation.answering_sameEffect _ _ c).2]
    refine trace_afterFlush tr c (fun e h => ?_) fun h => ?_
    · rw [orbitView_of_error tr c args render h]
    · rw [orbitView_of_ok tr c args render h]
      exact ⟨[], rfl, by rw [List.append_nil]; rfl⟩
  | beginChunk =>
    rw [Primitive.perform, (Operation.answering_sameEffect _ _ c).2]
    exact hnone
  | endChunk =>
    rw [Primitive.perform, (Operation.answering_sameEffect _ _ c).2, trace_endChunk]
    exact hnone

end

/-- The settings are never changed. -/
theorem config_parts (tr : Transport σ) (config : Config) :
    Parts (Correspondence.diagonal fun _ (c : Context σ) => c.config = config) tr tr where
  flat _ _ _ _ h := h
  pending := by rintro level c d ⟨rfl, -⟩; rfl
  depth := by rintro level c d ⟨rfl, -⟩; rfl
  target := by rintro level c d ⟨rfl, -⟩; rfl
  queue _ := Correspondence.matches_diagonal fun _ _ h => h
  stow _ := Correspondence.matches_diagonal fun _ _ h => h
  store _ := Correspondence.matches_diagonal fun _ _ h => h
  setDepth _ := Correspondence.matches_diagonal fun _ _ h => h
  takePending := Correspondence.matches_diagonal fun _ _ h => h
  traced e _ := Correspondence.matches_diagonal fun _ c h => by rwa [traced_apply]
  send _ _ := Correspondence.matches_diagonal fun _ _ h => h
  request _ _ := Correspondence.matches_diagonal fun _ _ h => h

/-- **Contexts record what they issue.** -/
theorem recording_governed (tr : Transport σ) : Governed recording tr.observed where
  primitives p c := by
    have hconfig := (config_parts tr.observed c.config).primitives.operation (.primitive p)
      fun _ => (config_parts tr.observed c.config).flat
    exact ⟨hconfig.keeps 0 rfl, p.issues tr.observed c, ledger_primitive tr c p,
      trace_primitive tr.observed c p⟩
  remarks c e he := by
    refine ⟨rfl, [], (List.append_nil _).symm, ?_⟩
    rw [List.filter_cons_of_neg (by rw [he]; exact Bool.false_ne_true)]
    cases c.config.trace <;> rfl

end Context

/-- Operations leave the same state as steps that are these operations. -/
theorem Step.state_session_operations (tr : Transport σ) (operations : List Operation)
    (c : Context σ) : (Step.session tr (operations.map .operation) c).state =
      (Operation.session tr operations c).state := by
  unfold Step.session Operation.session
  induction operations generalizing c with
  | nil => rfl
  | cons o rest ih =>
    rw [List.map_cons, List.map_cons, List.map_cons, Action.session_cons, Action.session_cons, ih,
      Step.state_operation]

/-! ### Main statement -/

/-- **Tracing is observation only.** Take any steps on any context, once with tracing and once
without, over the same transport. Then the two runs deliver the same, leave contexts that differ in
nothing but the flag, and up to each step hand over the same messages with the same buffers and
the same outcome. The traced run reports what the untraced one does, with the trace in between;
and the trace has one record for each call and each message that was issued, in their order,
be they handed over, held or failed. If the steps are single operations, these are the calls and
messages that the operations issue. -/
theorem tracing_only_reports (tr : Transport σ) (c : Context σ) (steps : List Step) :
    let run := fun on => Step.session tr steps (c.withTrace on)
    let handed := fun on steps =>
      (Step.session tr.observed steps (c.withTrace on).underObservation).state.transport.exchanges
    (run true).results = (run false).results ∧
      (run false).state = (run true).state.withTrace false ∧
      (∀ k, handed true (steps.take k) = handed false (steps.take k)) ∧
      (run true).events.filter (fun e => !e.isTrace) = (run false).events ∧
      ∃ issued : List Item,
        c.pending.map .call ++ issued =
          (handed true steps).flatMap Exchange.items ++ (run true).state.pending.map .call ∧
        ((run true).events.filter Event.isTrace).map Event.record = issued.map Item.record ∧
        ∀ operations, steps = operations.map .operation →
          issued = Operation.issued tr operations (c.withTrace true) := by
  intro run handed
  have hagree : Context.silencing.AgreeThroughout 0 (run true) (run false) :=
    Context.session_silencing tr steps (c.withTrace true)
  -- what the conduct says of a run with either flag; the events are those of the plain run
  -- the event of a piece is logged as its record
  have hrecording : ∀ on, ∃ items : List Item,
      (Step.session tr.observed steps (c.withTrace on).underObservation).state.ledger =
        c.pending.map .call ++ items ∧
      (run on).events.filter Event.isTrace = if on then items.map Item.event else [] := by
    intro on
    obtain ⟨-, items, hledger, htrace⟩ := (Context.recording_governed tr).session steps
      (c.withTrace on).underObservation
    rw [Step.events_observed] at htrace
    exact ⟨items, hledger, htrace⟩
  refine ⟨hagree.results, hagree.state, fun k => ?_, ?_, ?_⟩
  · -- observed contexts match as the plain ones do, and so do their transports
    have hobserved := Context.session_silencing tr.observed (steps.take k)
      (c.withTrace true).underObservation
    exact congrArg (fun d => d.transport.exchanges) hobserved.state.symm
  · -- the untraced run has no trace to be left out
    obtain ⟨items, -, hquiet⟩ := hrecording false
    have hall : (run false).events.filter (fun e => !e.isTrace) = (run false).events := by
      rw [List.filter_eq_self]
      intro e he
      have hnot : e ∉ (run false).events.filter Event.isTrace := by
        rw [hquiet]
        exact List.not_mem_nil
      simpa [he] using hnot
    exact hagree.events.trans hall
  · obtain ⟨items, hledger, htrace⟩ := hrecording true
    refine ⟨items, ?_, ?_, ?_⟩
    · -- as much is held with and without observation
      have hstate : (run true).state = _ :=
        (Step.session_observed tr steps (c.withTrace true).underObservation).2
      rw [hstate]
      exact hledger.symm
    · have hrecord : Event.record ∘ Item.event = Item.record := funext Item.record_event
      rw [htrace, if_pos rfl, List.map_map, hrecord]
    · -- the ledger has grown by what was issued, and by nothing else
      rintro operations rfl
      have hissued := Context.ledger_session tr (c.withTrace true).underObservation operations
      rw [← Step.state_session_operations, hledger, Operation.issued_observed] at hissued
      exact List.append_cancel_left hissued

end GlBridge
