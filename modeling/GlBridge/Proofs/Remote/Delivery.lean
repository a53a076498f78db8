import GlBridge.Proofs.Remote.Observed

/-!
# Nothing is lost, repeated or reordered

Calls reach the transport on three ways: at once, held back in a chunk, and in front of
a query. Whatever the way, and whatever the transport makes of it, the calls and
messages that the operations of a context issue are handed over in the order of the operations and
each once, save for those that are still held: `delivered_append_pending`.

The invariant behind it is the `Context.ledger`: what was handed over, followed by what is held.
An operation adds to its end what it issues (`ledger_operation`). Flushing moves the held calls
from one part of the ledger to the other, and so the ledger stays the same.
-/

namespace GlBridge

variable {σ : Type}

/-- The pieces of which a message is made: single calls, or the message as a whole. -/
inductive Item where
  | call (i : Instruction)
  | message (m : Message)

/-- A list of calls counts as its calls, any other message as one piece. -/
def Message.items : Message → List Item
  | .exec is => is.map .call
  | .query is => is.map .call
  | .getConstants target => [.message (.getConstants target)]
  | .getMethods target => [.message (.getMethods target)]
  | .command c => [.message (.command c)]

/-- The calls of a message. -/
def Message.calls : Message → List Instruction
  | .exec is => is
  | .query is => is
  | _ => []

/-- The pieces that a transport was handed, in order and whatever came of it. -/
def Exchange.items (x : Exchange) : List Item := x.sent.message.items

/-! ### What operations issue -/

namespace Context

/-- A message that leaves only when the calls held before it could be sent. -/
def afterFlush (tr : Transport σ) (c : Context σ) (m : Message) : List Item :=
  match (flush tr c).result with
  | .ok () => [.message m]
  | .error _ => []

end Context

/-- What a primitive issues. -/
def Primitive.issues (tr : Transport σ) (c : Context σ) : Primitive → List Item
  | .exec op args => [.call (.exec op args)]
  | .execWithBuffer op args _ => [.call (.exec op args)]
  | .query op args => [.call (.query op args)]
  | .fetchConstants => c.afterFlush tr (.getConstants c.config.target)
  | .fetchMethods => c.afterFlush tr (.getMethods c.config.target)
  | .orbitView args render => c.afterFlush tr (.command ⟨"orbitView", args, render⟩)
  | .flush | .beginChunk | .endChunk => []

namespace Operation

/-- What an operation issues: nothing if its argument is refused. -/
def issues (tr : Transport σ) (c : Context σ) (o : Operation) : List Item :=
  match o.primitive? with
  | .ok p => p.issues tr c
  | .error _ => []

/-- What operations issue that are carried out one after the other. -/
def issued (tr : Transport σ) : List Operation → Context σ → List Item
  | [], _ => []
  | o :: rest, c => o.issues tr c ++ issued tr rest (o.perform tr c).state

end Operation

/-! ### The ledger -/

namespace Context

/-- Everything that was handed to the transport, and then everything that is held. -/
def ledger (c : Context (Observed σ)) : List Item :=
  c.transport.exchanges.flatMap Exchange.items ++ c.pending.map .call

variable (tr : Transport σ) (c : Context (Observed σ))

/-- A call that is queued stands at the end of the ledger. -/
theorem ledger_queued (i : Instruction) : (c.queued i).ledger = c.ledger ++ [.call i] := by
  unfold ledger queued
  rw [List.map_append, ← List.append_assoc]
  rfl

/-- If nothing is held, a message that is handed over stands at the end of the ledger. -/
theorem ledger_exchanged (t : σ) (x : Exchange) (h : c.pending = []) :
    (c.withTransport ⟨t, c.transport.exchanges ++ [x]⟩).ledger = c.ledger ++ x.items := by
  unfold ledger withTransport
  rw [h, List.map_nil, List.append_nil, List.append_nil, List.flatMap_append,
    List.flatMap_singleton]

/-- The ledger after an exchange that took the queue along. -/
theorem ledger_emptied (t : σ) (x : Exchange) :
    (c.emptied ⟨t, c.transport.exchanges ++ [x]⟩).ledger =
      c.transport.exchanges.flatMap Exchange.items ++ x.items := by
  unfold ledger emptied
  rw [List.map_nil, List.append_nil, List.flatMap_append, List.flatMap_singleton]

/-- **Flushing leaves the ledger as it is**: the held calls only change their place. -/
theorem ledger_flush : (flush tr.observed c).state.ledger = c.ledger := by
  by_cases h : c.pending = []
  · rw [flush_of_empty _ c h]
  · -- the message is made of the very calls that leave the queue, whatever comes of it
    rw [flush_of_held _ c h]
    exact ledger_emptied c _ _

/-- A call is added to the ledger, whether it is sent at once or held. -/
theorem ledger_exec (op : String) (args : List Value) :
    (exec tr.observed op args c).state.ledger = c.ledger ++ [.call (.exec op args)] := by
  by_cases h : c.depth = 0
  · rw [exec_of_outside _ c op args h, ledger_flush, ledger_queued]
  · rw [exec_of_inside _ c op args h, ledger_queued]

/-- A query is handed over behind the calls that are held. -/
theorem ledger_query (op : String) (args : List Value) :
    (query tr.observed op args c).state.ledger = c.ledger ++ [.call (.query op args)] := by
  rw [query_apply, Transport.observed_request, ledger_emptied]
  simp only [Exchange.items, Exchange.sent, Message.items, ledger, List.map_append,
    List.map_cons, List.map_nil, List.append_assoc]

/-- What follows a flush: nothing if the flush failed, or else one more exchange. -/
theorem ledger_afterFlush {α : Type} {x : Remote (Observed σ) α} {m : Message}
    (herror : ∀ e, (flush tr.observed c).result = .error e →
      (x c).state = (flush tr.observed c).state)
    (hok : (flush tr.observed c).result = .ok () →
      ∃ (t : σ) (ex : Exchange), ex.items = [.message m] ∧
        (x c).state.ledger = ((flush tr.observed c).state.withTransport
          ⟨t, (flush tr.observed c).state.transport.exchanges ++ [ex]⟩).ledger) :
    (x c).state.ledger = c.ledger ++ c.afterFlush tr.observed m := by
  unfold afterFlush
  cases h : (flush tr.observed c).result with
  | error e => rw [herror e h, ledger_flush, List.append_nil]
  | ok u =>
    -- nothing is held behind a flush, so the exchange comes last in the ledger
    obtain ⟨t, ex, hitems, hstate⟩ := hok h
    rw [hstate, ledger_exchanged _ _ _ (pending_flush _ c), ledger_flush, hitems]

theorem ledger_storing (data : Except RemoteError (Dictionary Double)) :
    (c.storing data).ledger = c.ledger := by
  cases data <;> rfl

/-- The question for the constants is added, if the flush before it succeeds. -/
theorem ledger_fetchConstants :
    (fetchConstants tr.observed c).state.ledger =
      c.ledger ++ c.afterFlush tr.observed (.getConstants c.config.target) := by
  refine ledger_afterFlush tr c (fun e h => ?_) fun h => ?_
  · rw [fetchConstants_of_error _ c h]
  · rw [fetchConstants_of_ok _ c h]
    exact ⟨_, _, rfl, ledger_storing _ _⟩

/-- The question for the methods is added, if the flush before it succeeds. -/
theorem ledger_fetchMethods :
    (fetchMethods tr.observed c).state.ledger =
      c.ledger ++ c.afterFlush tr.observed (.getMethods c.config.target) := by
  refine ledger_afterFlush tr c (fun e h => ?_) fun h => ?_
  · rw [fetchMethods_of_error _ c h]
  · rw [fetchMethods_of_ok _ c h]
    exact ⟨_, _, rfl, rfl⟩

/-- The command is added, if the flush before it succeeds. -/
theorem ledger_orbitView (args : List Value) (render : List Instruction) :
    (orbitView tr.observed args render c).state.ledger =
      c.ledger ++ c.afterFlush tr.observed (.command ⟨"orbitView", args, render⟩) := by
  refine ledger_afterFlush tr c (fun e h => ?_) fun h => ?_
  · rw [orbitView_of_error _ c args render h]
  · rw [orbitView_of_ok _ c args render h]
    exact ⟨_, _, rfl, rfl⟩

/-- The end of a chunk adds nothing, whether or not it sends what is held. -/
theorem ledger_endChunk : (endChunk tr.observed c).state.ledger = c.ledger := by
  match h : c.depth with
  | 0 => rw [endChunk_of_zero _ c h, ledger_flush]
  | 1 => rw [endChunk_of_one _ c h, ledger_flush]; rfl
  | depth + 2 => rw [endChunk_of_more _ c h]; rfl

/-! ### Steps and runs -/

theorem ledger_answering {α : Type} (f : α → Answer) (x : Remote (Observed σ) α) :
    (answering f x c).state.ledger = (x c).state.ledger :=
  congrArg ledger (state_answering f x c)

/-- **A primitive adds to the ledger what it issues.** -/
theorem ledger_primitive (p : Primitive) :
    (p.perform tr.observed c).state.ledger = c.ledger ++ p.issues tr.observed c := by
  cases p with
  | exec op args => rw [Primitive.perform, ledger_answering, ledger_exec, Primitive.issues]
  | execWithBuffer op args buffer =>
    -- the buffer is no part of the ledger
    rw [Primitive.perform, ledger_answering, execWithBuffer_apply, ledger_exec, Primitive.issues]
    rfl
  | query op args => rw [Primitive.perform, ledger_answering, ledger_query, Primitive.issues]
  | fetchConstants =>
    rw [Primitive.perform, ledger_answering, ledger_fetchConstants, Primitive.issues]
  | fetchMethods =>
    rw [Primitive.perform, ledger_answering, ledger_fetchMethods, Primitive.issues]
  | orbitView args render =>
    rw [Primitive.perform, ledger_answering, ledger_orbitView, Primitive.issues]
  -- the last three issue nothing
  | flush =>
    rw [Primitive.perform, ledger_answering, ledger_flush, Primitive.issues, List.append_nil]
  | beginChunk =>
    rw [Primitive.perform, ledger_answering, Primitive.issues, List.append_nil]
    rfl
  | endChunk =>
    rw [Primitive.perform, ledger_answering, ledger_endChunk, Primitive.issues, List.append_nil]

/-- **An operation adds to the ledger what it issues**, whether it succeeds or fails. -/
theorem ledger_operation (o : Operation) :
    (o.perform tr.observed c).state.ledger = c.ledger ++ o.issues tr.observed c := by
  unfold Operation.issues
  cases h : o.primitive? with
  | error v =>
    -- a refused operation does not touch the context
    rw [Operation.perform_of_error _ h, List.append_nil]
  | ok p => rw [(Operation.perform_of_ok _ h c).1, ledger_primitive]

/-- **A run adds to the ledger what its operations issue**, in their order. -/
theorem ledger_session (operations : List Operation) :
    (Operation.session tr.observed operations c).state.ledger =
      c.ledger ++ Operation.issued tr.observed operations c := by
  unfold Operation.session
  -- each operation issues in the context that those before it left
  induction operations generalizing c with
  | nil => exact (List.append_nil _).symm
  | cons o rest ih =>
    rw [List.map_cons, Action.session_cons, ih, ledger_operation, List.append_assoc]
    rfl

end Context

/-! ### Delivery -/

/-- Flushing succeeds under observation as it does without. -/
theorem Context.afterFlush_observed (tr : Transport σ) (c : Context (Observed σ)) (m : Message) :
    c.afterFlush tr.observed m = c.unobserved.afterFlush tr m := by
  obtain ⟨-, hagree⟩ := tr.observed_matches.lift.flush 0 c c.unobserved trivial
  rw [afterFlush, afterFlush, (hagree ⟨_, rfl, rfl⟩).result]

/-- What an operation issues does not depend on whether the transport is observed. -/
theorem Operation.issues_observed (tr : Transport σ) (c : Context (Observed σ)) (o : Operation) :
    o.issues tr.observed c = o.issues tr c.unobserved := by
  unfold Operation.issues
  cases o.primitive? with
  | error v => rfl
  | ok p =>
    cases p with
    | fetchConstants => exact Context.afterFlush_observed tr c _
    | fetchMethods => exact Context.afterFlush_observed tr c _
    | orbitView args render => exact Context.afterFlush_observed tr c _
    | _ => rfl

/-- What operations issue in a run does not depend on it either. -/
theorem Operation.issued_observed (tr : Transport σ) (operations : List Operation)
    (c : Context (Observed σ)) :
    Operation.issued tr.observed operations c = Operation.issued tr operations c.unobserved := by
  induction operations generalizing c with
  | nil => rfl
  | cons o rest ih =>
    -- after `o` the plain context is the observed one without its observation
    obtain ⟨-, hagree⟩ := tr.observed_matches.operation o 0 c c.unobserved trivial
    obtain ⟨t, ht, hstate⟩ := (hagree ⟨_, rfl, rfl⟩).state
    rw [Operation.issued, Operation.issued, issues_observed, ih, hstate, ← ht]
    rfl

/-- **No loss, no duplication, no reordering.** Take any operations on a new context, over any
transport, and let each succeed or fail. What the transport was handed, taken apart and followed by
what is still held, is what the operations issued, in their order and each piece once. -/
theorem delivered_append_pending (tr : Transport σ) (config : Config) (t : σ)
    (operations : List Operation) :
    (Operation.session tr.observed operations
        (Context.start config t).underObservation).state.transport.exchanges.flatMap
          Exchange.items ++
      (Operation.session tr operations (Context.start config t)).state.pending.map .call =
      Operation.issued tr operations (Context.start config t) := by
  have hledger := Context.ledger_session tr (Context.start config t).underObservation operations
  rw [Operation.issued_observed] at hledger
  -- what is held is the same with and without observation
  have hstate :=
    (Operation.session_observed tr operations (Context.start config t).underObservation).2
  have hpending := congrArg Context.pending hstate
  exact (congrArg (fun is => _ ++ List.map Item.call is) hpending).trans hledger

end GlBridge
