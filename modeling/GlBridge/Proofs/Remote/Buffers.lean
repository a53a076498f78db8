import GlBridge.Proofs.Remote.Delivery
import Mathlib.Data.List.Forall2

/-!
# Buffers travel with their calls

A call that refers to a buffer and the buffer itself wait in two queues and are taken out of them
together. `buffers_travel` says that they stay together: whatever the transport does, each message
it is handed carries the buffers that were given for the calls in it, in the order of these calls,
and the buffers that are held are those of the calls that are held.

Neither queue says which buffer belongs to which call. The proof therefore accompanies a context
with what it cannot tell itself: one parcel of loads for each use of the transport, and the
loads that are held (`Context.Stowed`). An operation adds what it issues to the loads
(`Context.Stows.operation`), and sending what is held makes a parcel of it.
-/

namespace GlBridge

variable {σ : Type}

/-! ### Loads -/

/-- A piece that was issued, with the buffer that was given for it, if any. -/
structure Load where
  item : Item
  buffer : Option Bytes

/-- The exchange handed over these pieces, and their buffers in the same order. -/
structure Exchange.Carries (x : Exchange) (parcel : List Load) : Prop where
  items : x.items = parcel.map Load.item
  buffers : x.sent.buffers = parcel.filterMap Load.buffer

/-- The buffer that a primitive is given. -/
def Primitive.buffer? : Primitive → Option Bytes
  | .execWithBuffer _ _ b => some b
  | _ => none

namespace Operation

/-- The buffer that an operation is given: that of a call with a buffer, or the bytes of a
matrix. -/
def buffer? : Operation → Option Bytes
  | .primitive p => p.buffer?
  | .uniformMatrix _ m => some m.bytes
  | _ => none

/-- What an operation issues, with its buffer. -/
def loads (tr : Transport σ) (c : Context σ) (o : Operation) : List Load :=
  (o.issues tr c).map fun item => ⟨item, o.buffer?⟩

/-- What operations issue that are carried out one after the other, with their buffers. -/
def loaded (tr : Transport σ) : List Operation → Context σ → List Load
  | [], _ => []
  | o :: rest, c => o.loads tr c ++ loaded tr rest (o.perform tr c).state

/-- An operation has the buffer that its primitive has. -/
theorem buffer_primitive {o : Operation} {p : Primitive} (h : o.primitive? = .ok p) :
    p.buffer? = o.buffer? := by
  cases o with
  | getUniformLocation program name =>
    obtain ⟨-, rfl⟩ := getUniformLocation_of_ok h
    rfl
  | shaderSource shader source =>
    obtain ⟨-, rfl⟩ := shaderSource_of_ok h
    rfl
  | _ => cases h; rfl

end Operation

/-! ### Parcels -/

namespace Context

/-- The exchanges so far carried these parcels, and what is held are these loads. -/
structure Stowed (c : Context (Observed σ)) (parcels : List (List Load)) (held : List Load) :
    Prop where
  carried : List.Forall₂ Exchange.Carries c.transport.exchanges parcels
  calls : c.pending.map .call = held.map Load.item
  buffers : c.buffers = held.filterMap Load.buffer

/-- These loads were handed over in parcels, all but the last ones, which are held. -/
def Stows (c : Context (Observed σ)) (loads : List Load) : Prop :=
  ∃ parcels held, c.Stowed parcels held ∧ parcels.flatten ++ held = loads

/-- Nothing was handed over at the start, and nothing is held. -/
theorem stows_start (config : Config) (t : σ) : (start config t).underObservation.Stows [] :=
  ⟨[], [], ⟨.nil, rfl, rfl⟩, rfl⟩

variable {c : Context (Observed σ)} {loads : List Load}

/-- A call without a buffer is held behind the others. -/
theorem Stows.queued (h : c.Stows loads) (i : Instruction) :
    (c.queued i).Stows (loads ++ [⟨.call i, none⟩]) := by
  obtain ⟨parcels, held, hstowed, rfl⟩ := h
  refine ⟨parcels, held ++ [⟨.call i, none⟩], ⟨hstowed.carried, ?_, ?_⟩,
    (List.append_assoc _ _ _).symm⟩
  · have hcalls := congrArg (· ++ [Item.call i]) hstowed.calls
    rw [List.map_append]
    exact (List.map_append ..).trans hcalls
  · rw [List.filterMap_append, ← hstowed.buffers]
    exact (List.append_nil _).symm

/-- A call and its buffer are queued one after the other, the buffer first. -/
theorem Stows.queued_withBuffer (h : c.Stows loads) (i : Instruction) (b : Bytes) :
    ((c.withBuffer b).queued i).Stows (loads ++ [⟨.call i, some b⟩]) := by
  obtain ⟨parcels, held, hstowed, rfl⟩ := h
  refine ⟨parcels, held ++ [⟨.call i, some b⟩], ⟨hstowed.carried, ?_, ?_⟩,
    (List.append_assoc _ _ _).symm⟩
  · have hcalls := congrArg (· ++ [Item.call i]) hstowed.calls
    rw [List.map_append]
    exact (List.map_append ..).trans hcalls
  · rw [List.filterMap_append, ← hstowed.buffers]
    rfl

/-- What is held becomes a parcel, perhaps with something behind it. -/
theorem Stowed.emptied {parcels : List (List Load)} {held more : List Load}
    (h : c.Stowed parcels held) (t : σ) {x : Exchange} (hx : x.Carries (held ++ more)) :
    (c.emptied ⟨t, c.transport.exchanges ++ [x]⟩).Stows (parcels.flatten ++ held ++ more) := by
  -- the rest moves into a parcel, and a new one begins with nothing
  refine ⟨parcels ++ [held ++ more], [], ⟨?_, rfl, rfl⟩, ?_⟩
  · exact List.rel_append h.carried (.cons hx .nil)
  · rw [List.flatten_append, List.flatten_singleton, List.append_nil, List.append_assoc]

/-- When no call is held, no load is. -/
theorem Stowed.held_eq_nil {parcels : List (List Load)} {held : List Load}
    (h : c.Stowed parcels held) (hp : c.pending = []) : held = [] := by
  have hcalls := h.calls
  rw [hp] at hcalls
  exact List.map_eq_nil_iff.1 hcalls.symm

/-- A message that goes alone is a parcel of its own. -/
theorem Stows.exchanged (h : c.Stows loads) (hp : c.pending = []) (t : σ) {x : Exchange}
    {l : Load} (hx : x.Carries [l]) :
    (c.withTransport ⟨t, c.transport.exchanges ++ [x]⟩).Stows (loads ++ [l]) := by
  obtain ⟨parcels, held, hstowed, rfl⟩ := h
  -- nothing is held, so the message can be a parcel without anything before it
  obtain rfl := hstowed.held_eq_nil hp
  refine ⟨parcels ++ [[l]], [], ⟨?_, hstowed.calls, hstowed.buffers⟩, ?_⟩
  · exact List.rel_append hstowed.carried (.cons hx .nil)
  · rw [List.flatten_append, List.flatten_singleton, List.append_nil, List.append_nil]

/-! ### Primitives -/

variable (tr : Transport σ)

/-- **Flushing loses no buffer and mixes none up**: what was held becomes a parcel as it is. -/
theorem Stows.flush (h : c.Stows loads) : (flush tr.observed c).state.Stows loads := by
  by_cases hp : c.pending = []
  · rw [flush_of_empty _ c hp]
    exact h
  · obtain ⟨parcels, held, hstowed, rfl⟩ := h
    rw [flush_of_held _ c hp, Transport.observed_send]
    -- the message is made of both queues as they are, and both are empty afterwards
    have hx : Exchange.Carries (.send ⟨.exec c.pending, c.buffers⟩
        (tr.send (.exec c.pending) c.buffers c.transport.inner).1) (held ++ []) := by
      rw [List.append_nil]
      exact ⟨hstowed.calls, hstowed.buffers⟩
    have hemptied := hstowed.emptied
      (tr.send (.exec c.pending) c.buffers c.transport.inner).2 hx
    rwa [List.append_nil] at hemptied

/-- Whether a call is held or sent at once, its loads are those it was queued with. -/
theorem stows_exec {op : String} {args : List Value}
    (h : (c.queued (.exec op args)).Stows loads) :
    (exec tr.observed op args c).state.Stows loads := by
  by_cases hd : c.depth = 0
  · rw [exec_of_outside _ c op args hd]
    exact h.flush tr
  · rw [exec_of_inside _ c op args hd]
    exact h

/-- A query leaves with whatever is held, as one parcel. -/
theorem Stows.query (h : c.Stows loads) (op : String) (args : List Value) :
    (query tr.observed op args c).state.Stows (loads ++ [⟨.call (.query op args), none⟩]) := by
  obtain ⟨parcels, held, hstowed, rfl⟩ := h
  rw [query_apply, Transport.observed_request]
  refine hstowed.emptied _ ⟨?_, ?_⟩
  · -- the call is added behind those that are held
    have hcalls := congrArg (· ++ [Item.call (.query op args)]) hstowed.calls
    rw [List.map_append]
    exact (List.map_append ..).trans hcalls
  · rw [List.filterMap_append, ← hstowed.buffers]
    exact (List.append_nil _).symm

/-- What follows a flush: nothing if it failed, or else a message without buffers. -/
theorem Stows.afterFlush {α : Type} {x : Remote (Observed σ) α} {m : Message}
    (h : c.Stows loads)
    (herror : ∀ e, (Context.flush tr.observed c).result = .error e →
      (x c).state = (Context.flush tr.observed c).state)
    (hok : (Context.flush tr.observed c).result = .ok () →
      ∃ (t : σ) (ex : Exchange), ex.Carries [⟨.message m, none⟩] ∧
        ∀ l, ((Context.flush tr.observed c).state.withTransport
            ⟨t, (Context.flush tr.observed c).state.transport.exchanges ++ [ex]⟩).Stows l →
          (x c).state.Stows l) :
    (x c).state.Stows (loads ++ (c.afterFlush tr.observed m).map fun item => ⟨item, none⟩) := by
  have hflush := h.flush tr
  unfold Context.afterFlush
  cases hr : (Context.flush tr.observed c).result with
  | error e =>
    -- the message was never sent, and it is not among those issued either
    rw [herror e hr]
    exact (List.append_nil loads).symm ▸ hflush
  | ok u =>
    obtain ⟨t, ex, hx, hstate⟩ := hok hr
    exact hstate _ (hflush.exchanged (pending_flush _ c) t hx)

/-- The constants have no part in it. -/
theorem Stows.storing (h : c.Stows loads) (data : Except RemoteError (Dictionary Double)) :
    (c.storing data).Stows loads := by
  obtain ⟨parcels, held, hstowed, hloads⟩ := h
  cases data with
  | error e => exact ⟨parcels, held, hstowed, hloads⟩
  | ok d => exact ⟨parcels, held, ⟨hstowed.carried, hstowed.calls, hstowed.buffers⟩, hloads⟩

theorem Stows.withDepth (h : c.Stows loads) (depth : Nat) :
    { c with depth := depth }.Stows loads := by
  obtain ⟨parcels, held, hstowed, hloads⟩ := h
  exact ⟨parcels, held, ⟨hstowed.carried, hstowed.calls, hstowed.buffers⟩, hloads⟩

theorem Stows.endChunk (h : c.Stows loads) : (endChunk tr.observed c).state.Stows loads := by
  match hd : c.depth with
  | 0 =>
    rw [endChunk_of_zero _ c hd]
    exact h.flush tr
  | 1 =>
    rw [endChunk_of_one _ c hd]
    exact (h.withDepth 0).flush tr
  | depth + 2 =>
    rw [endChunk_of_more _ c hd]
    exact h.withDepth (depth + 1)

/-- **A primitive adds what it issues, with its buffer.** -/
theorem Stows.primitive (h : c.Stows loads) (p : Primitive) :
    (p.perform tr.observed c).state.Stows
      (loads ++ (p.issues tr.observed c).map fun item => ⟨item, p.buffer?⟩) := by
  cases p with
  | exec op args =>
    rw [Primitive.perform, state_answering]
    exact stows_exec tr (h.queued _)
  | execWithBuffer op args buffer =>
    rw [Primitive.perform, state_answering, execWithBuffer_apply]
    exact stows_exec tr (h.queued_withBuffer _ buffer)
  | query op args =>
    rw [Primitive.perform, state_answering]
    exact h.query tr op args
  | fetchConstants =>
    rw [Primitive.perform, state_answering]
    refine h.afterFlush tr (fun e hr => ?_) fun hr => ?_
    · rw [fetchConstants_of_error _ c hr]
    · rw [fetchConstants_of_ok _ c hr]
      exact ⟨_, _, ⟨rfl, rfl⟩, fun l hl => hl.storing _⟩
  | fetchMethods =>
    rw [Primitive.perform, state_answering]
    refine h.afterFlush tr (fun e hr => ?_) fun hr => ?_
    · rw [fetchMethods_of_error _ c hr]
    · rw [fetchMethods_of_ok _ c hr]
      exact ⟨_, _, ⟨rfl, rfl⟩, fun l hl => hl⟩
  | orbitView args render =>
    rw [Primitive.perform, state_answering]
    refine h.afterFlush tr (fun e hr => ?_) fun hr => ?_
    · rw [orbitView_of_error _ c args render hr]
    · rw [orbitView_of_ok _ c args render hr]
      exact ⟨_, _, ⟨rfl, rfl⟩, fun l hl => hl⟩
  -- the last three issue nothing
  | flush =>
    rw [Primitive.perform, state_answering]
    exact (List.append_nil loads).symm ▸ h.flush tr
  | beginChunk =>
    rw [Primitive.perform, state_answering]
    exact (List.append_nil loads).symm ▸ h.withDepth (c.depth + 1)
  | endChunk =>
    rw [Primitive.perform, state_answering]
    exact (List.append_nil loads).symm ▸ h.endChunk tr

/-! ### Operations and sessions -/

/-- **An operation adds what it issues, with its buffer**, whether it succeeds or fails. -/
theorem Stows.operation (h : c.Stows loads) (o : Operation) :
    (o.perform tr.observed c).state.Stows (loads ++ o.loads tr.observed c) := by
  unfold Operation.loads Operation.issues
  cases hp : o.primitive? with
  | error v =>
    -- a refused operation issues nothing, even if it would have had a buffer
    rw [Operation.perform_of_error _ hp]
    exact (List.append_nil loads).symm ▸ h
  | ok p =>
    rw [(Operation.perform_of_ok _ hp c).1, ← Operation.buffer_primitive hp]
    exact h.primitive tr p

/-- Operations add what they issue, each in the context that those before it left. -/
theorem Stows.session (h : c.Stows loads) (operations : List Operation) :
    (Operation.session tr.observed operations c).state.Stows
      (loads ++ Operation.loaded tr.observed operations c) := by
  unfold Operation.session
  induction operations generalizing c loads with
  | nil => exact (List.append_nil loads).symm ▸ h
  | cons o rest ih =>
    rw [List.map_cons, Action.session_cons, Operation.loaded, ← List.append_assoc]
    exact ih (h.operation tr o)

end Context

namespace Operation

/-- What is issued does not depend on whether the transport is observed. -/
theorem loaded_observed (tr : Transport σ) (operations : List Operation)
    (c : Context (Observed σ)) :
    loaded tr.observed operations c = loaded tr operations c.unobserved := by
  induction operations generalizing c with
  | nil => rfl
  | cons o rest ih =>
    obtain ⟨-, hagree⟩ := tr.observed_matches.operation o 0 c c.unobserved trivial
    -- after the operation the plain context is the observed one without its observation
    obtain ⟨t, ht, hstate⟩ := (hagree ⟨_, rfl, rfl⟩).state
    rw [loaded, loaded, loads, loads, issues_observed, ih, hstate, ← ht]
    rfl

/-- Only calls come with a buffer. -/
theorem buffer_of_message {tr : Transport σ} {c : Context σ} {o : Operation} {l : Load}
    (hl : l ∈ o.loads tr c) {m : Message} (hm : l.item = .message m) : l.buffer = none := by
  obtain ⟨item, hitem, rfl⟩ := List.mem_map.1 hl
  obtain rfl : item = .message m := hm
  unfold issues at hitem
  cases hp : o.primitive? with
  | error v => rw [hp] at hitem; cases hitem
  | ok p =>
    rw [hp] at hitem
    show o.buffer? = none
    rw [← buffer_primitive hp]
    cases p with
    | execWithBuffer op args b => cases List.mem_singleton.1 hitem
    | _ => rfl

/-- Whatever is issued in a run, only calls come with a buffer. -/
theorem buffer_of_mem_loaded {tr : Transport σ} {operations : List Operation} {c : Context σ}
    {l : Load} (hl : l ∈ loaded tr operations c) {m : Message} (hm : l.item = .message m) :
    l.buffer = none := by
  induction operations generalizing c with
  | nil => cases hl
  | cons o rest ih =>
    rcases List.mem_append.1 hl with hl | hl
    · exact buffer_of_message hl hm
    · exact ih hl

end Operation

/-- A message that is no list of calls is one piece. -/
theorem Message.items_of_kind {m : Message} (hexec : m.kind ≠ .exec) (hquery : m.kind ≠ .query) :
    m.items = [.message m] := by
  cases m with
  | exec is => exact absurd rfl hexec
  | query is => exact absurd rfl hquery
  | _ => rfl

/-- **Buffers travel with their calls.** Take any operations on a new context, over any transport,
and let each succeed or fail. What they issue, each piece with the buffer it was given, falls into
one parcel for each message that the transport was handed, and a rest. The message has the pieces
of its parcel and exactly the buffers of these, in order; the queues hold the calls of the rest and
exactly their buffers. A message that is no list of calls has no buffers. -/
theorem buffers_travel (tr : Transport σ) (config : Config) (t : σ)
    (operations : List Operation) :
    ∃ (parcels : List (List Load)) (held : List Load),
      parcels.flatten ++ held = Operation.loaded tr operations (Context.start config t) ∧
      List.Forall₂ Exchange.Carries (Operation.session tr.observed operations
        (Context.start config t).underObservation).state.transport.exchanges parcels ∧
      (Operation.session tr operations (Context.start config t)).state.pending.map .call =
        held.map Load.item ∧
      (Operation.session tr operations (Context.start config t)).state.buffers =
        held.filterMap Load.buffer ∧
      ∀ x ∈ (Operation.session tr.observed operations
          (Context.start config t).underObservation).state.transport.exchanges,
        x.sent.message.kind ≠ .exec → x.sent.message.kind ≠ .query → x.sent.buffers = [] := by
  have hstate :=
    (Operation.session_observed tr operations (Context.start config t).underObservation).2
  have hstows := (Context.stows_start config t).session tr operations
  rw [List.nil_append, Operation.loaded_observed] at hstows
  -- the parcels are those of the observed run, and they were issued in the plain one as well
  obtain ⟨parcels, held, hstowed, hloads⟩ := hstows
  refine ⟨parcels, held, hloads, hstowed.carried, ?_, ?_, fun x hx hexec hquery => ?_⟩
  · have hpending := congrArg Context.pending hstate
    exact (congrArg (List.map Item.call) hpending).trans hstowed.calls
  · exact (congrArg Context.buffers hstate).trans hstowed.buffers
  · -- the parcel in the same place is the message alone, and no message is given a buffer
    obtain ⟨⟨i, hi⟩, rfl⟩ := List.mem_iff_get.1 hx
    have hi' : i < parcels.length := hstowed.carried.length_eq ▸ hi
    have hcarries := hstowed.carried.get hi hi'
    have hitems := hcarries.items.symm.trans (Message.items_of_kind hexec hquery)
    rw [hcarries.buffers, List.filterMap_eq_nil_iff]
    intro l hl
    have hitem : l.item ∈ (parcels.get ⟨i, hi'⟩).map Load.item := List.mem_map_of_mem hl
    rw [hitems, List.mem_singleton] at hitem
    have hmem : l ∈ parcels.flatten ++ held :=
      List.mem_append_left _ (List.mem_flatten_of_mem (List.get_mem parcels ⟨i, hi'⟩) hl)
    rw [hloads] at hmem
    exact Operation.buffer_of_mem_loaded hmem hitem

end GlBridge
