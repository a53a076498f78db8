import GlBridge.Remote.Context
import GlBridge.Proofs.Action.Session

/-!
# What the primitives of a context leave behind

Each primitive of a context as a closed expression: its result, the state it leaves, and
what it reports, in terms of one call of the transport. No other proof looks into a
primitive.

Two functions describe every change of the queue. `Context.queued` adds a call at its end, and
`Context.emptied` is the context after the whole queue was handed to the transport.
-/

namespace GlBridge

/-- The value that a query delivers, by its reply. -/
def Reply.toValue : Reply → Except RemoteError Value
  | .queryReply data => .ok data
  | .queryError message => .error (.query message)
  | other => .error (.unexpectedReply .queryReply other.kind)

/-- The constants that a request for them delivers. -/
def Reply.toConstants : Reply → Except RemoteError (Dictionary Double)
  | .constantsReply _ data => .ok data
  | other => .error (.unexpectedReply .constantsReply other.kind)

/-- The methods that a request for them delivers. -/
def Reply.toMethods : Reply → Except RemoteError (List String)
  | .methodsReply _ data => .ok data
  | other => .error (.unexpectedReply .methodsReply other.kind)

namespace Context

variable {σ : Type}

/-- The context with a call added to the queue. -/
def queued (c : Context σ) (i : Instruction) : Context σ := { c with pending := c.pending ++ [i] }

/-- The context with a buffer added to those that wait for the next message. -/
def withBuffer (c : Context σ) (b : Bytes) : Context σ := { c with buffers := c.buffers ++ [b] }

/-- The context with nothing queued, over another state of the transport. -/
def emptied (c : Context σ) (t : σ) : Context σ :=
  { c with transport := t, pending := [], buffers := [] }

/-- The context over another state of the transport, or over another transport. -/
def withTransport {τ : Type} (c : Context σ) (t : τ) : Context τ :=
  ⟨t, c.config, c.pending, c.buffers, c.depth, c.constants⟩

/-- What is reported in addition if the trace is switched on. -/
def traceEvents (c : Context σ) (e : Event) : List Event := if c.config.trace then [e] else []

variable (tr : Transport σ) (c : Context σ)

@[simp] theorem traced_apply (e : Event) : traced e c = ⟨.ok (), c, c.traceEvents e⟩ := by
  unfold traced traceEvents
  rw [Action.get_bind_apply]
  cases c.config.trace <;> rfl

@[simp] theorem send_apply (m : Message) (bs : List Bytes) :
    send tr m bs c =
      ⟨(tr.send m bs c.transport).1, c.withTransport (tr.send m bs c.transport).2, []⟩ := rfl

@[simp] theorem request_apply (m : Message) (bs : List Bytes) :
    request tr m bs c =
      ⟨(tr.request m bs c.transport).1, c.withTransport (tr.request m bs c.transport).2, []⟩ :=
  rfl

/-! ### Sending what is held -/

/-- Nothing is sent if nothing is held. -/
theorem flush_of_empty (h : c.pending = []) : flush tr c = ⟨.ok (), c, []⟩ := by
  unfold flush
  rw [Action.get_bind_apply, h]
  rfl

/-- Everything that is held is sent with its buffers, and it is gone even if the transport fails. -/
theorem flush_of_held (h : c.pending ≠ []) :
    flush tr c = ⟨(tr.send (.exec c.pending) c.buffers c.transport).1,
      c.emptied (tr.send (.exec c.pending) c.buffers c.transport).2,
      [.flushing c.pending.length]⟩ := by
  have hheld : (!c.pending.isEmpty) = true := by simpa using h
  unfold flush
  rw [Action.get_bind_apply, if_pos hheld]
  rfl

/-- Nothing is held after a flush. -/
theorem pending_flush : (flush tr c).state.pending = [] := by
  by_cases h : c.pending = []
  · rw [flush_of_empty tr c h]
    exact h
  · rw [flush_of_held tr c h]
    rfl

@[simp] theorem config_flush : (flush tr c).state.config = c.config := by
  by_cases h : c.pending = []
  · rw [flush_of_empty tr c h]
  · rw [flush_of_held tr c h]
    rfl

@[simp] theorem depth_flush : (flush tr c).state.depth = c.depth := by
  by_cases h : c.pending = []
  · rw [flush_of_empty tr c h]
  · rw [flush_of_held tr c h]
    rfl

@[simp] theorem constants_flush : (flush tr c).state.constants = c.constants := by
  by_cases h : c.pending = []
  · rw [flush_of_empty tr c h]
  · rw [flush_of_held tr c h]
    rfl

theorem traceEvents_flush (e : Event) :
    (flush tr c).state.traceEvents e = c.traceEvents e := by
  rw [traceEvents, config_flush, traceEvents]

/-! ### Calls -/

/-- A call is queued, and then it depends on the depth whether the queue is flushed. -/
theorem exec_apply (op : String) (args : List Value) :
    exec tr op args c =
      let q := c.queued (.exec op args)
      let out := (if q.depth = 0 then flush tr else pure () : Remote σ Unit) q
      ⟨out.result, out.state, c.traceEvents (.exec op) ++ out.events⟩ := by
  unfold exec
  -- the trace is written first, and it leaves the context as it is
  rw [Action.bind_of_ok (congrArg Outcome.result (traced_apply c _)), traced_apply]
  rfl

/-- Outside of chunks a call is sent at once. -/
theorem exec_of_outside (op : String) (args : List Value) (h : c.depth = 0) :
    exec tr op args c =
      ⟨(flush tr (c.queued (.exec op args))).result, (flush tr (c.queued (.exec op args))).state,
        c.traceEvents (.exec op) ++ (flush tr (c.queued (.exec op args))).events⟩ := by
  have hq : (c.queued (.exec op args)).depth = 0 := h
  rw [exec_apply]
  simp only [if_pos hq]

/-- And so it leaves in one message with whatever was held: with the new call, the queue is not
empty, and the flush sends it. -/
theorem exec_sends (op : String) (args : List Value) (h : c.depth = 0) :
    exec tr op args c =
      let sent := tr.send (.exec (c.pending ++ [.exec op args])) c.buffers c.transport
      ⟨sent.1, c.emptied sent.2,
        c.traceEvents (.exec op) ++ [.flushing (c.pending.length + 1)]⟩ := by
  have hheld : (c.queued (.exec op args)).pending ≠ [] :=
    List.append_ne_nil_of_right_ne_nil _ (List.cons_ne_nil _ _)
  have hlength : (c.queued (.exec op args)).pending.length = c.pending.length + 1 :=
    List.length_append
  rw [exec_of_outside tr c op args h, flush_of_held tr _ hheld, hlength]
  rfl

/-- Inside of a chunk a call is held. -/
theorem exec_of_inside (op : String) (args : List Value) (h : c.depth ≠ 0) :
    exec tr op args c = ⟨.ok (), c.queued (.exec op args), c.traceEvents (.exec op)⟩ := by
  have hq : ¬(c.queued (.exec op args)).depth = 0 := h
  rw [exec_apply]
  simp only [if_neg hq, Action.pure_apply, List.append_nil]

theorem execWithBuffer_apply (op : String) (args : List Value) (b : Bytes) :
    execWithBuffer tr op args b c = exec tr op args (c.withBuffer b) := rfl

/-- A query takes along whatever is held. -/
theorem query_apply (op : String) (args : List Value) :
    query tr op args c =
      ⟨(tr.request (.query (c.pending ++ [.query op args])) c.buffers c.transport).1.bind
          Reply.toValue,
        c.emptied (tr.request (.query (c.pending ++ [.query op args])) c.buffers c.transport).2,
        c.traceEvents (.query op)⟩ := by
  unfold query
  rw [Action.bind_of_ok (congrArg Outcome.result (traced_apply c _)), traced_apply]
  -- the queue is taken before the request is made, and so it is gone if the request fails
  rw [Action.bind_of_ok (x := takePending) (a := (c.pending, c.buffers)) rfl]
  simp only [takePending]
  rw [Action.bind_apply, request_apply]
  simp only [withTransport, emptied]
  cases (tr.request (.query (c.pending ++ [.query op args])) c.buffers c.transport).1 with
  | error e => simp [Except.bind]
  | ok reply => cases reply <;> simp [Except.bind, Reply.toValue]

/-! ### Discovery and commands

Each of the three begins with a flush, and if that fails it ends there. -/

/-- The context after constants were asked for: those received take the place of the old ones. -/
def storing (c : Context σ) : Except RemoteError (Dictionary Double) → Context σ
  | .ok d => { c with constants := d }
  | .error _ => c

/-- What is reported about constants that were received. -/
def storingEvents : Except RemoteError (Dictionary Double) → List Event
  | .ok d => [.constantsReceived d.size]
  | .error _ => []

theorem fetchConstants_of_error {e : RemoteError} (h : (flush tr c).result = .error e) :
    fetchConstants tr c = ⟨.error e, (flush tr c).state, (flush tr c).events⟩ :=
  Action.bind_of_error h

/-- If the flush succeeds, the constants are asked for, and stored if they are received. -/
theorem fetchConstants_of_ok (h : (flush tr c).result = .ok ()) :
    fetchConstants tr c =
      let out := tr.request (.getConstants c.config.target) [] (flush tr c).state.transport
      let data := out.1.bind Reply.toConstants
      ⟨data, ((flush tr c).state.withTransport out.2).storing data,
        (flush tr c).events ++ (c.traceEvents (.message .getConstants) ++ storingEvents data)⟩ := by
  unfold fetchConstants
  rw [Action.bind_of_ok h, Action.bind_of_ok (congrArg Outcome.result (traced_apply _ _)),
    traced_apply, traceEvents_flush, Action.get_bind_apply, Action.bind_apply, request_apply,
    config_flush]
  simp only [List.nil_append]
  -- what was received decides what is stored and reported
  cases (tr.request (.getConstants c.config.target) [] (flush tr c).state.transport).1 with
  | error e => rfl
  | ok reply => cases reply <;> rfl

theorem fetchMethods_of_error {e : RemoteError} (h : (flush tr c).result = .error e) :
    fetchMethods tr c = ⟨.error e, (flush tr c).state, (flush tr c).events⟩ :=
  Action.bind_of_error h

/-- If the flush succeeds, the methods are asked for, and nothing is stored. -/
theorem fetchMethods_of_ok (h : (flush tr c).result = .ok ()) :
    fetchMethods tr c =
      let out := tr.request (.getMethods c.config.target) [] (flush tr c).state.transport
      ⟨out.1.bind Reply.toMethods, (flush tr c).state.withTransport out.2,
        (flush tr c).events ++ c.traceEvents (.message .getMethods)⟩ := by
  unfold fetchMethods
  rw [Action.bind_of_ok h, Action.bind_of_ok (congrArg Outcome.result (traced_apply _ _)),
    traced_apply, traceEvents_flush, Action.get_bind_apply, Action.bind_apply, request_apply,
    config_flush]
  dsimp only
  -- a reply of another kind is a failure, and nothing is stored in either case
  cases (tr.request (.getMethods c.config.target) [] (flush tr c).state.transport).1 with
  | error e => simp [Except.bind]
  | ok reply => cases reply <;> simp [Except.bind, Reply.toMethods]

theorem orbitView_of_error {e : RemoteError} (args : List Value) (render : List Instruction)
    (h : (flush tr c).result = .error e) :
    orbitView tr args render c = ⟨.error e, (flush tr c).state, (flush tr c).events⟩ :=
  Action.bind_of_error h

/-- If the flush succeeds, the command is sent. -/
theorem orbitView_of_ok (args : List Value) (render : List Instruction)
    (h : (flush tr c).result = .ok ()) :
    orbitView tr args render c =
      let out := tr.send (.command ⟨"orbitView", args, render⟩) [] (flush tr c).state.transport
      ⟨out.1, (flush tr c).state.withTransport out.2,
        (flush tr c).events ++ c.traceEvents (.message .command)⟩ := by
  unfold orbitView
  rw [Action.bind_of_ok h, Action.bind_of_ok (congrArg Outcome.result (traced_apply _ _)),
    traced_apply, traceEvents_flush, send_apply]
  simp only [List.append_nil]

/-! ### Chunks -/

/-- Closing a chunk that is not open is only reported; whatever is held is sent. -/
theorem endChunk_of_zero (h : c.depth = 0) :
    endChunk tr c =
      ⟨(flush tr c).result, (flush tr c).state, .unmatchedEnd :: (flush tr c).events⟩ := by
  unfold endChunk
  rw [Action.get_bind_apply, h]
  rfl

/-- Closing the outermost chunk sends what is held. -/
theorem endChunk_of_one (h : c.depth = 1) :
    endChunk tr c = flush tr { c with depth := 0 } := by
  unfold endChunk
  rw [Action.get_bind_apply, h]
  rfl

/-- Closing an inner chunk sends nothing. -/
theorem endChunk_of_more {depth : Nat} (h : c.depth = depth + 2) :
    endChunk tr c = ⟨.ok (), { c with depth := depth + 1 }, []⟩ := by
  unfold endChunk
  rw [Action.get_bind_apply, h]
  rfl

end Context

end GlBridge
