import GlBridge.Proofs.Action.Triple
import GlBridge.Proofs.Remote.Depth
import GlBridge.Proofs.Remote.Observed
import GlBridge.Remote.DryRun

/-!
# Playing against the dry-run executor

Over the dry-run executor nothing is left open. A transport that records never fails, and the
answer to a query depends on the name of its call and on the next key only. So what an action
results in, which messages it sends and which key comes next is a function of the number of the
next key, as long as the action begins where no chunk is open and nothing is held (`DryRun.Ready`).

`DryRun.Plays` states this of an action, for one such number. Its rules go through an action call
by call, and the messages of what comes second stand behind those of what comes first. A body that
runs inside a chunk sends nothing, and is described by the calls that it leaves in the queue
(`Context.Queues`). A scope turns these calls into a message when it ends, whichever way its
body went (`DryRun.Plays.scope`).
-/

namespace GlBridge

variable {ε φ α β : Type}

/-! ### Inside a chunk -/

/-- Run inside a chunk, the action has this result and leaves these calls in the queue. -/
def Context.Queues {σ : Type} (x : Context.Remote σ α) (is : List Instruction)
    (r : Except RemoteError α) : Prop :=
  ∀ c : Context σ, c.depth ≠ 0 →
    x.Yields (fun c' => c' = c) r fun c' => c' = { c with pending := c.pending ++ is }

namespace Context.Queues

variable {σ : Type} {tr : Transport σ}

/-- A call inside a chunk is left in the queue. -/
theorem exec (op : String) (args : List Value) :
    Context.Queues (Context.exec tr op args) [.exec op args] (.ok ()) := by
  rintro _ hdepth c rfl
  rw [Context.exec_of_inside tr _ op args hdepth]
  exact ⟨rfl, rfl⟩

/-- The calls of what comes second stand behind those of what comes first. -/
theorem bind {x : Context.Remote σ α} {f : α → Context.Remote σ β} {is js : List Instruction}
    {a : α} {r : Except RemoteError β} (hx : Context.Queues x is (.ok a))
    (hf : Context.Queues (f a) js r) : Context.Queues (x >>= f) (is ++ js) r := by
  intro c hdepth
  -- the depth is the same after the first action, so the second one is inside the chunk as well
  have hboth := (hx c hdepth).bind (hf { c with pending := c.pending ++ is } hdepth)
  simpa only [List.append_assoc] using hboth

/-- What fails first leaves nothing of what comes second. -/
theorem bind_error {x : Context.Remote σ α} {f : α → Context.Remote σ β} {is : List Instruction}
    {e : RemoteError} (hx : Context.Queues x is (.error e)) :
    Context.Queues (x >>= f) is (.error e) :=
  fun c hdepth => (hx c hdepth).bind_error

/-- An argument that is refused leaves nothing in the queue. -/
theorem refused {v : Violation} {r : Except Violation α} (h : r = .error v) :
    Context.Queues (σ := σ) (Context.checked r) [] (.error (.protocol v)) := by
  rintro _ - c rfl
  subst h
  rw [List.append_nil]
  exact ⟨rfl, rfl⟩

end Context.Queues

/-! ### Outside of chunks -/

namespace DryRun

/-- The message that asks for a value when nothing is held. -/
def asks (op : String) (args : List Value) : Sent := ⟨.query [.query op args], []⟩

/-- The object with the given number. -/
def handle (n : Nat) : Handle where
  key := keyText n
  isKey := by
    unfold keyText Text.startsWith
    rw [String.toList_append]
    exact List.isPrefixOf_iff_prefix.2 (List.prefix_append _ _)

/-- No chunk is open, nothing is held, and the next key has this number. -/
structure Ready (n : Nat) (c : Context (Recording DryRun)) : Prop where
  outside : c.depth = 0
  drained : c.Drained
  key : c.transport.responder.nextKey = n

/-- The context after these messages, with the next key of this number. -/
def played (c : Context (Recording DryRun)) (messages : List Sent) (n : Nat) :
    Context (Recording DryRun) :=
  c.withTransport ⟨c.transport.sent ++ messages, ⟨n⟩⟩

/-- Run where the next key is number `n`, the action has this result and sends these messages,
and then the next key is number `m`. -/
def Plays (x : Action (Context (Recording DryRun)) ε α) (n : Nat) (r : Except ε α)
    (messages : List Sent) (m : Nat) : Prop :=
  ∀ c, Ready n c → x.Yields (fun c' => c' = c) r fun c' => c' = played c messages m

/-- Sending messages leaves a context ready. -/
theorem Ready.played {n : Nat} {c : Context (Recording DryRun)} (h : Ready n c)
    (messages : List Sent) (m : Nat) : Ready m (DryRun.played c messages m) :=
  ⟨h.outside, h.drained.withTransport _, rfl⟩

theorem Ready.played_nil {n : Nat} {c : Context (Recording DryRun)} (h : Ready n c) :
    DryRun.played c [] n = c := by
  obtain rfl := h.key
  unfold DryRun.played
  rw [List.append_nil]
  rfl

/-- Messages that are sent in two goes are sent in one. -/
theorem played_append (c : Context (Recording DryRun)) (ms ms' : List Sent) (n m : Nat) :
    played (played c ms n) ms' m = played c (ms ++ ms') m := by
  unfold played
  rw [← List.append_assoc]
  rfl

namespace Plays

variable {n m k : Nat} {messages messages' : List Sent}

theorem pure (a : α) : Plays (ε := ε) (Pure.pure a) n (.ok a) [] n := by
  rintro _ hc c rfl
  exact ⟨rfl, hc.played_nil.symm⟩

theorem emit (e : Event) : Plays (ε := ε) (Action.emit e) n (.ok ()) [] n := by
  rintro _ hc c rfl
  exact ⟨rfl, hc.played_nil.symm⟩

/-- A check that passes sends nothing. -/
theorem checked {r : Except Violation α} {a : α} (h : r = .ok a) :
    Plays (Context.checked r) n (.ok a) [] n := by
  rintro _ hc c rfl
  subst h
  exact ⟨rfl, hc.played_nil.symm⟩

/-- What comes second sends its messages behind those of what comes first, and begins with the key
that this left. -/
theorem bind {x : Action (Context (Recording DryRun)) ε α}
    {f : α → Action (Context (Recording DryRun)) ε β} {a : α} {r : Except ε β}
    (hx : Plays x n (.ok a) messages m) (hf : Plays (f a) m r messages' k) :
    Plays (x >>= f) n r (messages ++ messages') k := by
  intro c hc
  have hboth := (hx c hc).bind (hf _ (hc.played messages m))
  simpa only [played_append] using hboth

/-- If the first action fails, its messages are all there are. -/
theorem bind_error {x : Action (Context (Recording DryRun)) ε α}
    {f : α → Action (Context (Recording DryRun)) ε β} {e : ε}
    (hx : Plays x n (.error e) messages m) : Plays (x >>= f) n (.error e) messages m :=
  fun c hc => (hx c hc).bind_error

theorem mapError {x : Action (Context (Recording DryRun)) ε α} {r : Except ε α}
    (hx : Plays x n r messages m) (g : ε → φ) : Plays (x.mapError g) n (r.mapError g) messages m :=
  fun c hc => (hx c hc).mapError g

/-! ### Calls for their effect -/

/-- A call outside of chunks is a message of its own. -/
theorem exec (op : String) (args : List Value) :
    Plays (Context.exec transport op args) n (.ok ()) [⟨.exec [.exec op args], []⟩] n := by
  rintro _ hc c rfl
  obtain rfl := hc.key
  rw [Context.exec_sends transport c op args hc.outside]
  -- nothing else was held, so the call is the only one of its message
  unfold Context.emptied played Context.withTransport
  simp only [hc.drained.pending, hc.drained.buffers, List.nil_append]
  exact ⟨rfl, rfl⟩

/-- A call with a buffer is a message with this one buffer. -/
theorem execWithBuffer (op : String) (args : List Value) (b : Bytes) :
    Plays (Context.execWithBuffer transport op args b) n (.ok ())
      [⟨.exec [.exec op args], [b]⟩] n := by
  rintro _ hc c rfl
  have houtside : (c.withBuffer b).depth = 0 := hc.outside
  obtain rfl := hc.key
  rw [Context.execWithBuffer_apply, Context.exec_sends transport _ op args houtside]
  unfold Context.withBuffer Context.emptied played Context.withTransport
  simp only [hc.drained.pending, hc.drained.buffers, List.nil_append]
  exact ⟨rfl, rfl⟩

/-- **A scope is one message**, of the calls that its body left in the queue, also if the body
failed; and none if there are no calls. -/
theorem scope {body : Context.Remote (Recording DryRun) α} {is : List Instruction}
    {r : Except RemoteError α} (hbody : Context.Queues body is r) :
    Plays ((Context.gl transport).scope body) n r (if is = [] then [] else [⟨.exec is, []⟩]) n := by
  rintro _ hc c rfl
  obtain ⟨hresult, hstate⟩ := hbody c.beginChunk (Nat.succ_ne_zero c.depth) _ rfl
  -- the chunk is the outermost one, so its end is a flush
  have hend : (Context.endChunk transport (body c.beginChunk).state).result = .ok () ∧
      (Context.endChunk transport (body c.beginChunk).state).state =
        played c (if is = [] then [] else [⟨.exec is, []⟩]) n := by
    have hone : (body c.beginChunk).state.depth = 1 := by
      rw [hstate]
      exact congrArg (· + 1) hc.outside
    have hqueue : { (body c.beginChunk).state with depth := 0 } = { c with pending := is } := by
      rw [hstate]
      unfold Context.beginChunk
      simp only [hc.drained.pending, List.nil_append, ← hc.outside]
    rw [Context.endChunk_of_one transport _ hone, hqueue]
    by_cases his : is = []
    · rw [if_pos his, Context.flush_of_empty transport _ his, hc.played_nil, his,
        ← hc.drained.pending]
      exact ⟨rfl, rfl⟩
    · obtain rfl := hc.key
      rw [if_neg his, Context.flush_of_held transport _ his]
      unfold Context.emptied played Context.withTransport
      simp only [hc.drained.pending, hc.drained.buffers]
      exact ⟨rfl, rfl⟩
  obtain ⟨hok, hlast⟩ := hend
  cases r with
  | ok a =>
    rw [Gl.scope_of_ok (Context.gl transport) hresult]
    exact ⟨congrArg (Except.map fun _ => a) hok, hlast⟩
  | error e =>
    rw [Gl.scope_of_error (Context.gl transport) hresult]
    exact ⟨rfl, hlast⟩

/-! ### Calls for a value -/

/-- A query is a message of its own, and its name alone decides on the answer. -/
theorem query {op : String} {v : Value} (h : value op ⟨n⟩ = (v, ⟨m⟩)) (args : List Value) :
    Plays (Context.query transport op args) n (.ok v) [asks op args] m := by
  rintro _ hc c rfl
  obtain rfl := hc.key
  have hvalue : value op c.transport.responder = (v, ⟨m⟩) := h
  -- nothing is held, so the query is the last call of its message and also the first
  have hreply : reply (.query [.query op args]) c.transport.responder = (.queryReply v, ⟨m⟩) := by
    have hlast : reply (.query [.query op args]) c.transport.responder =
        (.queryReply (value op c.transport.responder).1, (value op c.transport.responder).2) := rfl
    rw [hlast, hvalue]
  rw [Context.query_apply, hc.drained.pending, hc.drained.buffers, List.nil_append]
  unfold transport
  rw [Recording.transport_request, hreply]
  refine ⟨rfl, ?_⟩
  unfold Context.emptied played Context.withTransport
  simp only [hc.drained.pending, hc.drained.buffers]
  rfl

/-- The key of an object is read as its handle. -/
theorem ofValue_keyText (n : Nat) : Handle.ofValue (.string (keyText n)) = .ok (handle n) :=
  dif_pos (handle n).isKey

/-- A query that creates an object delivers the one with the next number. -/
theorem queryHandle {op : String} (h : op ∈ objectOps) (args : List Value) :
    Plays (Context.queryHandle transport op args) n (.ok (handle n)) [asks op args] (n + 1) := by
  have hvalue : value op ⟨n⟩ = (.string (keyText n), ⟨n + 1⟩) := if_pos h
  exact (query hvalue args).bind (checked (ofValue_keyText n))

/-- A query for a status delivers that all is well. -/
theorem queryStatus {op : String} (h : op ∈ statusOps) (args : List Value) :
    Plays (Context.queryStatus transport op args) n (.ok true) [asks op args] n := by
  -- an operation that asks for a status creates no object
  have hobject : op ∉ objectOps := by
    simp only [statusOps, List.mem_cons, List.not_mem_nil, or_false] at h
    rcases h with rfl | rfl
    · decide
    · decide
  have hvalue : value op ⟨n⟩ = (.bool true, ⟨n⟩) := (if_neg hobject).trans (if_pos h)
  exact (query hvalue args).bind (checked rfl)

/-- Every uniform has a location here. -/
theorem getUniformLocation (program : Handle) {name : String} (h : isReference name = false) :
    Plays (Context.getUniformLocation transport program name) n (.ok (some (handle n)))
      [asks "getUniformLocation" [program.argument, .string name]] (n + 1) := by
  have hobject : "getUniformLocation" ∈ objectOps := by decide
  have hvalue : value "getUniformLocation" ⟨n⟩ = (.string (keyText n), ⟨n + 1⟩) := if_pos hobject
  exact (checked (literal_of_plain h)).bind
    ((query hvalue _).bind ((checked (ofValue_keyText n)).bind (pure (some (handle n)))))

end Plays

end DryRun

end GlBridge
