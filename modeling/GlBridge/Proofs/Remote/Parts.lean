import GlBridge.Proofs.Remote.Effect
import GlBridge.Proofs.Remote.Step

/-!
# Contexts whose parts match

The primitives of a context are put together from a few parts: reading what decides how to go
on, changing one field, taking the queue, and using the transport. `Context.Parts` says of two
contexts that these parts match, and then so do the primitives (`Context.Parts.primitives`) and
with them all that is done with a context.

The level does not matter here. A correspondence that knows at which depth it is has to be shown
to match primitive by primitive.
-/

namespace GlBridge

variable {σ τ : Type}

/-- The parts from which the primitives of two contexts are made match. -/
structure Context.Parts (K : Correspondence (Context σ) (Context τ)) (tr : Transport σ)
    (tr' : Transport τ) : Prop where
  flat : K.Flat
  -- what is read
  pending : ∀ level c c', K.relates level c c' → c'.pending = c.pending
  depth : ∀ level c c', K.relates level c c' → c'.depth = c.depth
  target : ∀ level c c', K.relates level c c' → c'.config.target = c.config.target
  -- what is changed
  queue : ∀ i, K.Matches (Action.modify fun c => c.queued i : Context.Remote σ Unit)
    (Action.modify fun c => c.queued i)
  stow : ∀ b, K.Matches (Action.modify fun c => c.withBuffer b : Context.Remote σ Unit)
    (Action.modify fun c => c.withBuffer b)
  store : ∀ d, K.Matches (Action.modify fun c => { c with constants := d } : Context.Remote σ Unit)
    (Action.modify fun c => { c with constants := d })
  setDepth : ∀ n, K.Matches (Action.modify fun c => { c with depth := n } : Context.Remote σ Unit)
    (Action.modify fun c => { c with depth := n })
  takePending : K.Matches (Context.takePending : Context.Remote σ _) Context.takePending
  -- what is done
  traced : ∀ e, e.isTrace = true → K.Matches (Context.traced e) (Context.traced e)
  send : ∀ m bs, K.Matches (Context.send tr m bs) (Context.send tr' m bs)
  request : ∀ m bs, K.Matches (Context.request tr m bs) (Context.request tr' m bs)

/-- What closing a chunk does at a depth. -/
def Context.closeAt (tr : Transport σ) : Nat → Context.Remote σ Unit
  | 0 => do
    Action.emit .unmatchedEnd
    flush tr
  | 1 => do
    Action.modify fun c => { c with depth := 0 }
    flush tr
  | depth + 1 => Action.modify fun c => { c with depth }

namespace Context.Parts

variable {K : Correspondence (Context σ) (Context τ)} {tr : Transport σ} {tr' : Transport τ}

/-- What is held is taken and sent. -/
theorem sendPending (h : Parts K tr tr') :
    K.Matches
      (Context.takePending >>= fun held =>
        Action.emit (.flushing held.1.length) >>= fun _ => Context.send tr (.exec held.1) held.2)
      (Context.takePending >>= fun held =>
        Action.emit (.flushing held.1.length) >>= fun _ =>
          Context.send tr' (.exec held.1) held.2) :=
  h.takePending.bind fun _ => (Correspondence.matches_emit _).bind fun _ => h.send _ _

/-- The two contexts send what they hold alike. -/
theorem flush (h : Parts K tr tr') : K.Matches (Context.flush tr) (Context.flush tr') := by
  unfold Context.flush
  -- the two queues are the same, so either both are sent or neither is
  refine Correspondence.matches_read (p := Context.pending) (q := Context.pending)
    (k := fun held => if !held.isEmpty then _ else _)
    (j := fun held => if !held.isEmpty then _ else _) h.pending fun held => ?_
  cases held with
  | nil => exact Correspondence.matches_pure _
  | cons i rest => exact h.sendPending

/-- Reading the depth decides whether the queue is sent. -/
theorem flushOutside (h : Parts K tr tr') :
    K.Matches (Action.get >>= fun c => if c.depth = 0 then Context.flush tr else pure ())
      (Action.get >>= fun c => if c.depth = 0 then Context.flush tr' else pure ()) := by
  refine Correspondence.matches_read (p := Context.depth) (q := Context.depth)
    (k := fun n => if n = 0 then Context.flush tr else pure ())
    (j := fun n => if n = 0 then Context.flush tr' else pure ()) h.depth fun n => ?_
  cases n with
  | zero => exact h.flush
  | succ n => exact Correspondence.matches_pure _

/-- A call is reported and queued, and then the depth decides. -/
theorem exec (h : Parts K tr tr') (op : String) (args : List Value) :
    K.Matches (Context.exec tr op args) (Context.exec tr' op args) :=
  (h.traced _ rfl).bind fun _ => (h.queue _).bind fun _ => h.flushOutside

theorem execWithBuffer (h : Parts K tr tr') (op : String) (args : List Value) (buffer : Bytes) :
    K.Matches (Context.execWithBuffer tr op args buffer)
      (Context.execWithBuffer tr' op args buffer) :=
  (h.stow _).bind fun _ => h.exec op args

/-- A query takes the queue along, and its reply decides what it delivers. -/
theorem query (h : Parts K tr tr') (op : String) (args : List Value) :
    K.Matches (Context.query tr op args) (Context.query tr' op args) := by
  refine (h.traced _ rfl).bind fun _ => h.takePending.bind fun held => ?_
  refine (h.request _ _).bind fun reply => ?_
  cases reply with
  | queryReply data => exact Correspondence.matches_pure _
  | _ => exact Correspondence.matches_fail _

/-- A request that names the target. -/
theorem requestTarget (h : Parts K tr tr') (m : String → Message) {α : Type}
    {k : Reply → Context.Remote σ α} {j : Reply → Context.Remote τ α}
    (hk : ∀ r, K.Matches (k r) (j r)) :
    K.Matches (Action.get >>= fun c => Context.request tr (m c.config.target) [] >>= k)
      (Action.get >>= fun c => Context.request tr' (m c.config.target) [] >>= j) :=
  Correspondence.matches_read (p := fun c => c.config.target) (q := fun c => c.config.target)
    (k := fun target => Context.request tr (m target) [] >>= k)
    (j := fun target => Context.request tr' (m target) [] >>= j) h.target
    fun _ => (h.request _ _).bind hk

/-- Fetching the constants ends with the reply to them being kept. -/
theorem fetchConstants (h : Parts K tr tr') :
    K.Matches (Context.fetchConstants tr) (Context.fetchConstants tr') := by
  refine h.flush.bind fun _ => (h.traced _ rfl).bind fun _ =>
    h.requestTarget .getConstants fun reply => ?_
  -- a reply of any other kind is refused, with the same words
  cases reply with
  | constantsReply target data =>
    exact (Correspondence.matches_emit _).bind fun _ =>
      (h.store data).bind fun _ => Correspondence.matches_pure _
  | _ => exact Correspondence.matches_fail _

theorem fetchMethods (h : Parts K tr tr') :
    K.Matches (Context.fetchMethods tr) (Context.fetchMethods tr') := by
  refine h.flush.bind fun _ => (h.traced _ rfl).bind fun _ =>
    h.requestTarget .getMethods fun reply => ?_
  -- nothing is kept of the methods, so there is no part for them
  cases reply with
  | methodsReply target data => exact Correspondence.matches_pure _
  | _ => exact Correspondence.matches_fail _

/-- A command is sent behind a flush. -/
theorem orbitView (h : Parts K tr tr') (args : List Value) (render : List Instruction) :
    K.Matches (Context.orbitView tr args render) (Context.orbitView tr' args render) :=
  h.flush.bind fun _ => (h.traced _ rfl).bind fun _ => h.send _ _

/-- Opening a chunk is reading the depth and setting it. -/
theorem beginChunk (h : Parts K tr tr') :
    K.Matches (Action.modify Context.beginChunk : Context.Remote σ Unit)
      (Action.modify Context.beginChunk) :=
  Correspondence.matches_read (p := Context.depth) (q := Context.depth)
    (k := fun n => Action.modify fun c => { c with depth := n + 1 })
    (j := fun n => Action.modify fun c => { c with depth := n + 1 }) h.depth
    fun n => h.setDepth (n + 1)

/-- At each depth the two contexts close a chunk alike. -/
theorem closeAt (h : Parts K tr tr') (n : Nat) :
    K.Matches (Context.closeAt tr n) (Context.closeAt tr' n) := by
  match n with
  | 0 => exact (Correspondence.matches_emit _).bind fun _ => h.flush
  | 1 => exact (h.setDepth 0).bind fun _ => h.flush
  | depth + 2 => exact h.setDepth (depth + 1)

/-- Closing a chunk is reading the depth and doing what belongs to it. -/
theorem endChunk (h : Parts K tr tr') :
    K.Matches (Context.endChunk tr) (Context.endChunk tr') :=
  Correspondence.matches_read (p := Context.depth) (q := Context.depth) h.depth h.closeAt

/-- **The primitives match** of contexts whose parts do. -/
theorem primitives (h : Parts K tr tr') : Context.Matches K tr tr' where
  exec := h.exec
  execWithBuffer := h.execWithBuffer
  query := h.query
  flush := h.flush
  fetchConstants := h.fetchConstants
  fetchMethods := h.fetchMethods
  orbitView := h.orbitView
  beginChunk level := h.beginChunk.from_flat h.flat level (level + 1)
  endChunk level := h.endChunk.from_flat h.flat (level + 1) level

end Context.Parts

end GlBridge
