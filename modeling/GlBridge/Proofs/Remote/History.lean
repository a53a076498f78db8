import GlBridge.Proofs.Remote.Course
import GlBridge.Proofs.Remote.Delivery

/-!
# The history of a context

The `Context.history` of an observed context lists the calls that were issued on it, in order, and
with each query what the executor answered. An operation adds at most one entry, and what it
delivers was read from the answer in that entry (`Context.history_performed`). Where every operation
succeeds, no use of the transport fails (`Context.Clean`).
-/

namespace GlBridge

variable {σ : Type}

/-! ### Entries -/

/-- A call that was issued, with the answer to it if one was asked for. -/
structure Issued where
  call : Instruction
  answer : Option (Except RemoteError Reply) := none

/-- The calls of a query, of which the last one is answered. -/
def Issued.ofQuery (r : Except RemoteError Reply) : List Instruction → List Issued
  | [] => []
  | [i] => [⟨i, some r⟩]
  | i :: rest => ⟨i, none⟩ :: ofQuery r rest

/-- The answer belongs to the last call of a query; those before it were held. -/
theorem Issued.ofQuery_append (r : Except RemoteError Reply) (is : List Instruction)
    (i : Instruction) :
    ofQuery r (is ++ [i]) = is.map (fun j => ⟨j, none⟩) ++ [⟨i, some r⟩] := by
  induction is with
  | nil => rfl
  | cons j rest ih =>
    -- the call is not the last one, since `i` comes behind it
    have hne : rest ++ [i] ≠ [] := List.append_ne_nil_of_right_ne_nil _ (List.cons_ne_nil _ _)
    obtain ⟨k, tail, hk⟩ := List.exists_cons_of_ne_nil hne
    rw [List.cons_append, hk, ofQuery, ← hk, ih]
    · rfl
    · exact List.cons_ne_nil _ _

namespace Exchange

/-- The calls that an exchange handed over, with the answer. -/
def issued : Exchange → List Issued
  | .send s _ => s.message.calls.map fun i => ⟨i, none⟩
  | .request s r => Issued.ofQuery r s.message.calls

/-- The use of the transport did not fail. -/
def Succeeded : Exchange → Prop
  | .send _ r => r = .ok ()
  | .request _ r => ∃ reply, r = .ok reply

/-- Where something was made of a reply, there was a reply. -/
theorem succeeded_of_bind {α : Type} {s : Sent} {r : Except RemoteError Reply}
    {f : Reply → Except RemoteError α} {a : α} (h : r.bind f = .ok a) :
    Succeeded (.request s r) := by
  cases r with
  | error e => cases h
  | ok reply => exact ⟨reply, rfl⟩

end Exchange

namespace Context

/-- The calls that were handed over, and then those that are held. -/
def history (c : Context (Observed σ)) : List Issued :=
  c.transport.exchanges.flatMap Exchange.issued ++ c.pending.map fun i => ⟨i, none⟩

/-- No use of the transport failed. -/
def Clean (c : Context (Observed σ)) : Prop := ∀ x ∈ c.transport.exchanges, x.Succeeded

variable (tr : Transport σ) (c : Context (Observed σ))

/-! ### What the primitives add -/

/-- A call that is queued comes last, without an answer. -/
theorem history_queued (i : Instruction) : (c.queued i).history = c.history ++ [⟨i, none⟩] := by
  unfold history queued
  rw [List.map_append, ← List.append_assoc]
  rfl

/-- The queue leaves the history with the exchange that took it along, and comes in again with
it. -/
theorem history_emptied (t : σ) (x : Exchange) :
    (c.emptied ⟨t, c.transport.exchanges ++ [x]⟩).history =
      c.transport.exchanges.flatMap Exchange.issued ++ x.issued := by
  unfold history emptied
  rw [List.map_nil, List.append_nil, List.flatMap_append, List.flatMap_singleton]

/-- **Flushing leaves the history as it is**, whatever comes of it. -/
theorem history_flush : (flush tr.observed c).state.history = c.history := by
  by_cases h : c.pending = []
  · rw [flush_of_empty _ c h]
  · -- the held calls become an exchange, in the same place
    rw [flush_of_held _ c h]
    exact history_emptied c _ _

/-- A call adds itself, whether it is sent or held. -/
theorem history_exec (op : String) (args : List Value) :
    (exec tr.observed op args c).state.history = c.history ++ [⟨.exec op args, none⟩] := by
  by_cases h : c.depth = 0
  · rw [exec_of_outside _ c op args h, history_flush, history_queued]
  · rw [exec_of_inside _ c op args h, history_queued]

/-- A query adds itself with its answer. -/
theorem history_query (op : String) (args : List Value) :
    (query tr.observed op args c).state.history =
      c.history ++ [⟨.query op args, some (tr.request (.query (c.pending ++ [.query op args]))
        c.buffers c.transport.inner).1⟩] := by
  rw [query_apply, Transport.observed_request, history_emptied]
  simp only [Exchange.issued, Message.calls, Issued.ofQuery_append, history, List.append_assoc]

/-- The end of a chunk adds nothing. -/
theorem history_endChunk : (endChunk tr.observed c).state.history = c.history := by
  match h : c.depth with
  | 0 => rw [endChunk_of_zero _ c h, history_flush]
  | 1 => rw [endChunk_of_one _ c h, history_flush]; rfl
  | depth + 2 => rw [endChunk_of_more _ c h]; rfl

/-- A message without calls leaves the history as it is. -/
theorem history_exchanged (t : σ) {x : Exchange} (hx : x.issued = []) :
    (c.withTransport ⟨t, c.transport.exchanges ++ [x]⟩).history = c.history := by
  unfold history withTransport
  rw [List.flatMap_append, List.flatMap_singleton, hx, List.append_nil]

/-- The constants are no part of the history. -/
theorem history_storing (data : Except RemoteError (Dictionary Double)) :
    (c.storing data).history = c.history := by
  cases data <;> rfl

/-- Asking for the constants is no call. -/
theorem history_fetchConstants : (fetchConstants tr.observed c).state.history = c.history := by
  cases hr : (flush tr.observed c).result with
  | error e => rw [fetchConstants_of_error _ c hr, history_flush]
  | ok u =>
    rw [fetchConstants_of_ok _ c hr, history_storing]
    exact (history_exchanged _ _ rfl).trans (history_flush tr c)

theorem history_fetchMethods : (fetchMethods tr.observed c).state.history = c.history := by
  cases hr : (flush tr.observed c).result with
  | error e => rw [fetchMethods_of_error _ c hr, history_flush]
  | ok u =>
    rw [fetchMethods_of_ok _ c hr]
    exact (history_exchanged _ _ rfl).trans (history_flush tr c)

theorem history_orbitView (args : List Value) (render : List Instruction) :
    (orbitView tr.observed args render c).state.history = c.history := by
  cases hr : (flush tr.observed c).result with
  | error e => rw [orbitView_of_error _ c args render hr, history_flush]
  | ok u =>
    rw [orbitView_of_ok _ c args render hr]
    exact (history_exchanged _ _ rfl).trans (history_flush tr c)

/-! ### Failures show -/

variable {c}

/-- A use of the transport that succeeds leaves the record clean. -/
theorem Clean.snoc {d : Context (Observed σ)} (h : c.Clean) {x : Exchange} (hx : x.Succeeded)
    (hd : d.transport.exchanges = c.transport.exchanges ++ [x]) : d.Clean := by
  intro y hy
  rw [hd, List.mem_append, List.mem_singleton] at hy
  rcases hy with hy | rfl
  · exact h y hy
  · exact hx

/-- A flush that succeeds used the transport without a failure, if at all. -/
theorem Clean.flush (h : c.Clean) (hok : (Context.flush tr.observed c).result = .ok ()) :
    (Context.flush tr.observed c).state.Clean := by
  by_cases hp : c.pending = []
  · rw [flush_of_empty _ c hp]
    exact h
  · rw [flush_of_held _ c hp] at hok ⊢
    have hx : Exchange.Succeeded (.send ⟨.exec c.pending, c.buffers⟩
        (tr.send (.exec c.pending) c.buffers c.transport.inner).1) := hok
    exact h.snoc hx rfl

theorem Clean.exec (h : c.Clean) {op : String} {args : List Value}
    (hok : (Context.exec tr.observed op args c).result = .ok ()) :
    (Context.exec tr.observed op args c).state.Clean := by
  by_cases hd : c.depth = 0
  · rw [exec_of_outside _ c op args hd] at hok ⊢
    exact Clean.flush tr h hok
  · rw [exec_of_inside _ c op args hd]
    exact h

/-- A query that delivers a value was replied to. -/
theorem Clean.query (h : c.Clean) {op : String} {args : List Value} {v : Value}
    (hok : (Context.query tr.observed op args c).result = .ok v) :
    (Context.query tr.observed op args c).state.Clean := by
  rw [query_apply, Transport.observed_request] at hok ⊢
  exact h.snoc (Exchange.succeeded_of_bind hok) rfl

theorem Clean.endChunk (h : c.Clean) (hok : (Context.endChunk tr.observed c).result = .ok ()) :
    (Context.endChunk tr.observed c).state.Clean := by
  match hd : c.depth with
  | 0 =>
    rw [endChunk_of_zero _ c hd] at hok ⊢
    exact Clean.flush tr h hok
  | 1 =>
    rw [endChunk_of_one _ c hd] at hok ⊢
    exact Clean.flush tr h hok
  | depth + 2 =>
    -- nothing is sent, so nothing can fail
    rw [endChunk_of_more _ c hd]
    exact h

/-- If constants were delivered, both the flush and the request succeeded. -/
theorem Clean.fetchConstants (h : c.Clean) {data : Dictionary Double}
    (hok : (Context.fetchConstants tr.observed c).result = .ok data) :
    (Context.fetchConstants tr.observed c).state.Clean := by
  cases hr : (Context.flush tr.observed c).result with
  | error e =>
    rw [fetchConstants_of_error _ c hr] at hok
    cases hok
  | ok u =>
    have hflush := Clean.flush tr h hr
    rw [fetchConstants_of_ok _ c hr] at hok ⊢
    dsimp only at hok ⊢
    have hx := Exchange.succeeded_of_bind (s := ⟨.getConstants c.config.target, []⟩) hok
    -- what is stored of the reply is no part of the record
    rw [hok]
    exact hflush.snoc hx rfl

/-- If methods were delivered, both succeeded as well. -/
theorem Clean.fetchMethods (h : c.Clean) {names : List String}
    (hok : (Context.fetchMethods tr.observed c).result = .ok names) :
    (Context.fetchMethods tr.observed c).state.Clean := by
  cases hr : (Context.flush tr.observed c).result with
  | error e =>
    rw [fetchMethods_of_error _ c hr] at hok
    cases hok
  | ok u =>
    have hflush := Clean.flush tr h hr
    rw [fetchMethods_of_ok _ c hr] at hok ⊢
    exact hflush.snoc (Exchange.succeeded_of_bind hok) rfl

/-- If a command was sent, so was what was held before it. -/
theorem Clean.orbitView (h : c.Clean) {args : List Value} {render : List Instruction}
    (hok : (Context.orbitView tr.observed args render c).result = .ok ()) :
    (Context.orbitView tr.observed args render c).state.Clean := by
  cases hr : (Context.flush tr.observed c).result with
  | error e =>
    rw [orbitView_of_error _ c args render hr] at hok
    cases hok
  | ok u =>
    have hflush := Clean.flush tr h hr
    rw [orbitView_of_ok _ c args render hr] at hok ⊢
    exact hflush.snoc (x := .send ⟨.command ⟨"orbitView", args, render⟩, []⟩ _) hok rfl

end Context

/-! ### What operations add -/

/-- The answer was read from this value. -/
def Answer.ReadFrom : Answer → Value → Prop
  | .value w, v => w = v
  | .handle h, v => v = h.argument
  | .location none, v => v = .null
  | .location (some h), v => v = h.argument
  | .status b, v => v.truth = .ok b
  | .text s, v => ∃ op, v.text op = .ok s
  | _, _ => False

/-- The entries that an operation adds to the history. -/
def Performed.Shows (d : Performed) (es : List Issued) : Prop :=
  match d.operation.primitive? with
  | .ok (.exec op args) => es = [⟨.exec op args, none⟩]
  | .ok (.execWithBuffer op args _) => es = [⟨.exec op args, none⟩]
  | .ok (.query op args) => ∃ reply, es = [⟨.query op args, some reply⟩] ∧
      ∀ a, d.result = .ok a → ∃ v, reply = .ok (.queryReply v) ∧ a.ReadFrom v
  | .ok _ => es = []
  | .error v => es = [] ∧ d.result = .error (.protocol v)

/-- The name of the call that a primitive issues. -/
def Primitive.name? : Primitive → Option String
  | .exec op _ => some op
  | .execWithBuffer op _ _ => some op
  | .query op _ => some op
  | _ => none

/-- An entry has the name of the primitive that added it. -/
theorem Performed.Shows.name {d : Performed} {es : List Issued} (h : d.Shows es) {e : Issued}
    (he : e ∈ es) : ∃ p, d.operation.primitive? = .ok p ∧ p.name? = some e.call.op := by
  unfold Shows at h
  cases hp : d.operation.primitive? with
  | error v =>
    -- a refused operation shows no entry
    rw [hp] at h
    obtain ⟨rfl, -⟩ := h
    cases he
  | ok p =>
    rw [hp] at h
    refine ⟨p, rfl, ?_⟩
    cases p with
    | exec op args =>
      obtain rfl : es = [⟨.exec op args, none⟩] := h
      rw [List.mem_singleton.1 he]
      rfl
    | execWithBuffer op args b =>
      obtain rfl : es = [⟨.exec op args, none⟩] := h
      rw [List.mem_singleton.1 he]
      rfl
    | query op args =>
      obtain ⟨reply, rfl, -⟩ := h
      rw [List.mem_singleton.1 he]
      rfl
    | _ =>
      obtain rfl : es = [] := h
      cases he

/-- The entries that operations add one after the other. -/
inductive Performed.ShownBy : List Performed → List Issued → Prop
  | nil : ShownBy [] []
  | cons {d : Performed} {ds : List Performed} {es fs : List Issued} (h : d.Shows es)
    (hrest : ShownBy ds fs) : ShownBy (d :: ds) (es ++ fs)

/-- What two runs of operations add one after the other can be told apart. -/
theorem Performed.ShownBy.split {ds ds' : List Performed} {es : List Issued}
    (h : ShownBy (ds ++ ds') es) : ∃ fs gs, es = fs ++ gs ∧ ShownBy ds fs ∧ ShownBy ds' gs := by
  induction ds generalizing es with
  | nil => exact ⟨[], es, rfl, .nil, h⟩
  | cons d rest ih =>
    cases h with
    | cons hd hrest =>
      obtain ⟨fs, gs, rfl, hfs, hgs⟩ := ih hrest
      exact ⟨_, gs, (List.append_assoc ..).symm, .cons hd hfs, hgs⟩

/-- A single operation adds what it shows. -/
theorem Performed.ShownBy.single {d : Performed} {es : List Issued} (h : ShownBy [d] es) :
    d.Shows es := by
  cases h with
  | cons hd hrest =>
    cases hrest with
    | nil => rwa [List.append_nil]

/-- A handle is taken from the very value that names it as an argument. -/
theorem Handle.eq_argument {v : Value} {h : Handle} (hv : Handle.ofValue v = .ok h) :
    v = h.argument := by
  obtain ⟨j, hj⟩ := v
  unfold ofValue at hv
  split at hv
  next s hs =>
    obtain rfl : j = .string s := hs
    split at hv
    · obtain rfl := Except.ok.inj hv
      rfl
    · cases hv
  next => cases hv

/-- Only the reply to a query delivers a value. -/
theorem Reply.eq_queryReply {r : Except RemoteError Reply} {v : Value}
    (h : r.bind Reply.toValue = .ok v) : r = .ok (.queryReply v) := by
  cases r with
  | error e => cases h
  | ok reply =>
    cases reply with
    | queryReply data => exact congrArg (fun v => Except.ok (Reply.queryReply v)) (Except.ok.inj h)
    | _ => cases h

theorem Value.eq_null {v : Value} (h : v.json = .null) : v = .null := by
  obtain ⟨j, hj⟩ := v
  obtain rfl : j = .null := h
  rfl

namespace Operation

variable {τ : Type} {tr : Transport τ} {c : Context τ} {o : Operation} {op : String}
  {args : List Value}

/-- Save for a query, an operation also fails as its primitive does. -/
theorem perform_of_primitive {p : Primitive} (h : o.primitive? = .ok p)
    (hp : ∀ op args, p ≠ .query op args) : o.perform tr c = p.perform tr c := by
  cases o with
  | primitive p' => cases h; rfl
  | getUniformLocation program name =>
    exact absurd (getUniformLocation_of_ok h).2 (hp _ _)
  | shaderSource shader source =>
    obtain ⟨hsource, rfl⟩ := shaderSource_of_ok h
    rw [perform, Primitive.perform, answering_apply, answering_apply,
      shaderSource_of_plain tr shader hsource]
  | createShader stage => cases h; exact absurd rfl (hp _ _)
  | createProgram => cases h; exact absurd rfl (hp _ _)
  | shaderParameter shader name => cases h; exact absurd rfl (hp _ _)
  | programParameter program name => cases h; exact absurd rfl (hp _ _)
  | shaderInfoLog shader => cases h; exact absurd rfl (hp _ _)
  | programInfoLog program => cases h; exact absurd rfl (hp _ _)
  | _ => cases h; rfl

/-- Where an answer is delivered, the action behind it succeeded. -/
theorem result_of_answering {α : Type} {f : α → Answer} {x : Context.Remote τ α} {a : Answer}
    (h : (answering f x c).result = .ok a) : ∃ b, (x c).result = .ok b ∧ a = f b := by
  rw [answering_apply] at h
  cases hr : (x c).result with
  | error e =>
    rw [hr] at h
    cases h
  | ok b =>
    rw [hr] at h
    exact ⟨b, rfl, (Except.ok.inj h).symm⟩

/-- Where a check let something through, there was a value that passed it. -/
theorem result_of_checked {α β : Type} {x : Context.Remote τ α} {r : α → Except Violation β}
    {b : β} (h : ((x >>= fun v => Context.checked (r v)) c).result = .ok b) :
    ∃ v, (x c).result = .ok v ∧ r v = .ok b := by
  cases hr : (x c).result with
  | error e =>
    rw [Action.bind_of_error hr] at h
    cases h
  | ok v =>
    rw [Action.bind_of_ok hr] at h
    cases hv : r v with
    | error e =>
      rw [hv] at h
      cases h
    | ok b' =>
      rw [hv] at h
      exact ⟨v, rfl, hv.trans (congrArg Except.ok (Except.ok.inj h))⟩

/-- A location is read from the answer to the query: none from `null`, and a handle from its key. -/
theorem result_of_location {program : Handle} {name : String} {text : Value}
    (hname : literal name = .ok text) {location : Option Handle}
    (h : (Context.getUniformLocation tr program name c).result = .ok location) :
    ∃ v, (Context.query tr "getUniformLocation" [program.argument, text] c).result = .ok v ∧
      (Answer.location location).ReadFrom v := by
  unfold Context.getUniformLocation at h
  rw [checked_bind_of_ok hname] at h
  cases hr : (Context.query tr "getUniformLocation" [program.argument, text] c).result with
  | error e =>
    rw [Action.bind_of_error hr] at h
    cases h
  | ok v =>
    rw [Action.bind_of_ok hr] at h
    refine ⟨v, rfl, ?_⟩
    dsimp only at h
    cases hj : v.json with
    | null =>
      rw [hj] at h
      obtain rfl : none = location := Except.ok.inj h
      exact Value.eq_null hj
    | _ =>
      -- the answer is no `null`, so it was taken for a handle
      rw [hj] at h
      dsimp only at h
      cases hv : Handle.ofValue v with
      | error e =>
        rw [checked_bind_of_error hv] at h
        cases h
      | ok handle =>
        rw [checked_bind_of_ok hv] at h
        obtain rfl : some handle = location := Except.ok.inj h
        exact Handle.eq_argument hv

/-- What a query delivers was read from the value of its reply. -/
theorem readFrom_of_query (h : o.primitive? = .ok (.query op args)) {a : Answer}
    (ha : (o.perform tr c).result = .ok a) :
    ∃ v, (Context.query tr op args c).result = .ok v ∧ a.ReadFrom v := by
  cases o with
  | primitive p =>
    cases h
    obtain ⟨v, hv, rfl⟩ := result_of_answering ha
    exact ⟨v, hv, rfl⟩
  | getUniformLocation program name =>
    obtain ⟨hname, heq⟩ := getUniformLocation_of_ok h
    cases heq
    obtain ⟨location, hlocation, rfl⟩ := result_of_answering ha
    exact result_of_location (literal_of_plain hname) hlocation
  | shaderSource shader source => cases (shaderSource_of_ok h).2
  -- a handle, a status or a text, by the check that goes with it
  | createShader stage =>
    cases h
    obtain ⟨handle, hhandle, rfl⟩ := result_of_answering ha
    obtain ⟨v, hv, hread⟩ := result_of_checked hhandle
    exact ⟨v, hv, Handle.eq_argument hread⟩
  | createProgram =>
    cases h
    obtain ⟨handle, hhandle, rfl⟩ := result_of_answering ha
    obtain ⟨v, hv, hread⟩ := result_of_checked hhandle
    exact ⟨v, hv, Handle.eq_argument hread⟩
  | shaderParameter shader name =>
    cases h
    obtain ⟨b, hb, rfl⟩ := result_of_answering ha
    exact result_of_checked hb
  | programParameter program name =>
    cases h
    obtain ⟨b, hb, rfl⟩ := result_of_answering ha
    exact result_of_checked hb
  | shaderInfoLog shader =>
    cases h
    obtain ⟨s, hs, rfl⟩ := result_of_answering ha
    obtain ⟨v, hv, hread⟩ := result_of_checked hs
    exact ⟨v, hv, _, hread⟩
  | programInfoLog program =>
    cases h
    obtain ⟨s, hs, rfl⟩ := result_of_answering ha
    obtain ⟨v, hv, hread⟩ := result_of_checked hs
    exact ⟨v, hv, _, hread⟩
  | _ => cases h

end Operation

namespace Context

variable {tr : Transport σ} {c c' : Context (Observed σ)} {d : Performed}

/-- **An operation adds to the history what it shows**, whether it succeeds or fails. -/
theorem history_performed (h : d.Does tr.observed c c') :
    ∃ es, c'.history = c.history ++ es ∧ d.Shows es := by
  obtain ⟨hresult, rfl⟩ := h
  unfold Performed.Shows
  cases hp : d.operation.primitive? with
  | error v =>
    -- a refused operation adds none
    rw [← hresult, Operation.perform_of_error _ hp]
    exact ⟨[], (List.append_nil _).symm, rfl, rfl⟩
  | ok p =>
    rw [(Operation.perform_of_ok _ hp c).1]
    cases p with
    | exec op args =>
      rw [Primitive.perform, state_answering]
      exact ⟨_, history_exec tr c op args, rfl⟩
    | execWithBuffer op args b =>
      rw [Primitive.perform, state_answering, execWithBuffer_apply]
      exact ⟨_, history_exec tr (c.withBuffer b) op args, rfl⟩
    | query op args =>
      rw [Primitive.perform, state_answering]
      refine ⟨_, history_query tr c op args, _, rfl, fun a ha => ?_⟩
      -- the query succeeded, and so its reply is a value
      obtain ⟨v, hv, hread⟩ := Operation.readFrom_of_query hp (hresult.trans ha)
      refine ⟨v, ?_, hread⟩
      rw [query_apply] at hv
      exact Reply.eq_queryReply hv
    | flush =>
      rw [Primitive.perform, state_answering, history_flush]
      exact ⟨[], (List.append_nil _).symm, rfl⟩
    | fetchConstants =>
      rw [Primitive.perform, state_answering, history_fetchConstants]
      exact ⟨[], (List.append_nil _).symm, rfl⟩
    | fetchMethods =>
      rw [Primitive.perform, state_answering, history_fetchMethods]
      exact ⟨[], (List.append_nil _).symm, rfl⟩
    | orbitView args render =>
      rw [Primitive.perform, state_answering, history_orbitView]
      exact ⟨[], (List.append_nil _).symm, rfl⟩
    | beginChunk => exact ⟨[], (List.append_nil _).symm, rfl⟩
    | endChunk =>
      rw [Primitive.perform, state_answering, history_endChunk]
      exact ⟨[], (List.append_nil _).symm, rfl⟩

/-- **A run adds to the history what its operations show**, in their order. -/
theorem history_path {ds : List Performed} (h : Path (Performed.Does tr.observed) ds c c') :
    ∃ es, c'.history = c.history ++ es ∧ Performed.ShownBy ds es := by
  induction ds generalizing c with
  | nil =>
    obtain rfl : c = c' := h
    exact ⟨[], (List.append_nil _).symm, .nil⟩
  | cons d rest ih =>
    obtain ⟨m, hd, hrest⟩ := h
    obtain ⟨es, hes, hshows⟩ := history_performed hd
    obtain ⟨fs, hfs, hshown⟩ := ih hrest
    exact ⟨es ++ fs, by rw [hfs, hes, List.append_assoc], .cons hshows hshown⟩

/-- **An operation that succeeds used the transport without a failure.** -/
theorem Clean.performed (h : c.Clean) (hd : d.Does tr.observed c c') {a : Answer}
    (ha : d.result = .ok a) : c'.Clean := by
  obtain ⟨hresult, rfl⟩ := hd
  have hok := hresult.trans ha
  cases hp : d.operation.primitive? with
  | error v =>
    rw [Operation.perform_of_error _ hp] at hok
    cases hok
  | ok p =>
    rw [(Operation.perform_of_ok _ hp c).1]
    -- a query that is answered may still fail in its check, so it is looked at apart
    by_cases hquery : ∃ op args, p = .query op args
    · obtain ⟨op, args, rfl⟩ := hquery
      obtain ⟨v, hv, -⟩ := Operation.readFrom_of_query hp hok
      rw [Primitive.perform, state_answering]
      exact Clean.query tr h hv
    · rw [Operation.perform_of_primitive hp fun op args hq => hquery ⟨op, args, hq⟩] at hok
      cases p with
      | query op args => exact absurd ⟨op, args, rfl⟩ hquery
      -- the transport is not used
      | beginChunk => exact h
      | exec op args =>
        obtain ⟨u, hu, -⟩ := Operation.result_of_answering hok
        rw [Primitive.perform, state_answering]
        exact Clean.exec tr h hu
      | execWithBuffer op args b =>
        obtain ⟨u, hu, -⟩ := Operation.result_of_answering hok
        rw [Primitive.perform, state_answering, execWithBuffer_apply]
        exact Clean.exec tr (c := c.withBuffer b) h hu
      | flush =>
        obtain ⟨u, hu, -⟩ := Operation.result_of_answering hok
        rw [Primitive.perform, state_answering]
        exact Clean.flush tr h hu
      | fetchConstants =>
        obtain ⟨u, hu, -⟩ := Operation.result_of_answering hok
        rw [Primitive.perform, state_answering]
        exact Clean.fetchConstants tr h hu
      | fetchMethods =>
        obtain ⟨u, hu, -⟩ := Operation.result_of_answering hok
        rw [Primitive.perform, state_answering]
        exact Clean.fetchMethods tr h hu
      | orbitView args render =>
        obtain ⟨u, hu, -⟩ := Operation.result_of_answering hok
        rw [Primitive.perform, state_answering]
        exact Clean.orbitView tr h hu
      | endChunk =>
        obtain ⟨u, hu, -⟩ := Operation.result_of_answering hok
        rw [Primitive.perform, state_answering]
        exact Clean.endChunk tr h hu

end Context

end GlBridge
