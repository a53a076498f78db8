import GlBridge.Proofs.Remote.Buffers
import GlBridge.Proofs.Remote.History
import GlBridge.Proofs.Remote.Queue
import GlBridge.Remote.DryRun

/-!
# One message for each outermost chunk

Between the beginning of an outermost chunk and its end a context only takes notes. Calls for their
effect are queued, chunks inside it are counted, and the transport is not used. The end
hands everything over that was queued, as one message, and hands over nothing if nothing was
queued. The main statement is `chunk_sends_once`.

`Operation.IsChunk` says of a list of operations that it is one outermost chunk, by the count of
open chunks along the list. Every operation but the last one then ends inside a chunk, and
this is all that is needed to know what it does: it succeeds, unless its argument is refused, and
leaves the context with its call, its buffer and its bracket noted (`perform_inside`). The end that
is left over begins at depth one, so it is a flush of what was noted.
-/

namespace GlBridge

variable {σ : Type}

/-! ### Chunks as lists of operations -/

/-- The primitives that make up a chunk: calls for their effect, and chunks inside it. -/
def Primitive.isQueued : Primitive → Bool
  | .exec _ _ | .execWithBuffer _ _ _ | .beginChunk | .endChunk => true
  | .query _ _ | .flush | .fetchConstants | .fetchMethods | .orbitView _ _ => false

/-- The call that a primitive leaves in the queue. -/
def Primitive.call? : Primitive → Option Instruction
  | .exec op args => some (.exec op args)
  | .execWithBuffer op args _ => some (.exec op args)
  | _ => none

namespace Operation

/-- The operations that make up a chunk, whether or not their arguments are refused. -/
def isQueued : Operation → Bool
  | .primitive p => p.isQueued
  | .useProgram _ | .uniformMatrix _ _ | .shaderSource _ _ | .compileShader _ | .attachShader _ _ |
    .linkProgram _ | .deleteShader _ => true
  | _ => false

/-- The call that an operation leaves in the queue; none if its argument is refused. -/
def call? (o : Operation) : Option Instruction :=
  match o.primitive? with
  | .ok p => p.call?
  | .error _ => none

/-- What an operation inside a chunk results in, which is up to its arguments alone. -/
def outcome (o : Operation) : Except RemoteError Answer :=
  match o.primitive? with
  | .ok _ => .ok .done
  | .error v => .error (.protocol v)

/-- The number of open chunks after an operation, counted as for steps. -/
def depthAfter (depth : Nat) (o : Operation) : Nat := (Step.operation o).depthAfter depth

/-- The number of chunks that operations leave open. -/
def openChunks (os : List Operation) : Nat := os.foldl depthAfter 0

/-- The operations are one outermost chunk, with whatever chunks and calls inside it: they
start with its beginning, and no chunk is open after the last of them but not before. -/
structure IsChunk (os : List Operation) : Prop where
  queued : ∀ o ∈ os, o.isQueued = true
  starts : os.head? = some (.primitive .beginChunk)
  inside : ∀ n, n < os.length → 0 < n → 0 < openChunks (os.take n)
  closed : openChunks os = 0

/-! ### The operation behind the primitive -/

variable {o : Operation}

/-- An operation that is queued comes down to a primitive that is queued. -/
theorem isQueued_primitive (h : o.isQueued = true) {p : Primitive} (hp : o.primitive? = .ok p) :
    p.isQueued = true := by
  cases o with
  | primitive q => cases hp; exact h
  | shaderSource shader source =>
    obtain ⟨-, rfl⟩ := shaderSource_of_ok hp
    rfl
  | useProgram program => cases hp; rfl
  | uniformMatrix location m => cases hp; rfl
  | compileShader shader => cases hp; rfl
  | attachShader program shader => cases hp; rfl
  | linkProgram program => cases hp; rfl
  | deleteShader shader => cases hp; rfl
  -- the others ask for something, and are not queued
  | _ => cases h

/-- An operation counts for the depth as its primitive does. -/
theorem depthAfter_primitive {p : Primitive} (hp : o.primitive? = .ok p) (depth : Nat) :
    o.depthAfter depth = depthAfter depth (.primitive p) := by
  cases o with
  | primitive q => cases hp; rfl
  | shaderSource shader source =>
    obtain ⟨-, rfl⟩ := shaderSource_of_ok hp
    rfl
  | getUniformLocation program name =>
    obtain ⟨-, rfl⟩ := getUniformLocation_of_ok hp
    rfl
  | _ => cases hp; rfl

/-- An operation that is refused has no buffer and is no bracket. -/
theorem notes_of_refused {v : Violation} (h : o.primitive? = .error v) :
    o.buffer? = none ∧ ∀ depth, o.depthAfter depth = depth := by
  cases o with
  -- only texts are refused, and they are sent without a buffer
  | shaderSource shader source => exact ⟨rfl, fun _ => rfl⟩
  | getUniformLocation program name => exact ⟨rfl, fun _ => rfl⟩
  | _ => cases h

end Operation

/-! ### Inside a chunk -/

namespace Context

/-- The context with what operations inside a chunk leave in it: their calls and buffers behind
those that were held, and their brackets counted. -/
def noting (c : Context σ) (os : List Operation) : Context σ :=
  { c with
    pending := c.pending ++ os.filterMap Operation.call?
    buffers := c.buffers ++ os.filterMap Operation.buffer?
    depth := os.foldl Operation.depthAfter c.depth }

/-- No operation, no note. -/
theorem noting_nil (c : Context σ) : c.noting [] = c := by
  unfold noting
  rw [List.filterMap_nil, List.filterMap_nil, List.append_nil, List.append_nil, List.foldl_nil]

/-- Notes are taken one after the other. -/
theorem noting_cons (c : Context σ) (o : Operation) (rest : List Operation) :
    c.noting (o :: rest) = (c.noting [o]).noting rest := by
  have hsplit : o :: rest = [o] ++ rest := rfl
  unfold noting
  rw [hsplit, List.filterMap_append, List.filterMap_append, List.foldl_append,
    List.append_assoc, List.append_assoc]

/-- An operation that queues nothing is at most a bracket. -/
theorem noting_of_unqueued (c : Context σ) {o : Operation} (hcall : o.call? = none)
    (hbuffer : o.buffer? = none) : c.noting [o] = { c with depth := o.depthAfter c.depth } := by
  unfold noting
  rw [List.filterMap_cons_none hcall, List.filterMap_cons_none hbuffer, List.filterMap_nil,
    List.filterMap_nil, List.append_nil, List.append_nil, List.foldl_cons, List.foldl_nil]

/-- A call is noted where it would be queued. -/
theorem noting_exec (c : Context σ) (op : String) (args : List Value) :
    c.noting [.primitive (.exec op args)] = c.queued (.exec op args) := by
  have hbuffer : (Operation.primitive (.exec op args)).buffer? = none := rfl
  unfold noting
  rw [List.filterMap_cons_none hbuffer, List.filterMap_nil, List.append_nil]
  rfl

end Context

/-- **A primitive that ends inside a chunk only leaves a note.** -/
theorem Primitive.perform_inside (tr : Transport σ) {p : Primitive} {c : Context σ}
    (hp : p.isQueued = true) (hdepth : 0 < Operation.depthAfter c.depth (.primitive p)) :
    (p.perform tr c).result = .ok .done ∧
      (p.perform tr c).state = c.noting [.primitive p] := by
  cases p with
  | exec op args =>
    -- a call is held, since it neither opens nor closes a chunk and so began inside one
    have hinside : c.depth ≠ 0 := Nat.ne_of_gt hdepth
    rw [perform, answering_apply, Context.exec_of_inside tr c op args hinside, c.noting_exec]
    exact ⟨rfl, rfl⟩
  | execWithBuffer op args b =>
    have hinside : (c.withBuffer b).depth ≠ 0 := Nat.ne_of_gt hdepth
    rw [perform, answering_apply, Context.execWithBuffer_apply,
      Context.exec_of_inside tr _ op args hinside]
    exact ⟨rfl, rfl⟩
  | beginChunk =>
    rw [c.noting_of_unqueued rfl rfl]
    exact ⟨rfl, rfl⟩
  | endChunk =>
    -- the chunk that ends is not the outermost one, or its end would not be inside a chunk
    obtain ⟨depth, hd⟩ : ∃ depth, c.depth = depth + 2 := by
      have hopen : 0 < c.depth - 1 := hdepth
      exact ⟨c.depth - 2, by omega⟩
    have hafter : Operation.depthAfter c.depth (.primitive .endChunk) = depth + 1 := by
      rw [hd]
      rfl
    rw [perform, answering_apply, Context.endChunk_of_more tr c hd, c.noting_of_unqueued rfl rfl,
      hafter]
    exact ⟨rfl, rfl⟩
  | _ => cases hp

namespace Operation

variable (tr : Transport σ)

/-- An operation leaves the note that its primitive leaves. -/
theorem noting_primitive {o : Operation} {p : Primitive} (hp : o.primitive? = .ok p)
    (c : Context σ) : c.noting [.primitive p] = c.noting [o] := by
  have hcall : (primitive p).call? = o.call? := by
    rw [call?, call?, hp]
    rfl
  have hbuffer : (primitive p).buffer? = o.buffer? := buffer_primitive hp
  have hdepth : depthAfter c.depth (.primitive p) = o.depthAfter c.depth :=
    (depthAfter_primitive hp c.depth).symm
  unfold Context.noting
  simp only [List.filterMap_cons, List.filterMap_nil, List.foldl_cons, List.foldl_nil, hcall,
    hbuffer, hdepth]

/-- **An operation that ends inside a chunk only leaves a note**, and it depends on its
arguments alone whether it succeeds. -/
theorem perform_inside {o : Operation} {c : Context σ} (ho : o.isQueued = true)
    (hdepth : 0 < o.depthAfter c.depth) :
    (o.perform tr c).result = o.outcome ∧ (o.perform tr c).state = c.noting [o] := by
  cases hp : o.primitive? with
  | error v =>
    obtain ⟨hbuffer, hafter⟩ := notes_of_refused hp
    have hcall : o.call? = none := by rw [call?, hp]
    have houtcome : o.outcome = .error (.protocol v) := by rw [outcome, hp]
    rw [perform_of_error tr hp, c.noting_of_unqueued hcall hbuffer, hafter, houtcome]
    exact ⟨rfl, rfl⟩
  | ok p =>
    have hqueued : p.isQueued = true := isQueued_primitive ho hp
    -- a query would not have been queued
    have hquery : ∀ op args, p ≠ .query op args := by
      rintro op args rfl
      cases hqueued
    have houtcome : o.outcome = .ok .done := by rw [outcome, hp]
    rw [depthAfter_primitive hp] at hdepth
    rw [perform_of_primitive hp hquery, houtcome, ← noting_primitive hp]
    exact Primitive.perform_inside tr hqueued hdepth

/-- Operations leave nothing but notes as long as each of them ends inside a chunk. -/
theorem session_inside {os : List Operation} {c : Context σ} (hqueued : ∀ o ∈ os, o.isQueued = true)
    (hinside : ∀ n, n ≤ os.length → 0 < n → 0 < (os.take n).foldl depthAfter c.depth) :
    (session tr os c).results = os.map outcome ∧ (session tr os c).state = c.noting os := by
  unfold session
  induction os generalizing c with
  | nil => exact ⟨rfl, c.noting_nil.symm⟩
  | cons o rest ih =>
    -- the first operation is a list of one, and its depth is where the others begin
    have hfirst : 0 < o.depthAfter c.depth := hinside 1 (by simp) Nat.one_pos
    obtain ⟨hresult, hstate⟩ := perform_inside tr (hqueued o List.mem_cons_self) hfirst
    have hrest : ∀ n, n ≤ rest.length → 0 < n →
        0 < (rest.take n).foldl depthAfter (c.noting [o]).depth := by
      intro n hn _
      have hlonger := hinside (n + 1) (Nat.succ_le_succ hn) n.succ_pos
      rwa [List.take_succ_cons, List.foldl_cons] at hlonger
    obtain ⟨hresults, hlast⟩ :=
      ih (c := c.noting [o]) (fun o' ho' => hqueued o' (List.mem_cons_of_mem o ho')) hrest
    rw [List.map_cons, Action.session_cons, hresult, hstate, hresults, hlast]
    exact ⟨rfl, (c.noting_cons o rest).symm⟩

/-! ### The end of the outermost chunk -/

/-- Only an end closes the last open chunk. -/
theorem eq_endChunk_of_closes {o : Operation} {depth : Nat} (hopen : 0 < depth)
    (hclosed : o.depthAfter depth = 0) : o = .primitive .endChunk ∧ depth = 1 := by
  -- an operation that is no bracket leaves the depth as it is, and so above zero
  have hkept : o.depthAfter depth ≠ depth := fun h => absurd (h.symm.trans hclosed) (Nat.ne_of_gt hopen)
  cases o with
  | primitive p =>
    cases p with
    | beginChunk => exact absurd hclosed (Nat.succ_ne_zero depth)
    | endChunk =>
      have hlast : depth - 1 = 0 := hclosed
      exact ⟨rfl, by omega⟩
    | _ => exact absurd rfl hkept
  | _ => exact absurd rfl hkept

/-- **A chunk is what stays inside, and then its end.** -/
theorem IsChunk.split {os : List Operation} (h : IsChunk os) :
    os = os.dropLast ++ [.primitive .endChunk] ∧ openChunks os.dropLast = 1 := by
  have hne : os ≠ [] := by
    rintro rfl
    cases h.starts
  have hsplit : os.dropLast ++ [os.getLast hne] = os := List.dropLast_append_getLast hne
  have hclosed : (os.getLast hne).depthAfter (openChunks os.dropLast) = 0 := by
    have hall := h.closed
    rwa [← hsplit, openChunks, List.foldl_append] at hall
  -- the last operation is not the first one, which is a beginning and closes nothing
  have hlong : 0 < os.length - 1 := by
    by_contra hshort
    obtain ⟨o, rfl⟩ : ∃ o, os = [o] := by
      have hlength : os.length ≠ 0 := fun h0 => hne (List.length_eq_zero_iff.1 h0)
      exact List.length_eq_one_iff.1 (by omega)
    obtain rfl : o = .primitive .beginChunk := Option.some.inj h.starts
    exact absurd h.closed Nat.one_ne_zero
  have hopen : 0 < openChunks os.dropLast := by
    rw [List.dropLast_eq_take]
    exact h.inside _ (by omega) hlong
  obtain ⟨hend, hone⟩ := eq_endChunk_of_closes hopen hclosed
  exact ⟨by rw [← hend, hsplit], hone⟩

/-- Every part of a chunk from its beginning ends inside it, save for the whole. -/
theorem IsChunk.session_take {os : List Operation} (h : IsChunk os) {c : Context σ}
    (hdepth : c.depth = 0) {n : Nat} (hn : n < os.length) :
    (session tr (os.take n) c).results = (os.take n).map outcome ∧
      (session tr (os.take n) c).state = c.noting (os.take n) := by
  refine session_inside tr (fun o ho => h.queued o (List.mem_of_mem_take ho)) ?_
  intro m hm hpos
  have hshort : m ≤ n := Nat.le_trans hm (List.length_take_le n os)
  have hopen : 0 < openChunks (os.take m) := h.inside m (Nat.lt_of_le_of_lt hshort hn) hpos
  rwa [List.take_take, Nat.min_eq_left hshort, hdepth]

/-- Where there is no call there is no buffer. -/
theorem buffer_of_uncalled {o : Operation} (h : o.call? = none) : o.buffer? = none := by
  cases o with
  | primitive p =>
    cases p with
    | execWithBuffer op args b => cases h
    | _ => rfl
  | uniformMatrix location m => cases h
  | _ => rfl

/-- **A chunk comes down to one flush**, of what was noted along the way. -/
theorem IsChunk.session_eq_flush {os : List Operation} (h : IsChunk os) {c : Context σ}
    (hdepth : c.depth = 0) (hdrained : c.Drained) :
    let out := Context.flush tr
      { c with pending := os.filterMap call?, buffers := os.filterMap buffer? }
    (session tr os c).results = os.dropLast.map outcome ++ [out.result.map fun _ => .done] ∧
      (session tr os c).state = out.state := by
  intro out
  obtain ⟨hsplit, hone⟩ := h.split
  have hlength : os.length - 1 < os.length := by
    have hpos : 0 < os.length := by
      rw [hsplit, List.length_append]
      exact Nat.succ_pos _
    omega
  obtain ⟨hresults, hstate⟩ := h.session_take tr hdepth hlength
  rw [← List.dropLast_eq_take] at hresults hstate
  -- the end begins at depth one, with everything noted
  have hd : (c.noting os.dropLast).depth = 1 := by
    have hfold : os.dropLast.foldl depthAfter 0 = 1 := hone
    rw [← hdepth] at hfold
    exact hfold
  have hcalls : os.dropLast.filterMap call? = os.filterMap call? := by
    conv_rhs => rw [hsplit, List.filterMap_append]
    exact (List.append_nil _).symm
  have hbuffers : os.dropLast.filterMap buffer? = os.filterMap buffer? := by
    conv_rhs => rw [hsplit, List.filterMap_append]
    exact (List.append_nil _).symm
  have hnoted : { c.noting os.dropLast with depth := 0 } =
      { c with pending := os.filterMap call?, buffers := os.filterMap buffer? } := by
    unfold Context.noting
    rw [hcalls, hbuffers, hdrained.pending, hdrained.buffers, List.nil_append, List.nil_append,
      ← hdepth]
  have hend : (primitive .endChunk).perform tr (c.noting os.dropLast) =
      ⟨out.result.map fun _ => .done, out.state, out.events⟩ := by
    rw [perform, Primitive.perform, answering_apply, Context.endChunk_of_one tr _ hd, hnoted]
  have hsession : session tr os c = Action.session
      (os.dropLast.map (perform tr) ++ [(primitive .endChunk).perform tr]) c := by
    conv_lhs => rw [hsplit]
    rw [session, List.map_append]
    rfl
  rw [session] at hresults hstate
  rw [hsession, Action.session_append, hresults, hstate, Action.session_cons, hend]
  exact ⟨rfl, rfl⟩

end Operation

/-! ### The message -/

/-- **One message for each outermost chunk.** Take a context that any steps led to and that is
outside of chunks, over any transport, and one outermost chunk of any length and nesting. Before
its last operation the transport is not used, and each operation succeeds unless its argument is
refused. The last operation is the end. If no call was queued, it uses the transport neither;
otherwise it sends the calls that were not refused, in their order and with all their buffers, in
one message, and results in what the transport makes of it. -/
theorem chunk_sends_once (tr : Transport σ) (config : Config) (t : σ) (history : List Step)
    (os : List Operation)
    (hidle : (Step.session tr history (Context.start config t)).state.depth = 0)
    (hchunk : Operation.IsChunk os) :
    let c := (Step.session tr history (Context.start config t)).state
    let calls := os.filterMap Operation.call?
    let buffers := os.filterMap Operation.buffer?
    let sent := tr.send (.exec calls) buffers c.transport
    let observed := Operation.session tr.observed os c.underObservation
    os = os.dropLast ++ [.primitive .endChunk] ∧
      (∀ n, n < os.length →
        (Operation.session tr.observed (os.take n) c.underObservation).state.transport.exchanges =
            [] ∧
          (Operation.session tr (os.take n) c).results = (os.take n).map Operation.outcome) ∧
      (calls = [] → observed.state.transport.exchanges = [] ∧
        (Operation.session tr os c).results = os.dropLast.map Operation.outcome ++ [.ok .done] ∧
        (Operation.session tr os c).state = c) ∧
      (calls ≠ [] →
        observed.state.transport.exchanges = [.send ⟨.exec calls, buffers⟩ sent.1] ∧
        (Operation.session tr os c).results =
          os.dropLast.map Operation.outcome ++ [sent.1.map fun _ => .done] ∧
        (Operation.session tr os c).state = c.withTransport sent.2) := by
  intro c calls buffers sent observed
  have hsettled : c.Settled := Step.settled_session tr history (Context.settled_start config t)
  have hdrained : c.Drained := hsettled.drained hidle
  have hdrained' : c.underObservation.Drained := ⟨hdrained.pending, hdrained.buffers⟩
  obtain ⟨hresults, hstate⟩ := hchunk.session_eq_flush tr hidle hdrained
  -- the same under observation, where the state tells what the transport was handed
  obtain ⟨-, hobserved⟩ :=
    hchunk.session_eq_flush tr.observed (c := c.underObservation) hidle hdrained'
  refine ⟨hchunk.split.1, fun n hn => ⟨?_, (hchunk.session_take tr hidle hn).1⟩, ?_, ?_⟩
  · rw [(hchunk.session_take tr.observed (c := c.underObservation) hidle hn).2]
    rfl
  · intro hnone
    have hbuffers : buffers = [] := by
      refine List.filterMap_eq_nil_iff.2 fun o ho => ?_
      exact Operation.buffer_of_uncalled (List.filterMap_eq_nil_iff.1 hnone o ho)
    have hc : { c with pending := calls, buffers := buffers } = c := by
      rw [hnone, hbuffers]
      exact congrArg₂ (fun p b => { c with pending := p, buffers := b }) hdrained.pending.symm
        hdrained.buffers.symm
    rw [Context.flush_of_empty _ _ hnone] at hresults hstate hobserved
    refine ⟨?_, hresults, hstate.trans hc⟩
    exact congrArg (fun c => c.transport.exchanges) hobserved
  · intro hsome
    rw [Context.flush_of_held _ _ hsome] at hresults hstate hobserved
    refine ⟨congrArg (fun c => c.transport.exchanges) hobserved, hresults, hstate.trans ?_⟩
    exact congrArg₂ (fun p b => (⟨sent.2, c.config, p, b, c.depth, c.constants⟩ : Context σ))
      hdrained.pending.symm hdrained.buffers.symm

/-- A chunk in a chunk, with a source that is refused, a call with a buffer and one without. -/
theorem chunk_sends_once_nested :
    let os : List Operation := [.primitive .beginChunk, .shaderSource ⟨"key1", rfl⟩ "key2",
      .primitive .beginChunk, .primitive (.execWithBuffer "bufferData" [] [1, 2]),
      .primitive .endChunk, .compileShader ⟨"key1", rfl⟩, .primitive .endChunk]
    Operation.IsChunk os ∧
      (Operation.session DryRun.transport.observed os
        (Context.start {} DryRun.start).underObservation).state.transport.exchanges =
        [.send ⟨.exec [.exec "bufferData" [], .exec "compileShader" [.string "key1"]], [[1, 2]]⟩
          (.ok ())] := by
  intro os
  have hchunk : Operation.IsChunk os := ⟨by decide, rfl, by decide, rfl⟩
  have hcalls : os.filterMap Operation.call? ≠ [] := List.cons_ne_nil _ _
  have hsends := chunk_sends_once DryRun.transport {} DryRun.start [] os rfl hchunk
  exact ⟨hchunk, (hsends.2.2.2 hcalls).1⟩

end GlBridge
