import GlBridge.Proofs.Device.Correspondence
import GlBridge.Proofs.Remote.Operation
import GlBridge.Studio.Demo

/-!
# Steps over a context

A `Step` is an operation of a context or one of the programs that are made of operations and
decide what to do next by the answers they get: the two shader builders and the demonstration.
A list of steps carried out by `Step.session` is a use of a context whose course depends on its
executor.

`Context.Matches` says that the primitives of two contexts match, and then every step
does (`Context.Matches.step`).
-/

namespace GlBridge

variable {σ τ : Type}

/-- A context on which nothing was done yet. -/
def Context.start (config : Config) (t : σ) : Context σ := { transport := t, config }

/-- What can be done with a context. -/
inductive Step where
  | operation (o : Operation)
  | makeShader (source : String) (stage : Stage)
  | makeProgram (vertex fragment : String)
  | demo (vertex fragment : String)

/-- What a step delivers. -/
inductive StepAnswer where
  | answer (a : Answer)
  | shader (h : Handle)
  | linked (l : LinkedProgram Handle Handle)
  | shown

/-- Why a step failed. -/
inductive StepError where
  | remote (e : RemoteError)
  | shader (e : ShaderError RemoteError)
  | demo (e : Studio.DemoError)

namespace Step

/-- Carries out a step. -/
def perform (tr : Transport σ) : Step → Action (Context σ) StepError StepAnswer
  | .operation o => do return .answer (← (o.perform tr).mapError .remote)
  | .makeShader source stage => do
    return .shader (← ((Context.gl tr).makeShader source stage).mapError .shader)
  | .makeProgram vertex fragment => do
    return .linked (← ((Context.gl tr).makeProgram vertex fragment).mapError .shader)
  | .demo vertex fragment => do
    (Studio.run tr vertex fragment).mapError .demo
    return .shown

/-- Carries out steps one after the other, whether they succeed or not. -/
def session (tr : Transport σ) (steps : List Step) (c : Context σ) :
    Session (Context σ) StepError StepAnswer :=
  Action.session (steps.map (perform tr)) c

/-- The state that a step of one operation leaves is that of the operation. -/
theorem state_operation (tr : Transport σ) (o : Operation) (c : Context σ) :
    ((operation o).perform tr c).state = (o.perform tr c).state := by
  change (((o.perform tr).mapError StepError.remote >>= fun a =>
    pure (StepAnswer.answer a)) c).state = _
  rw [Action.bind_apply, Action.mapError_apply]
  cases (o.perform tr c).result <;> rfl

/-- The steps that only say when queued calls are sent: opening a chunk, closing one, and
sending at once. -/
def isBatching : Step → Bool
  | .operation (.primitive .beginChunk) => true
  | .operation (.primitive .endChunk) => true
  | .operation (.primitive .flush) => true
  | _ => false

end Step

/-! ### Contexts whose primitives match -/

/-- The primitives of two contexts match. -/
structure Context.Matches (K : Correspondence (Context σ) (Context τ)) (tr : Transport σ)
    (tr' : Transport τ) : Prop where
  exec : ∀ op args, K.Matches (Context.exec tr op args) (Context.exec tr' op args)
  execWithBuffer : ∀ op args buffer,
    K.Matches (Context.execWithBuffer tr op args buffer) (Context.execWithBuffer tr' op args buffer)
  query : ∀ op args, K.Matches (Context.query tr op args) (Context.query tr' op args)
  flush : K.Matches (Context.flush tr) (Context.flush tr')
  fetchConstants : K.Matches (Context.fetchConstants tr) (Context.fetchConstants tr')
  fetchMethods : K.Matches (Context.fetchMethods tr) (Context.fetchMethods tr')
  orbitView : ∀ args render,
    K.Matches (Context.orbitView tr args render) (Context.orbitView tr' args render)
  beginChunk : ∀ level s t, K.MatchesFrom level (level + 1) s t
    (Action.modify Context.beginChunk : Context.Remote σ Unit) (Action.modify Context.beginChunk)
  endChunk : ∀ level s t,
    K.MatchesFrom (level + 1) level s t (Context.endChunk tr) (Context.endChunk tr')

namespace Context.Matches

variable {K : Correspondence (Context σ) (Context τ)} {tr : Transport σ} {tr' : Transport τ}

/-- A query whose answer is taken for something matches, since both runs get one answer. -/
theorem queryChecked (h : Context.Matches K tr tr') {α : Type} (op : String) (args : List Value)
    (r : Value → Except Violation α) :
    K.Matches (Context.query tr op args >>= fun v => Context.checked (r v))
      (Context.query tr' op args >>= fun v => Context.checked (r v)) :=
  (h.query op args).bind fun _ => Correspondence.matches_ofExcept _

/-- The contexts match as devices. -/
theorem gl (h : Context.Matches K tr tr') : (Context.gl tr).Matches K (Context.gl tr') where
  createShader _ := h.queryChecked _ _ _
  createProgram := h.queryChecked _ _ _
  shaderSource _ _ := (Correspondence.matches_ofExcept _).bind fun _ => h.exec _ _
  compileShader _ := h.exec _ _
  attachShader _ _ := h.exec _ _
  linkProgram _ := h.exec _ _
  shaderParameter _ _ := h.queryChecked _ _ _
  programParameter _ _ := h.queryChecked _ _ _
  shaderInfoLog _ := h.queryChecked _ _ _
  programInfoLog _ := h.queryChecked _ _ _
  deleteShader _ := h.exec _ _
  beginChunk := h.beginChunk
  endChunk := h.endChunk
  describeShader := rfl
  describeProgram := rfl
  describeError := rfl

/-- The question for a location matches. -/
theorem getUniformLocation (h : Context.Matches K tr tr') (program : Handle) (name : String) :
    K.Matches (Context.getUniformLocation tr program name)
      (Context.getUniformLocation tr' program name) := by
  unfold Context.getUniformLocation
  refine (Correspondence.matches_ofExcept _).bind fun text => ?_
  refine (h.query _ _).bind fun answer => ?_
  cases answer.json with
  | null => exact Correspondence.matches_pure _
  | _ =>
    exact (Correspondence.matches_ofExcept _).bind fun _ => Correspondence.matches_pure _

/-! ### Operations and steps -/

/-- What an operation makes an answer of matches as the action behind it does. -/
theorem answering {α : Type} {f : α → Answer} {x : Context.Remote σ α} {y : Context.Remote τ α}
    (h : K.Matches x y) : K.Matches (answering f x) (answering f y) :=
  h.bind fun _ => Correspondence.matches_pure _

/-- The operation opens or closes a chunk. -/
def isChunk : Operation → Bool
  | .primitive .beginChunk => true
  | .primitive .endChunk => true
  | _ => false

/-- An operation that opens or closes a chunk is a step that only batches. -/
theorem isBatching_of_isChunk {o : Operation} (h : isChunk o = true) :
    (Step.operation o).isBatching = true := by
  match o, h with
  | .primitive .beginChunk, _ => rfl
  | .primitive .endChunk, _ => rfl

/-- **Operations match**; those that open or close a chunk do so where the level does not
matter. -/
theorem operation (h : Context.Matches K tr tr') (o : Operation)
    (hflat : isChunk o = true → K.Flat) :
    K.Matches (o.perform tr) (o.perform tr') := by
  cases o with
  | primitive p =>
    -- only the last two change the level
    cases p with
    | exec op args => exact answering (h.exec op args)
    | execWithBuffer op args buffer => exact answering (h.execWithBuffer op args buffer)
    | query op args => exact answering (h.query op args)
    | flush => exact answering h.flush
    | fetchConstants => exact answering h.fetchConstants
    | fetchMethods => exact answering h.fetchMethods
    | orbitView args render => exact answering (h.orbitView args render)
    | beginChunk => exact answering (Correspondence.matches_of_flat (hflat rfl) (h.beginChunk 0))
    | endChunk => exact answering (Correspondence.matches_of_flat (hflat rfl) (h.endChunk 0))
  | useProgram program => exact answering (h.exec _ _)
  | getUniformLocation program name => exact answering (h.getUniformLocation program name)
  | uniformMatrix location m => exact answering (h.execWithBuffer _ _ _)
  | createShader stage => exact answering (h.gl.createShader stage)
  | createProgram => exact answering h.gl.createProgram
  | shaderSource shader source => exact answering (h.gl.shaderSource shader source)
  | compileShader shader => exact answering (h.gl.compileShader shader)
  | attachShader program shader => exact answering (h.gl.attachShader program shader)
  | linkProgram program => exact answering (h.gl.linkProgram program)
  | shaderParameter shader name => exact answering (h.gl.shaderParameter shader name)
  | programParameter program name => exact answering (h.gl.programParameter program name)
  | shaderInfoLog shader => exact answering (h.gl.shaderInfoLog shader)
  | programInfoLog program => exact answering (h.gl.programInfoLog program)
  | deleteShader shader => exact answering (h.gl.deleteShader shader)

/-- The uploads of the demonstration match. -/
theorem uploadUniforms (h : Context.Matches K tr tr') (program : Handle)
    (uniforms : List (String × Mat4 Single)) :
    K.Matches (Studio.uploadUniforms tr program uniforms)
      (Studio.uploadUniforms tr' program uniforms) := by
  induction uniforms with
  | nil => exact Correspondence.matches_pure _
  | cons u rest ih =>
    -- the executor decides whether there is a location, the same one in both runs
    obtain ⟨name, m⟩ := u
    refine Correspondence.Matches.bind ?_ fun _ => ih
    refine (h.getUniformLocation program name).bind fun location => ?_
    cases location with
    | none => exact Correspondence.matches_emit _
    | some location => exact h.execWithBuffer _ _ _

/-- The demonstration matches. -/
theorem demo (h : Context.Matches K tr tr') (vertex fragment : String) :
    K.Matches (Studio.run tr vertex fragment) (Studio.run tr' vertex fragment) := by
  unfold Studio.run
  refine ((h.gl.makeProgram vertex fragment).mapError _).bind fun linked => ?_
  refine ((h.gl.deleteShaders linked).mapError _).bind fun program => ?_
  refine Correspondence.Matches.bind ((h.exec _ _).mapError _) fun _ => ?_
  refine ((h.uploadUniforms program _).mapError _).bind fun _ => ?_
  exact Correspondence.matches_emit _

/-- **Steps match**; those that open or close a chunk do so where the level does not matter. -/
theorem step (h : Context.Matches K tr tr') (s : Step)
    (hflat : s.isBatching = true → K.Flat) :
    K.Matches (s.perform tr) (s.perform tr') := by
  cases s with
  | operation o =>
    -- the level does not matter either where the operation is one that changes it
    have ho := h.operation o fun hchunk => hflat (isBatching_of_isChunk hchunk)
    exact (ho.mapError _).bind fun _ => Correspondence.matches_pure _
  | makeShader source stage =>
    exact ((h.gl.makeShader source stage).mapError _).bind fun _ => Correspondence.matches_pure _
  | makeProgram vertex fragment =>
    exact ((h.gl.makeProgram vertex fragment).mapError _).bind fun _ =>
      Correspondence.matches_pure _
  | demo vertex fragment =>
    exact ((h.demo vertex fragment).mapError _).bind fun _ => Correspondence.matches_pure _

/-- **An invariant that the primitives keep** holds after any steps. -/
theorem session_keeps {P : Context σ → Prop}
    (h : Context.Matches (Correspondence.diagonal fun _ => P) tr tr) (steps : List Step)
    {c : Context σ} (hc : P c) : P (Step.session tr steps c).state := by
  -- an invariant does not mention the level, so steps that change it are no exception
  have hstep : ∀ s ∈ steps,
      (Correspondence.diagonal fun _ => P).Matches (s.perform tr) (s.perform tr) :=
    fun s _ => h.step s fun _ _ _ _ _ hst => hst
  obtain ⟨-, hagree⟩ := Correspondence.session_matches hstep 0 (s := c) (t := c) trivial
  exact (hagree ⟨rfl, hc⟩).state.2

end Context.Matches

end GlBridge
