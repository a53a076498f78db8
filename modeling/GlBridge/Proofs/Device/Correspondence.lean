import GlBridge.Device.Shader
import GlBridge.Proofs.Action.Correspondence

/-!
# Builders on corresponding devices

A shader builder does nothing but call its device. If the calls of two devices match, then
so do the builders on them (`Gl.Matches.makeShader`, `Gl.Matches.makeProgram`), and
so does every body run in a chunk (`Gl.Matches.scope`).

The level of the correspondence counts the chunks: opening one leads from a level to the
next and closing it leads back, so that what is known at a level when a scope begins is known
again when it has ended, whichever way its body went.
-/

namespace GlBridge

namespace Gl

variable {σ τ Shader Program ε δ α : Type}

/-! ### What a scope leaves behind -/

/-- What is reported when a chunk is dropped: nothing, unless closing it failed. -/
def dropEvents (gl : Gl σ Shader Program ε) : Except ε Unit → List Event
  | .ok () => []
  | .error e => [.scopeFlushFailed (gl.describeError e)]

/-- Dropping a chunk closes it and delivers nothing, whatever came of the closing. -/
theorem dropChunk_apply (gl : Gl σ Shader Program ε) (s : σ) :
    (gl.dropChunk : Action σ δ Unit) s =
      ⟨.ok (), (gl.endChunk s).state,
        (gl.endChunk s).events ++ gl.dropEvents (gl.endChunk s).result⟩ := by
  unfold dropChunk
  rw [Action.attempt_bind_apply]
  cases (gl.endChunk s).result with
  | ok u => rfl
  | error e => rfl

/-- A scope whose body succeeds ends as closing its chunk does. -/
theorem scope_of_ok (gl : Gl σ Shader Program ε) {body : Action σ ε α} {s : σ} {a : α}
    (h : (body (gl.beginChunk s)).result = .ok a) :
    gl.scope body s =
      ⟨(gl.endChunk (body (gl.beginChunk s)).state).result.map fun _ => a,
        (gl.endChunk (body (gl.beginChunk s)).state).state,
        (body (gl.beginChunk s)).events ++
          (gl.endChunk (body (gl.beginChunk s)).state).events⟩ := by
  unfold scope
  rw [Action.modify_bind_apply, Action.attempt_bind_apply]
  simp only [h]
  -- the body's value is delivered only if the chunk could be closed
  cases hend : (gl.endChunk (body (gl.beginChunk s)).state).result with
  | ok u => rw [Action.bind_of_ok hend]; simp [Except.map]
  | error e => rw [Action.bind_of_error hend]; rfl

/-- A scope whose body fails fails for the body's reason, and closes its chunk all the same. -/
theorem scope_of_error (gl : Gl σ Shader Program ε) {body : Action σ ε α} {s : σ} {e : ε}
    (h : (body (gl.beginChunk s)).result = .error e) :
    gl.scope body s =
      ⟨.error e, (gl.endChunk (body (gl.beginChunk s)).state).state,
        (body (gl.beginChunk s)).events ++ ((gl.endChunk (body (gl.beginChunk s)).state).events ++
          gl.dropEvents (gl.endChunk (body (gl.beginChunk s)).state).result)⟩ := by
  unfold scope
  rw [Action.modify_bind_apply, Action.attempt_bind_apply]
  simp only [h]
  -- dropping a chunk never fails, so the body's error comes through
  rw [Action.bind_of_ok (congrArg Outcome.result (dropChunk_apply gl _))]
  simp [dropChunk_apply]

/-- Either way the chunk is closed once, after the body. -/
theorem scope_state (gl : Gl σ Shader Program ε) (body : Action σ ε α) (s : σ) :
    (gl.scope body s).state = (gl.endChunk (body (gl.beginChunk s)).state).state := by
  -- both endings leave the state that the closing left
  cases h : (body (gl.beginChunk s)).result with
  | ok a => rw [scope_of_ok gl h]
  | error e => rw [scope_of_error gl h]

/-! ### Devices whose calls match -/

/-- The calls of the two devices match one by one. -/
structure Matches (K : Correspondence σ τ) (gl : Gl σ Shader Program ε)
    (gl' : Gl τ Shader Program ε) : Prop where
  createShader : ∀ stage, K.Matches (gl.createShader stage) (gl'.createShader stage)
  createProgram : K.Matches gl.createProgram gl'.createProgram
  shaderSource : ∀ shader source,
    K.Matches (gl.shaderSource shader source) (gl'.shaderSource shader source)
  compileShader : ∀ shader, K.Matches (gl.compileShader shader) (gl'.compileShader shader)
  attachShader : ∀ program shader,
    K.Matches (gl.attachShader program shader) (gl'.attachShader program shader)
  linkProgram : ∀ program, K.Matches (gl.linkProgram program) (gl'.linkProgram program)
  shaderParameter : ∀ shader name,
    K.Matches (gl.shaderParameter shader name) (gl'.shaderParameter shader name)
  programParameter : ∀ program name,
    K.Matches (gl.programParameter program name) (gl'.programParameter program name)
  shaderInfoLog : ∀ shader, K.Matches (gl.shaderInfoLog shader) (gl'.shaderInfoLog shader)
  programInfoLog : ∀ program, K.Matches (gl.programInfoLog program) (gl'.programInfoLog program)
  deleteShader : ∀ shader, K.Matches (gl.deleteShader shader) (gl'.deleteShader shader)
  /-- Opening a chunk goes up by one level, ... -/
  beginChunk : ∀ level s t, K.MatchesFrom level (level + 1) s t
    (Action.modify gl.beginChunk : Action σ ε Unit) (Action.modify gl'.beginChunk)
  /-- ... and closing it comes back. -/
  endChunk : ∀ level s t, K.MatchesFrom (level + 1) level s t gl.endChunk gl'.endChunk
  /-- The names in reports are the same, so that the reports can be. -/
  describeShader : gl.describeShader = gl'.describeShader
  describeProgram : gl.describeProgram = gl'.describeProgram
  describeError : gl.describeError = gl'.describeError

namespace Matches

variable {K : Correspondence σ τ} {gl : Gl σ Shader Program ε} {gl' : Gl τ Shader Program ε}

/-- **Scopes match** if their bodies do. -/
theorem scope (h : gl.Matches K gl') {x : Action σ ε α} {y : Action τ ε α}
    (hxy : K.Matches x y) : K.Matches (gl.scope x) (gl'.scope y) := by
  intro level s t hadm
  rw [scope_state] at hadm
  -- admission is traced back: through the closing, the body and the opening
  obtain ⟨hbody, hend⟩ := h.endChunk level (x (gl.beginChunk s)).state
    (y (gl'.beginChunk t)).state hadm
  obtain ⟨hbegin, hmid⟩ := hxy (level + 1) (gl.beginChunk s) (gl'.beginChunk t) hbody
  obtain ⟨hs, hopen⟩ := h.beginChunk level s t hbegin
  refine ⟨hs, fun hst => ?_⟩
  -- agreement follows the run forward; the body is one level further in
  have hin := hmid (hopen hst).state
  have hout := hend hin.state
  cases hr : (x (gl.beginChunk s)).result with
  | ok a =>
    rw [scope_of_ok gl hr, scope_of_ok gl' (hin.result.symm.trans hr)]
    refine ⟨congrArg (Except.map fun _ => a) hout.result, ?_, hout.state⟩
    rw [List.filter_append, List.filter_append, hin.events, hout.events]
  | error e =>
    rw [scope_of_error gl hr, scope_of_error gl' (hin.result.symm.trans hr)]
    refine ⟨rfl, ?_, hout.state⟩
    have hdrop : ∀ r, gl.dropEvents r = gl'.dropEvents r := by
      intro r
      cases r <;> simp only [dropEvents, h.describeError]
    simp only [List.filter_append, hin.events, hout.events, hout.result, hdrop]

/-! ### Builders -/

/-- Giving up a shader matches on devices whose calls match. -/
theorem rejectShader (h : gl.Matches K gl') (shader : Shader) (stage : Stage) :
    K.Matches (gl.rejectShader shader stage) (gl'.rejectShader shader stage) := by
  unfold Gl.rejectShader
  rw [h.describeError]
  refine (h.shaderInfoLog shader).attempt.bind fun r => ?_
  cases r with
  | ok log =>
    -- the log is the result, unless the shader cannot be deleted
    exact ((h.deleteShader shader).mapError _).bind fun _ =>
      (Correspondence.matches_emit _).bind fun _ => Correspondence.matches_fail _
  | error e =>
    -- the log could not be read, and that comes first whatever becomes of the deletion
    refine (h.deleteShader shader).attempt.bind fun kept => ?_
    cases kept with
    | ok u => exact Correspondence.matches_fail _
    | error kept =>
      exact (Correspondence.matches_emit _).bind fun _ => Correspondence.matches_fail _

/-- **Building a shader matches**, so two devices that answer alike are told alike. -/
theorem makeShader (h : gl.Matches K gl') (source : String) (stage : Stage) :
    K.Matches (gl.makeShader source stage) (gl'.makeShader source stage) := by
  unfold Gl.makeShader
  rw [h.describeShader]
  refine ((h.createShader stage).mapError _).bind fun shader => ?_
  -- source and compilation are one chunk; the status is asked for after it
  have hbody := (h.shaderSource shader source).bind fun _ => h.compileShader shader
  refine ((h.scope hbody).mapError _).bind fun _ => ?_
  refine ((h.shaderParameter shader compileStatus).mapError _).bind fun compiled => ?_
  cases compiled with
  | true => exact (Correspondence.matches_emit _).bind fun _ => Correspondence.matches_pure _
  | false => exact h.rejectShader shader stage

/-- **Building a program matches**: two shaders, one chunk and the question how it went. -/
theorem makeProgram (h : gl.Matches K gl') (vertexSource fragmentSource : String) :
    K.Matches (gl.makeProgram vertexSource fragmentSource)
      (gl'.makeProgram vertexSource fragmentSource) := by
  unfold Gl.makeProgram
  rw [h.describeProgram]
  refine (h.createProgram.mapError _).bind fun program => ?_
  refine (h.makeShader vertexSource .vertex).bind fun vertex => ?_
  refine (h.makeShader fragmentSource .fragment).bind fun fragment => ?_
  -- so are the two attachments and the linking
  have hbody := (h.attachShader program vertex).bind fun _ =>
    (h.attachShader program fragment).bind fun _ => h.linkProgram program
  refine ((h.scope hbody).mapError _).bind fun _ => ?_
  refine ((h.programParameter program linkStatus).mapError _).bind fun linked => ?_
  cases linked with
  | true => exact (Correspondence.matches_emit _).bind fun _ => Correspondence.matches_pure _
  | false =>
    exact ((h.programInfoLog program).mapError _).bind fun _ =>
      (Correspondence.matches_emit _).bind fun _ => Correspondence.matches_fail _

/-- The deletion of two shaders matches, whichever of the two fails. -/
theorem deleteShaders (h : gl.Matches K gl') (l : LinkedProgram Shader Program) :
    K.Matches (gl.deleteShaders l) (gl'.deleteShaders l) :=
  (h.deleteShader l.vertex).bind fun _ =>
    (h.deleteShader l.fragment).bind fun _ => Correspondence.matches_pure _

end Matches

end Gl

end GlBridge
