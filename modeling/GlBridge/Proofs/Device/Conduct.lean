import GlBridge.Proofs.Action.Conduct
import GlBridge.Proofs.Device.Course

/-!
# The conduct of the builders

A shader builder calls its device and reports how it went, and nothing else. So if the calls of a
device are governed by a conduct that lets a remark pass (`Gl.Governed`), then the builders
are governed by it, and so is every body run in a chunk.
-/

namespace GlBridge

namespace Gl

variable {σ Shader Program ε δ α : Type} {K : Conduct σ} {gl : Gl σ Shader Program ε}

/-- The calls of the device are governed, and it is in order to report something in between. -/
structure Governed (K : Conduct σ) (gl : Gl σ Shader Program ε) : Prop where
  /-- Every call of the device is in order, wherever it is made. -/
  calls : ∀ {α : Type} (call : Call Shader Program α), K.Governs (gl.perform call)
  /-- A report of anything but the wire is in order in between. -/
  remarks : ∀ s e, e.isTrace = false → K.allows s [e] s

namespace Governed

/-- A builder may say how it went, since what it says is never a trace. -/
theorem emit (h : gl.Governed K) {e : Event} (he : e.isTrace = false) :
    K.Governs (Action.emit e : Action σ δ Unit) :=
  Conduct.governs_emit fun s => h.remarks s e he

/-- To drop a chunk is to close it and to say so if that fails. -/
theorem dropChunk (h : gl.Governed K) : K.Governs (gl.dropChunk : Action σ δ Unit) := by
  refine (h.calls .endChunk).attempt.bind fun closing => ?_
  cases closing with
  | ok u => exact Conduct.governs_pure _
  | error e => exact h.emit rfl

/-- **A scope is governed** if its body is, whichever way the body ends. -/
theorem scope (h : gl.Governed K) {body : Action σ ε α} (hbody : K.Governs body) :
    K.Governs (gl.scope body) := by
  have hopen : K.Governs (Action.modify gl.beginChunk : Action σ ε Unit) := h.calls .beginChunk
  refine hopen.bind fun _ => hbody.attempt.bind fun r => ?_
  cases r with
  -- the value is handed on behind the closing
  | ok a => exact (h.calls .endChunk).bind fun _ => Conduct.governs_pure _
  -- the closing may fail as well, and the body's failure is the one that stays
  | error e => exact h.dropChunk.bind fun _ => Conduct.governs_fail _

/-- Giving up a shader is in order, whichever of its calls fail. -/
theorem rejectShader (h : gl.Governed K) (shader : Shader) (stage : Stage) :
    K.Governs (gl.rejectShader shader stage) := by
  have hdelete := h.calls (.deleteShader shader)
  refine (h.calls (.shaderInfoLog shader)).attempt.bind fun r => ?_
  cases r with
  | ok log =>
    -- the log was read, so the deletion decides what is reported
    exact (hdelete.mapError _).bind fun _ => (h.emit rfl).bind fun _ => Conduct.governs_fail _
  | error e =>
    -- the failed reading is the result, and the deletion is attempted all the same
    refine hdelete.attempt.bind fun kept => ?_
    cases kept with
    | ok u => exact Conduct.governs_fail _
    | error kept => exact (h.emit rfl).bind fun _ => Conduct.governs_fail _

/-- **Building a shader is governed** on a device whose calls are, ... -/
theorem makeShader (h : gl.Governed K) (source : String) (stage : Stage) :
    K.Governs (gl.makeShader source stage) := by
  refine ((h.calls (.createShader stage)).mapError _).bind fun shader => ?_
  -- source and compilation are one chunk, and a body like any other
  have hupload := h.scope ((h.calls (.shaderSource shader source)).bind fun _ =>
    h.calls (.compileShader shader))
  refine (hupload.mapError _).bind fun _ => ?_
  refine ((h.calls (.shaderParameter shader compileStatus)).mapError _).bind fun compiled => ?_
  cases compiled with
  | true => exact (h.emit rfl).bind fun _ => Conduct.governs_pure _
  | false => exact h.rejectShader shader stage

/-- ... and so is building a program, ... -/
theorem makeProgram (h : gl.Governed K) (vertexSource fragmentSource : String) :
    K.Governs (gl.makeProgram vertexSource fragmentSource) := by
  refine ((h.calls .createProgram).mapError _).bind fun program => ?_
  refine (h.makeShader vertexSource .vertex).bind fun vertex => ?_
  refine (h.makeShader fragmentSource .fragment).bind fun fragment => ?_
  -- and so are the attachments and the linking
  have hlinking := h.scope ((h.calls (.attachShader program vertex)).bind fun _ =>
    (h.calls (.attachShader program fragment)).bind fun _ => h.calls (.linkProgram program))
  refine (hlinking.mapError _).bind fun _ => ?_
  refine ((h.calls (.programParameter program linkStatus)).mapError _).bind fun linked => ?_
  cases linked with
  | true => exact (h.emit rfl).bind fun _ => Conduct.governs_pure _
  | false =>
    exact ((h.calls (.programInfoLog program)).mapError _).bind fun _ =>
      (h.emit rfl).bind fun _ => Conduct.governs_fail _

/-- ... and the deletion of the shaders that it was linked from. -/
theorem deleteShaders (h : gl.Governed K) (l : LinkedProgram Shader Program) :
    K.Governs (gl.deleteShaders l) :=
  (h.calls (.deleteShader l.vertex)).bind fun _ =>
    (h.calls (.deleteShader l.fragment)).bind fun _ => Conduct.governs_pure _

end Governed

end Gl

end GlBridge
