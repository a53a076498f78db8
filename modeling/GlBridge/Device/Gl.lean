import GlBridge.Action

/-!
# The GL capability

`Gl σ Shader Program ε` lists the GL calls that building a shader program needs, over
states of type `σ`, with the device's own handles for shaders and programs and its own
failures `ε`. Whatever implements these calls is a device; the builders in
`GlBridge.Device.Shader` know nothing else about it.

Calls may be grouped in *chunks*, which form one unit of flushing and may nest.
`Gl.scope` runs a body inside a chunk and closes the chunk exactly once: after a body
that succeeds its failure counts, after one that fails it is only reported, because the
body's failure comes first.
-/

namespace GlBridge

/-- A device: the GL calls for building a shader program, and the texts under which its
handles and failures appear in the log. -/
structure Gl (σ Shader Program ε : Type) where
  createShader : Stage → Action σ ε Shader
  createProgram : Action σ ε Program
  shaderSource : Shader → String → Action σ ε Unit
  compileShader : Shader → Action σ ε Unit
  attachShader : Program → Shader → Action σ ε Unit
  linkProgram : Program → Action σ ε Unit
  /-- a status of a shader, by its GL number -/
  shaderParameter : Shader → UInt32 → Action σ ε Bool
  /-- a status of a program, by its GL number -/
  programParameter : Program → UInt32 → Action σ ε Bool
  shaderInfoLog : Shader → Action σ ε String
  programInfoLog : Program → Action σ ε String
  deleteShader : Shader → Action σ ε Unit
  /-- opens a chunk, which cannot fail -/
  beginChunk : σ → σ
  /-- closes the innermost chunk; closing the outermost one flushes it -/
  endChunk : Action σ ε Unit
  describeShader : Shader → String
  describeProgram : Program → String
  describeError : ε → String

namespace Gl

variable {σ Shader Program ε δ α : Type}

/-- Closes a chunk whose body failed: a failure to close it is only reported. -/
def dropChunk (gl : Gl σ Shader Program ε) : Action σ δ Unit := do
  match ← gl.endChunk.attempt with
  | .ok () => pure ()
  | .error e => Action.emit (.scopeFlushFailed (gl.describeError e))

/-- Runs a body inside a chunk and closes the chunk, whether or not the body succeeds. -/
def scope (gl : Gl σ Shader Program ε) (body : Action σ ε α) : Action σ ε α := do
  Action.modify gl.beginChunk
  match ← body.attempt with
  | .ok a =>
    gl.endChunk
    return a
  | .error e =>
    gl.dropChunk
    Action.fail e

end Gl

end GlBridge
