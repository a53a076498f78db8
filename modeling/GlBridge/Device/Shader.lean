import GlBridge.Device.Gl

/-!
# Building shader programs

`Gl.makeShader` creates and compiles one shader, `Gl.makeProgram` compiles both stages
and links them. Uploading and compiling form one chunk, attaching and linking another.

Of the objects created on the way only a rejected shader is deleted again, namely when
its compile status was read as false; a program that does not link and shaders that
were accepted are left to the caller (`Gl.deleteShaders`).
-/

namespace GlBridge

/-- Why a shader program could not be built. -/
inductive ShaderError (ε : Type) where
  /-- the source of a stage was rejected; `log` is the shader's info log -/
  | compilation (stage : Stage) (log : String)
  /-- the attached shaders do not fit; `log` is the program's info log -/
  | link (log : String)
  /-- the device itself failed -/
  | context (cause : ε)

namespace ShaderError

variable {ε : Type}

/-- The wording of an error, given that of the device's failures. -/
def message (describe : ε → String) : ShaderError ε → String
  | .compilation stage log => "an error occurred compiling the " ++ stage.name ++ " shader: " ++ log
  | .link log => "unable to initialize the shader program: " ++ log
  | .context cause => "gl context error: " ++ describe cause

/-- The text that the GL reported, unless the device itself failed. -/
def log? : ShaderError ε → Option String
  | .compilation _ log => some log
  | .link log => some log
  | .context _ => none

end ShaderError

/-- A linked program and the shaders linked into it. -/
structure LinkedProgram (Shader Program : Type) where
  program : Program
  vertex : Shader
  fragment : Shader

namespace Gl

variable {σ Shader Program ε : Type}

/-- Shows a linked program. -/
def describeLinked (gl : Gl σ Shader Program ε) (l : LinkedProgram Shader Program) : String :=
  "LinkedProgram \x7b program: " ++ gl.describeProgram l.program ++ ", vertex: " ++
    gl.describeShader l.vertex ++ ", fragment: " ++ gl.describeShader l.fragment ++ " \x7d"

/-- Deletes the shaders of a linked program, which the program no longer needs. -/
def deleteShaders (gl : Gl σ Shader Program ε) (l : LinkedProgram Shader Program) :
    Action σ ε Program := do
  gl.deleteShader l.vertex
  gl.deleteShader l.fragment
  return l.program

/-- Gives up a rejected shader: reads why it was rejected and deletes it, also when the
reading fails. -/
def rejectShader (gl : Gl σ Shader Program ε) (shader : Shader) (stage : Stage) :
    Action σ (ShaderError ε) Shader := do
  match ← (gl.shaderInfoLog shader).attempt with
  | .ok log =>
    -- a failure to delete counts here, since nothing failed before it
    (gl.deleteShader shader).mapError .context
    Action.emit (.compileFailed stage log)
    Action.fail (.compilation stage log)
  | .error e =>
    -- and here the failure to read the log comes first
    match ← (gl.deleteShader shader).attempt with
    | .ok () => pure ()
    | .error kept => Action.emit (.rejectedKept stage (gl.describeError kept))
    Action.fail (.context e)

/-- Creates a shader of the given stage and compiles the source into it. -/
def makeShader (gl : Gl σ Shader Program ε) (source : String) (stage : Stage) :
    Action σ (ShaderError ε) Shader := do
  let shader ← (gl.createShader stage).mapError .context
  (gl.scope do
    gl.shaderSource shader source
    gl.compileShader shader).mapError .context
  if ← (gl.shaderParameter shader compileStatus).mapError .context then
    Action.emit (.compiled stage (gl.describeShader shader))
    return shader
  else
    gl.rejectShader shader stage

/-- Creates a program, compiles both stages and links them. -/
def makeProgram (gl : Gl σ Shader Program ε) (vertexSource fragmentSource : String) :
    Action σ (ShaderError ε) (LinkedProgram Shader Program) := do
  let program ← gl.createProgram.mapError .context
  let vertex ← gl.makeShader vertexSource .vertex
  let fragment ← gl.makeShader fragmentSource .fragment
  (gl.scope do
    gl.attachShader program vertex
    gl.attachShader program fragment
    gl.linkProgram program).mapError .context
  if ← (gl.programParameter program linkStatus).mapError .context then
    Action.emit (.linked (gl.describeProgram program))
    return ⟨program, vertex, fragment⟩
  else
    let log ← (gl.programInfoLog program).mapError .context
    Action.emit (.linkFailed (gl.describeProgram program) log)
    Action.fail (.link log)

end Gl

end GlBridge
