import GlBridge.Device.Shader
import GlBridge.Linear.View
import GlBridge.Remote.Context

/-!
# The demonstration

What the studio does with a context: it builds a program from two sources, lets go of
the shaders, makes the program current and uploads the three matrices of a camera to
those of its uniforms that it uses.
-/

namespace GlBridge.Studio

/-- Where the demonstration failed. -/
inductive DemoError where
  | building (cause : ShaderError RemoteError)
  | releasing (cause : RemoteError)
  | remote (cause : RemoteError)

/-- The wording of a failed build and of its causes. -/
def shaderChain (e : ShaderError RemoteError) : List String :=
  e.message RemoteError.message ::
    match e with
    | .context cause => cause.chain
    | _ => []

/-- The wording of a failure and of its causes, outermost first. -/
def DemoError.chain : DemoError → List String
  | .building cause => "building shader program" :: shaderChain cause
  | .releasing cause => "releasing shader objects" :: cause.chain
  | .remote cause => cause.chain

/-- The projection of the camera. -/
def projection : Mat4 Single := .perspective 45 (4 / 3) 0.1 100

/-- The place and direction of the camera. -/
def view : Mat4 Single := .lookAt ⟨0, 0, 6⟩ .zero ⟨0, 1, 0⟩

/-- The place of the model. -/
def model : Mat4 Single := Mat4.identity.translate ⟨0, 0, -6⟩

/-- The uniforms and their matrices. -/
def uniforms : List (String × Mat4 Single) :=
  [("uProjection", projection), ("uView", view), ("uModel", model)]

variable {σ : Type}

/-- Uploads a matrix to a uniform of the program, if the program uses it. -/
def uploadUniform (tr : Transport σ) (program : Handle) (name : String) (m : Mat4 Single) :
    Context.Remote σ Unit := do
  match ← Context.getUniformLocation tr program name with
  | some location => Context.uniformMatrix tr location m
  | none => Action.emit (.uniformInactive name)

/-- Uploads matrices to uniforms, one after the other. -/
def uploadUniforms (tr : Transport σ) (program : Handle) :
    List (String × Mat4 Single) → Context.Remote σ Unit
  | [] => pure ()
  | (name, m) :: rest => do
    uploadUniform tr program name m
    uploadUniforms tr program rest

/-- Runs the demonstration. -/
def run (tr : Transport σ) (vertex fragment : String) : Action (Context σ) DemoError Unit := do
  let gl := Context.gl tr
  let linked ← (gl.makeProgram vertex fragment).mapError .building
  let program ← (gl.deleteShaders linked).mapError .releasing
  (Context.useProgram tr program).mapError .remote
  (uploadUniforms tr program uniforms).mapError .remote
  Action.emit (.programReady program.key)

end GlBridge.Studio
