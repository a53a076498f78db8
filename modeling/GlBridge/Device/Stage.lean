/-!
# Shader stages

The two programmable stages of the pipeline and the GL numbers that the shader
builders need.
-/

namespace GlBridge

/-- The programmable pipeline stage of a shader. -/
inductive Stage where
  | vertex
  | fragment
  deriving DecidableEq, Repr

/-- The GL number of a fragment shader. -/
def fragmentShader : UInt32 := 0x8B30

/-- The GL number of a vertex shader. -/
def vertexShader : UInt32 := 0x8B31

/-- The GL number of the question whether a shader compiled. -/
def compileStatus : UInt32 := 0x8B81

/-- The GL number of the question whether a program linked. -/
def linkStatus : UInt32 := 0x8B82

namespace Stage

/-- The GL number of a stage. -/
def glEnum : Stage → UInt32
  | .vertex => vertexShader
  | .fragment => fragmentShader

/-- The stage with the given GL number. -/
def ofGlEnum? (n : UInt32) : Option Stage :=
  if n = vertexShader then some .vertex
  else if n = fragmentShader then some .fragment
  else none

/-- The word for a stage. -/
def name : Stage → String
  | .vertex => "vertex"
  | .fragment => "fragment"

end Stage

end GlBridge
