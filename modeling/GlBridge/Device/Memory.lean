import GlBridge.Bounds
import GlBridge.Device.Shader
import GlBridge.Text.Bytes

/-!
# A device in memory

A device without a GPU, for trying out what is built on `Gl`. It compiles every source
that contains `void main`, links a program once a compiled shader of each stage is
attached, and keeps a record of the calls it got.

Two settings make it fail: `refuses` names a call that is refused whenever it is made,
and `linkLog` prevents linking and is reported as the reason. Using a handle that the
device never gave out, or closing a chunk that is not open, is a failure of its own.
-/

namespace GlBridge.Memory

/-- The calls of a device. -/
inductive Call where
  | createShader
  | createProgram
  | shaderSource
  | compileShader
  | attachShader
  | linkProgram
  | getShaderParameter
  | getProgramParameter
  | getShaderInfoLog
  | getProgramInfoLog
  | deleteShader
  | beginChunk
  | endChunk
  deriving DecidableEq, Repr

namespace Call

/-- All calls. -/
def all : List Call :=
  [.createShader, .createProgram, .shaderSource, .compileShader, .attachShader, .linkProgram,
    .getShaderParameter, .getProgramParameter, .getShaderInfoLog, .getProgramInfoLog,
    .deleteShader, .beginChunk, .endChunk]

/-- The name of a call. -/
def name : Call → String
  | .createShader => "createShader"
  | .createProgram => "createProgram"
  | .shaderSource => "shaderSource"
  | .compileShader => "compileShader"
  | .attachShader => "attachShader"
  | .linkProgram => "linkProgram"
  | .getShaderParameter => "getShaderParameter"
  | .getProgramParameter => "getProgramParameter"
  | .getShaderInfoLog => "getShaderInfoLog"
  | .getProgramInfoLog => "getProgramInfoLog"
  | .deleteShader => "deleteShader"
  | .beginChunk => "beginChunk"
  | .endChunk => "endChunk"

/-- The call with the given name. -/
def ofName? (s : String) : Option Call := all.find? fun c => c.name = s

end Call

/-- A failure of the device. -/
inductive Failure where
  /-- the call was set to be refused -/
  | refused (call : Call)
  /-- there is no object with this handle -/
  | noObject (error : OutOfBounds)
  /-- no chunk is open -/
  | noChunk
  deriving DecidableEq, Repr

/-- The wording of a failure. -/
def Failure.message : Failure → String
  | .refused call => "fake context refused `" ++ call.name ++ "`"
  | .noObject error => error.message
  | .noChunk => "attempt to subtract with overflow"

/-- A shader of the device. -/
structure Shader where
  stage : Stage
  source : String := ""
  compiled : Bool := false
  /-- how often it was deleted -/
  deleted : Nat := 0
  deriving DecidableEq, Repr

/-- A program of the device. -/
structure Program where
  /-- the handles of the attached shaders -/
  attached : List Nat := []
  linked : Bool := false
  deriving DecidableEq, Repr

end Memory

/-- The device in memory. A handle is the position of an object in its list. -/
structure Memory where
  shaders : List Memory.Shader := []
  programs : List Memory.Program := []
  /-- the calls so far, in order -/
  calls : List Memory.Call := []
  /-- the number of open chunks -/
  depth : Nat := 0
  /-- how often the outermost chunk was closed -/
  flushes : Nat := 0
  refuses : Option Memory.Call := none
  linkLog : Option String := none
  deriving DecidableEq, Repr

namespace Memory

/-- Records a call, and refuses it if so set. -/
def enter (call : Call) : Action Memory Failure Unit := do
  Action.modify fun m => { m with calls := m.calls ++ [call] }
  if (← Action.get).refuses = some call then Action.fail (.refused call)

/-- The object with the given handle. -/
def object {α : Type} (objects : List α) (index : Nat) : Action Memory Failure α :=
  match objects[index]? with
  | some a => return a
  | none => Action.fail (.noObject ⟨objects.length, index⟩)

/-- The shader with the given handle. -/
def shader (index : Nat) : Action Memory Failure Shader := do object (← Action.get).shaders index

/-- The program with the given handle. -/
def program (index : Nat) : Action Memory Failure Program := do object (← Action.get).programs index

/-- Puts a shader in the place of the one with the given handle. -/
def setShader (index : Nat) (s : Shader) : Action Memory Failure Unit :=
  Action.modify fun m => { m with shaders := m.shaders.set index s }

/-- Puts a program in the place of the one with the given handle. -/
def setProgram (index : Nat) (p : Program) : Action Memory Failure Unit :=
  Action.modify fun m => { m with programs := m.programs.set index p }

/-- What a source must contain to compile. -/
def entryPoint : String := "void main"

/-- The stages of the compiled ones among some shaders. -/
def compiledStages (shaders : List Shader) : List Stage :=
  (shaders.filter Shader.compiled).map Shader.stage

/-- Creates a shader. -/
def createShader (stage : Stage) : Action Memory Failure Nat := do
  enter .createShader
  let index := (← Action.get).shaders.length
  Action.modify fun m => { m with shaders := m.shaders ++ [{ stage }] }
  return index

/-- Creates a program. -/
def createProgram : Action Memory Failure Nat := do
  enter .createProgram
  let index := (← Action.get).programs.length
  Action.modify fun m => { m with programs := m.programs ++ [{}] }
  return index

/-- Gives a shader its source. -/
def shaderSource (index : Nat) (source : String) : Action Memory Failure Unit := do
  enter .shaderSource
  let s ← shader index
  setShader index { s with source }

/-- Compiles a shader. -/
def compileShader (index : Nat) : Action Memory Failure Unit := do
  enter .compileShader
  let s ← shader index
  setShader index { s with compiled := Text.contains entryPoint s.source }

/-- Attaches a shader to a program; whether there is such a shader is seen when linking. -/
def attachShader (index shader : Nat) : Action Memory Failure Unit := do
  enter .attachShader
  let p ← program index
  setProgram index { p with attached := p.attached ++ [shader] }

/-- Links a program. -/
def linkProgram (index : Nat) : Action Memory Failure Unit := do
  enter .linkProgram
  let p ← program index
  let stages := compiledStages (← p.attached.mapM shader)
  let linked := (← Action.get).linkLog.isNone && .vertex ∈ stages && .fragment ∈ stages
  setProgram index { p with linked }

/-- A status of a shader: whether it compiled. Other questions are answered with false. -/
def shaderParameter (index : Nat) (name : UInt32) : Action Memory Failure Bool := do
  enter .getShaderParameter
  if name = compileStatus then return (← shader index).compiled else return false

/-- A status of a program: whether it linked. Other questions are answered with false. -/
def programParameter (index : Nat) (name : UInt32) : Action Memory Failure Bool := do
  enter .getProgramParameter
  if name = linkStatus then return (← program index).linked else return false

/-- The info log of a shader. -/
def shaderInfoLog (index : Nat) : Action Memory Failure String := do
  enter .getShaderInfoLog
  return if (← shader index).compiled then "" else "ERROR: 0:1: syntax error"

/-- The info log of a program. -/
def programInfoLog (index : Nat) : Action Memory Failure String := do
  enter .getProgramInfoLog
  if (← program index).linked then return ""
  else return (← Action.get).linkLog.getD "missing shader stage"

/-- Deletes a shader, which stays listed with its number of deletions. -/
def deleteShader (index : Nat) : Action Memory Failure Unit := do
  enter .deleteShader
  let s ← shader index
  setShader index { s with deleted := s.deleted + 1 }

/-- Opens a chunk. -/
def beginChunk (m : Memory) : Memory :=
  { m with calls := m.calls ++ [.beginChunk], depth := m.depth + 1 }

/-- Closes the innermost chunk. -/
def endChunk : Action Memory Failure Unit := do
  enter .endChunk
  match (← Action.get).depth with
  | 0 => Action.fail .noChunk
  | 1 => Action.modify fun m => { m with depth := 0, flushes := m.flushes + 1 }
  | depth + 1 => Action.modify fun m => { m with depth }

/-- The device in memory as a GL device. -/
def gl : Gl Memory Nat Nat Failure where
  createShader := createShader
  createProgram := createProgram
  shaderSource := shaderSource
  compileShader := compileShader
  attachShader := attachShader
  linkProgram := linkProgram
  shaderParameter := shaderParameter
  programParameter := programParameter
  shaderInfoLog := shaderInfoLog
  programInfoLog := programInfoLog
  deleteShader := deleteShader
  beginChunk := beginChunk
  endChunk := endChunk
  describeShader := toString
  describeProgram := toString
  describeError := Failure.message

end Memory

end GlBridge
