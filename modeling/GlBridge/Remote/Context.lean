import GlBridge.Device.Gl
import GlBridge.Linear.Mat
import GlBridge.Remote.Transport

/-!
# The remote context

A `Context` forwards GL calls to an executor behind a transport. Calls for their effect
are queued: outside a chunk they leave right away as a message of their own, inside one
they are held until the outermost chunk ends and then leave together. A call for a value
takes the held ones along in front of it, so it costs a single round trip.

Buffers are queued next to the calls that refer to them and leave with them. Whatever
was queued leaves the queue when it is handed to the transport, also if that fails.

`Context.gl` makes the context a device for the shader builders.
-/

namespace GlBridge

/-- The settings of a context. -/
structure Config where
  /-- the target that requests for constants and methods name -/
  target : String := "context"
  /-- report every call -/
  trace : Bool := false

/-- The state of a context over a transport with states of type `σ`. -/
structure Context (σ : Type) where
  transport : σ
  config : Config := {}
  /-- the calls that are held -/
  pending : List Instruction := []
  /-- the buffers of the calls that are held -/
  buffers : List Bytes := []
  /-- the number of open chunks -/
  depth : Nat := 0
  /-- the constants that were fetched last -/
  constants : Dictionary Double := .empty

namespace Context

variable {σ : Type}

/-- An action of a context. -/
abbrev Remote (σ α : Type) : Type := Action (Context σ) RemoteError α

/-- Fails for a breach of the conventions. -/
def checked {α : Type} (r : Except Violation α) : Remote σ α :=
  Action.ofExcept (r.mapError .protocol)

/-! ### Messages -/

/-- Reports a call or message, if tracing is on. -/
def traced (e : Event) : Remote σ Unit := do
  if (← Action.get).config.trace then Action.emit e

/-- Hands a message without a reply to the transport. -/
def send (tr : Transport σ) (message : Message) (buffers : List Bytes) : Remote σ Unit :=
  fun c =>
    let (result, transport) := tr.send message buffers c.transport
    ⟨result, { c with transport }, []⟩

/-- Hands a message to the transport and waits for the reply. -/
def request (tr : Transport σ) (message : Message) (buffers : List Bytes) : Remote σ Reply :=
  fun c =>
    let (result, transport) := tr.request message buffers c.transport
    ⟨result, { c with transport }, []⟩

/-- Takes everything that is held out of the queue. -/
def takePending : Remote σ (List Instruction × List Bytes) := fun c =>
  ⟨.ok (c.pending, c.buffers), { c with pending := [], buffers := [] }, []⟩

/-- Sends the calls that are held, if any. -/
def flush (tr : Transport σ) : Remote σ Unit := do
  if !(← Action.get).pending.isEmpty then
    let (pending, buffers) ← takePending
    Action.emit (.flushing pending.length)
    send tr (.exec pending) buffers

/-! ### Calls -/

/-- Queues a call for its effect and, outside a chunk, sends it. -/
def exec (tr : Transport σ) (op : String) (args : List Value) : Remote σ Unit := do
  traced (.exec op)
  Action.modify fun c => { c with pending := c.pending ++ [.exec op args] }
  if (← Action.get).depth = 0 then flush tr

/-- Queues a call whose arguments refer to a buffer. -/
def execWithBuffer (tr : Transport σ) (op : String) (args : List Value) (buffer : Bytes) :
    Remote σ Unit := do
  Action.modify fun c => { c with buffers := c.buffers ++ [buffer] }
  exec tr op args

/-- Runs a call for its value, after those that are held. -/
def query (tr : Transport σ) (op : String) (args : List Value) : Remote σ Value := do
  traced (.query op)
  -- the queue is emptied before the request, so nothing is sent twice when it fails
  let (pending, buffers) ← takePending
  match ← request tr (.query (pending ++ [.query op args])) buffers with
  | .queryReply data => return data
  | .queryError message => Action.fail (.query message)
  | other => Action.fail (.unexpectedReply .queryReply other.kind)

/-- Runs a call that returns an object. -/
def queryHandle (tr : Transport σ) (op : String) (args : List Value) : Remote σ Handle := do
  checked (Handle.ofValue (← query tr op args))

/-- Runs a call that returns a status. -/
def queryStatus (tr : Transport σ) (op : String) (args : List Value) : Remote σ Bool := do
  checked (← query tr op args).truth

/-- Runs a call that returns a text. -/
def queryText (tr : Transport σ) (op : String) (args : List Value) : Remote σ String := do
  checked ((← query tr op args).text op)

/-! ### Discovery and commands -/

/-- Fetches the executor's constants and keeps them. -/
def fetchConstants (tr : Transport σ) : Remote σ (Dictionary Double) := do
  flush tr
  traced (.message .getConstants)
  match ← request tr (.getConstants (← Action.get).config.target) [] with
  | .constantsReply _ data =>
    Action.emit (.constantsReceived data.size)
    Action.modify fun c => { c with constants := data }
    return data
  | other => Action.fail (.unexpectedReply .constantsReply other.kind)

/-- A constant fetched before, as a GL number. -/
def constant? (c : Context σ) (name : String) : Option UInt32 :=
  (c.constants.find? name).map fun x => UInt32.ofNat (x.truncateTo 0xffffffff)

/-- Fetches the names of the methods that the executor can call. -/
def fetchMethods (tr : Transport σ) : Remote σ (List String) := do
  flush tr
  traced (.message .getMethods)
  match ← request tr (.getMethods (← Action.get).config.target) [] with
  | .methodsReply _ data => return data
  | other => Action.fail (.unexpectedReply .methodsReply other.kind)

/-- Replaces the front end's orbit camera. The front end replays `render` whenever the
camera moves. -/
def orbitView (tr : Transport σ) (args : List Value) (render : List Instruction) :
    Remote σ Unit := do
  flush tr
  traced (.message .command)
  send tr (.command ⟨"orbitView", args, render⟩) []

/-! ### Program state -/

/-- Makes a program the current one. -/
def useProgram (tr : Transport σ) (program : Handle) : Remote σ Unit :=
  exec tr "useProgram" [program.argument]

/-- The location of a uniform; none if the program does not use it. -/
def getUniformLocation (tr : Transport σ) (program : Handle) (name : String) :
    Remote σ (Option Handle) := do
  let name ← checked (literal name)
  let answer ← query tr "getUniformLocation" [program.argument, name]
  match answer.json with
  | .null => return none
  | _ => return some (← checked (Handle.ofValue answer))

/-- Uploads a matrix to a uniform. It is in GL's order already, so the flag that asks for
its transpose is false. -/
def uniformMatrix (tr : Transport σ) (location : Handle) (m : Mat4 Single) : Remote σ Unit :=
  execWithBuffer tr "uniformMatrix4fv"
    [location.argument, .bool false, ElementType.float32.argument] m.bytes

/-! ### Chunks and the GL capability -/

/-- Opens a chunk. -/
def beginChunk (c : Context σ) : Context σ := { c with depth := c.depth + 1 }

/-- Closes the innermost chunk and, if it is the outermost, sends what is held. Closing a
chunk that is not open is only reported. -/
def endChunk (tr : Transport σ) : Remote σ Unit := do
  match (← Action.get).depth with
  | 0 =>
    Action.emit .unmatchedEnd
    flush tr
  | 1 =>
    Action.modify fun c => { c with depth := 0 }
    flush tr
  | depth + 1 => Action.modify fun c => { c with depth }

/-- The remote context as a GL device. -/
def gl (tr : Transport σ) : Gl (Context σ) Handle Handle RemoteError where
  createShader stage := queryHandle tr "createShader" [.word stage.glEnum]
  createProgram := queryHandle tr "createProgram" []
  shaderSource shader source := do
    let source ← checked (literal source)
    exec tr "shaderSource" [shader.argument, source]
  compileShader shader := exec tr "compileShader" [shader.argument]
  attachShader program shader := exec tr "attachShader" [program.argument, shader.argument]
  linkProgram program := exec tr "linkProgram" [program.argument]
  shaderParameter shader name :=
    queryStatus tr "getShaderParameter" [shader.argument, .word name]
  programParameter program name :=
    queryStatus tr "getProgramParameter" [program.argument, .word name]
  shaderInfoLog shader := queryText tr "getShaderInfoLog" [shader.argument]
  programInfoLog program := queryText tr "getProgramInfoLog" [program.argument]
  deleteShader shader := exec tr "deleteShader" [shader.argument]
  beginChunk := beginChunk
  endChunk := endChunk tr
  describeShader := Handle.describe
  describeProgram := Handle.describe
  describeError := RemoteError.message

end Context

end GlBridge
