import GlBridge.Json.Value
import GlBridge.Text.Bytes
import GlBridge.Text.Quoted

/-!
# Arguments and results of calls

The executor reads every text argument by its first characters: `key…` refers to an
object that an earlier query returned, `buffer…` takes the next attached buffer, and
any other text is itself. Hence

* a `Handle` is a text that begins with `key`, and nothing else is accepted as one;
* `ElementType.argument` is the text that takes a buffer, viewed with elements of
  that type;
* a text meant as itself is refused if the executor would read it otherwise
  (`literal`).

A `Violation` is an answer or an argument that breaks these conventions.
-/

namespace GlBridge

/-- A breach of the conventions on arguments and results. -/
inductive Violation where
  /-- an answer that should name an object does not -/
  | notHandle (got : Value)
  /-- a text argument that the executor would take for a reference -/
  | reference (text : String)
  /-- an answer that should be a status has no truth value -/
  | notStatus (got : Value)
  /-- the answer to `op` should be a text -/
  | notText (op : String) (got : Value)

/-- The wording of a violation. -/
def Violation.message : Violation → String
  | .notHandle got => "expected a remote variable key, got " ++ got.render
  | .reference text =>
    "string argument " ++ Text.quoted text ++ " collides with the executor's reference syntax"
  | .notStatus got => "expected a status value, got " ++ got.render
  | .notText op got => op ++ " returned " ++ got.render ++ ", expected text"

/-! ### References -/

/-- How references to objects begin. -/
def handleLead : String := "key"

/-- How references to attached buffers begin. -/
def bufferLead : String := "buffer"

/-- The executor would read the text as a reference. -/
def isReference (s : String) : Bool :=
  Text.startsWith handleLead s || Text.startsWith bufferLead s

/-- A text argument that stands for itself. -/
def literal (s : String) : Except Violation Value :=
  if isReference s then .error (.reference s) else .ok (.string s)

/-- The name of an object that lives in the executor: a shader, a program, a location. -/
structure Handle where
  key : String
  isKey : Text.startsWith handleLead key = true
  deriving DecidableEq

namespace Handle

/-- Takes an answer as the name of an object. -/
def ofValue (v : Value) : Except Violation Handle :=
  match v.json with
  | .string s => if h : Text.startsWith handleLead s = true then .ok ⟨s, h⟩ else .error (.notHandle v)
  | _ => .error (.notHandle v)

/-- The argument that refers to the object. -/
def argument (h : Handle) : Value := .string h.key

/-- How a handle is shown in a log. -/
def describe (h : Handle) : String := "RemoteHandle(" ++ Text.quoted h.key ++ ")"

end Handle

/-! ### Buffers -/

/-- The types of elements as which an attached buffer can be viewed. -/
inductive ElementType where
  | uint8
  | int8
  | uint8Clamped
  | int16
  | uint16
  | int32
  | uint32
  | float32
  | float64
  deriving DecidableEq, Repr

namespace ElementType

/-- The name of an element type on the wire. -/
def name : ElementType → String
  | .uint8 => "uint8"
  | .int8 => "int8"
  | .uint8Clamped => "uint8C"
  | .int16 => "int16"
  | .uint16 => "uint16"
  | .int32 => "int32"
  | .uint32 => "uint32"
  | .float32 => "float32"
  | .float64 => "float64"

/-- The argument that takes the next attached buffer. -/
def argument (t : ElementType) : Value := .string (bufferLead ++ t.name)

end ElementType

/-! ### Answers -/

namespace Value

/-- The truth value of a status: `null`, zero and the empty text count as false. Arrays and
objects have none. -/
def truth (v : Value) : Except Violation Bool :=
  match v.json with
  | .null => .ok false
  | .bool b => .ok b
  | .number n => .ok (!n.toDouble.isZero)
  | .string s => .ok (s ≠ "")
  | _ => .error (.notStatus v)

/-- The text that `op` returned, where `null` counts as the empty one. -/
def text (op : String) (v : Value) : Except Violation String :=
  match v.json with
  | .null => .ok ""
  | .string s => .ok s
  | _ => .error (.notText op v)

end Value

end GlBridge
