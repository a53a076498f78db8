import GlBridge.Wire.Instruction

/-!
# Messages and replies

`Message` is what goes to the executor, `Reply` what comes back. Both are tagged
records. `toJson` gives the tree of each, `ofJson?` reads one, and `read?` reads a text:
it must be sound as a whole, ignored parts included.
-/

namespace GlBridge

/-! ### Messages -/

/-- What is sent to the executor. -/
inductive Message where
  /-- runs every instruction; there is no reply -/
  | exec (instructions : List Instruction)
  /-- runs the instructions and replies with the value of the last one -/
  | query (instructions : List Instruction)
  /-- asks for the GL constants of a target -/
  | getConstants (target : String)
  /-- asks for the GL methods of a target -/
  | getMethods (target : String)
  /-- a request outside the stream of GL calls -/
  | command (command : Command)

/-- The kinds of messages. -/
inductive MessageKind where
  | exec
  | query
  | getConstants
  | getMethods
  | command
  deriving DecidableEq, Repr

/-- The tag of a kind of message. -/
def MessageKind.tag : MessageKind → String
  | .exec => "exec"
  | .query => "query"
  | .getConstants => "getConstants"
  | .getMethods => "getMethods"
  | .command => "command"

namespace Message

/-- The kind of a message. -/
def kind : Message → MessageKind
  | .exec _ => .exec
  | .query _ => .query
  | .getConstants _ => .getConstants
  | .getMethods _ => .getMethods
  | .command _ => .command

/-- The one field that a message has besides its tag. -/
def payload : Message → String × Json
  | .exec is => ("instructions", Instruction.listToJson is)
  | .query is => ("instructions", Instruction.listToJson is)
  | .getConstants target => ("target", .string target)
  | .getMethods target => ("target", .string target)
  | .command c => ("command", c.toJson)

/-- The tree of a message. -/
def toJson (m : Message) : Json :=
  .object [(Json.tagKey, .string m.kind.tag), m.payload]

/-- The text of a message. -/
def render (m : Message) : String := m.toJson.render

/-- Reads the one field of a message with the given tag. -/
def ofTagged? (tag : String) (body : Json) : Option Message :=
  match tag with
  | "exec" => do
    let [is] ← body.fields? ["instructions"] | none
    return .exec (← Instruction.listOfJson? true is)
  | "query" => do
    let [is] ← body.fields? ["instructions"] | none
    return .query (← Instruction.listOfJson? true is)
  | "getConstants" => do
    let [target] ← body.fields? ["target"] | none
    return .getConstants (← target.string?)
  | "getMethods" => do
    let [target] ← body.fields? ["target"] | none
    return .getMethods (← target.string?)
  | "command" => do
    let [c] ← body.fields? ["command"] | none
    return .command (← Command.ofJson? true c)
  | _ => none

/-- Reads a message from a tree. -/
def ofJson? (j : Json) : Option Message := j.tagged?.bind fun (tag, body) => ofTagged? tag body

/-- Reads a message from a text. -/
def read? (s : String) : Option Message := (Json.readSound? s.toList).bind ofJson?

end Message

/-! ### Replies -/

/-- What the executor sends back. -/
inductive Reply where
  /-- the value of a query; an object is named by a key -/
  | queryReply (data : Value)
  /-- the query raised an error -/
  | queryError (message : String)
  | constantsReply (target : String) (data : Dictionary Double)
  | methodsReply (target : String) (data : List String)

/-- The kinds of replies. -/
inductive ReplyKind where
  | queryReply
  | queryError
  | constantsReply
  | methodsReply
  deriving DecidableEq, Repr

/-- The tag of a kind of reply. -/
def ReplyKind.tag : ReplyKind → String
  | .queryReply => "queryReply"
  | .queryError => "queryError"
  | .constantsReply => "constantsReply"
  | .methodsReply => "methodsReply"

namespace Reply

/-- The kind of a reply. -/
def kind : Reply → ReplyKind
  | .queryReply _ => .queryReply
  | .queryError _ => .queryError
  | .constantsReply _ _ => .constantsReply
  | .methodsReply _ _ => .methodsReply

/-- A float as data. One that is no number is written as `null`. -/
def floatToJson (x : Double) : Json :=
  if h : x.isFinite = true then .number (.float x h) else .null

/-- The tree of some constants: an object with a float for each name. -/
def constantsToJson (d : Dictionary Double) : Json :=
  .object (d.entries.map fun e => (e.1, floatToJson e.2))

/-- The fields that a reply has besides its tag. -/
def payload : Reply → List (String × Json)
  | .queryReply data => [("data", data.json)]
  | .queryError message => [("data", .object [("message", .string message)])]
  | .constantsReply target data => [("target", .string target), ("data", constantsToJson data)]
  | .methodsReply target data => [("target", .string target), ("data", .ofStrings data)]

/-- The tree of a reply. -/
def toJson (r : Reply) : Json :=
  .object ((Json.tagKey, .string r.kind.tag) :: r.payload)

/-- The text of a reply. -/
def render (r : Reply) : String := r.toJson.render

/-- Reads a number as a float. -/
def float? : Json → Option Double
  | .number n => some n.toDouble
  | _ => none

/-- Reads constants from an object; of several numbers for a name the last one counts. -/
def constants? : Json → Option (Dictionary Double)
  | .object members =>
    (members.mapM fun m => (float? m.2).map fun x => (m.1, x)).map Dictionary.ofList
  | _ => none

/-- Reads the fields of a reply with the given tag. -/
def ofTagged? (tag : String) (body : Json) : Option Reply :=
  match tag with
  | "queryReply" => do
    let [data] ← body.fields? ["data"] | none
    return .queryReply (← Value.ofJson? data)
  | "queryError" => do
    let [data] ← body.fields? ["data"] | none
    let [message] ← data.fields? ["message"] | none
    return .queryError (← message.string?)
  | "constantsReply" => do
    let [target, data] ← body.fields? ["target", "data"] | none
    return .constantsReply (← target.string?) (← constants? data)
  | "methodsReply" => do
    let [target, data] ← body.fields? ["target", "data"] | none
    return .methodsReply (← target.string?) (← data.strings?)
  | _ => none

/-- Reads a reply from a tree. -/
def ofJson? (j : Json) : Option Reply := j.tagged?.bind fun (tag, body) => ofTagged? tag body

/-- Reads a reply from a text. -/
def read? (s : String) : Option Reply := (Json.readSound? s.toList).bind ofJson?

end Reply

end GlBridge
