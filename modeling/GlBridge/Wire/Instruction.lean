import GlBridge.Wire.Record

/-!
# Instructions and commands

An `Instruction` is one GL call: an operation by name with its arguments, either
executed for its effect or queried for its value. A `Command` asks the front end
for something outside the stream of GL calls and may carry instructions that the
front end replays.
-/

namespace GlBridge

/-- What an instruction is sent for: its effect or its value. -/
inductive Purpose where
  | exec
  | query
  deriving DecidableEq, Repr

namespace Purpose

/-- The word for a purpose on the wire. -/
def tag : Purpose → String
  | .exec => "exec"
  | .query => "query"

/-- The purpose that a word stands for. -/
def ofTag? : String → Option Purpose
  | "exec" => some .exec
  | "query" => some .query
  | _ => none

/-- Reads a purpose: the word, or an object that maps the word to `null`. Where the
instruction is `nested` in a message, the empty object does for `null`. -/
def ofJson? (nested : Bool) : Json → Option Purpose
  | .string s => ofTag? s
  | .object [(s, .null)] => ofTag? s
  | .object [(s, .object [])] => if nested then ofTag? s else none
  | _ => none

end Purpose

/-- One GL call. -/
structure Instruction where
  purpose : Purpose
  op : String
  args : List Value

namespace Instruction

/-- A call for its effect. -/
def exec (op : String) (args : List Value) : Instruction := ⟨.exec, op, args⟩

/-- A call for its value. -/
def query (op : String) (args : List Value) : Instruction := ⟨.query, op, args⟩

/-- The fields of an instruction in declared order. -/
def fieldNames : List String := ["type", "op", "args"]

/-- The tree of an instruction. -/
def toJson (i : Instruction) : Json :=
  .object [("type", .string i.purpose.tag), ("op", .string i.op), ("args", .ofValues i.args)]

/-- Reads an instruction from a tree. -/
def ofJson? (nested : Bool) (j : Json) : Option Instruction :=
  match j.fields? fieldNames with
  | some [purpose, op, args] => do
    return ⟨← Purpose.ofJson? nested purpose, ← op.string?, ← args.values?⟩
  | _ => none

/-- Reads an instruction from a text. -/
def read? (s : String) : Option Instruction :=
  (((Json.read? s.toList).map (Json.restrict fieldNames)).filter Json.isSound).bind
    (ofJson? false)

/-- The array of some instructions. -/
def listToJson (is : List Instruction) : Json := .array (is.map toJson)

/-- Reads an array of instructions. -/
def listOfJson? (nested : Bool) (j : Json) : Option (List Instruction) :=
  j.items?.bind (·.mapM (ofJson? nested))

/-- Drops what is ignored from each of some instructions. -/
def restrictList : Json → Json
  | .array items => .array (items.map (Json.restrict fieldNames))
  | j => j

/-- Reads an array of instructions from a text. -/
def readList? (s : String) : Option (List Instruction) :=
  (((Json.read? s.toList).map restrictList).filter Json.isSound).bind (listOfJson? false)

end Instruction

/-- A request to the front end outside the stream of GL calls. -/
structure Command where
  op : String
  args : List Value
  /-- what the front end replays -/
  instructions : List Instruction

namespace Command

/-- The fields of a command in declared order. -/
def fieldNames : List String := ["op", "args", "instructions"]

/-- The tree of a command. -/
def toJson (c : Command) : Json :=
  .object [("op", .string c.op), ("args", .ofValues c.args),
    ("instructions", Instruction.listToJson c.instructions)]

/-- Reads a command from a tree. -/
def ofJson? (nested : Bool) (j : Json) : Option Command :=
  match j.fields? fieldNames with
  | some [op, args, instructions] => do
    return ⟨← op.string?, ← args.values?, ← Instruction.listOfJson? nested instructions⟩
  | _ => none

/-- Drops what is ignored from a command and from its instructions. -/
def restrict (j : Json) : Json :=
  match j.restrict fieldNames with
  | .object members =>
    .object (members.map fun m =>
      if m.1 = "instructions" then (m.1, Instruction.restrictList m.2) else m)
  | .array [op, args, instructions] => .array [op, args, Instruction.restrictList instructions]
  | j => j

/-- Reads a command from a text. -/
def read? (s : String) : Option Command :=
  (((Json.read? s.toList).map restrict).filter Json.isSound).bind (ofJson? false)

end Command

end GlBridge
