import GlBridge.Device.Stage
import GlBridge.Remote.Transport

/-!
# The dry-run executor

An executor without a GL, on which every call succeeds. Queries that create an object
are answered with a fresh key, numbered from one; status queries with `true`; queries
for a log with the empty text; all others with `null`. It says itself which methods it
knows: exactly those whose queries are not answered with `null`.
-/

namespace GlBridge

/-- The state of a dry-run executor. -/
structure DryRun where
  nextKey : Nat := 1
  deriving DecidableEq, Repr

namespace DryRun

/-- The queries that create an object. -/
def objectOps : List String :=
  ["createBuffer", "createFramebuffer", "createProgram", "createRenderbuffer", "createShader",
    "createTexture", "getUniformLocation"]

/-- The queries for a status. -/
def statusOps : List String := ["getShaderParameter", "getProgramParameter"]

/-- The queries for a log. -/
def logOps : List String := ["getShaderInfoLog", "getProgramInfoLog"]

/-- The methods that the executor knows. -/
def methods : List String := objectOps ++ statusOps ++ logOps

/-- The constants that the executor knows. -/
def constants : Dictionary Double :=
  .ofList
    [("COMPILE_STATUS", .ofInt compileStatus.toNat), ("FRAGMENT_SHADER", .ofInt fragmentShader.toNat),
      ("LINK_STATUS", .ofInt linkStatus.toNat), ("VERTEX_SHADER", .ofInt vertexShader.toNat)]

/-- The key with the given number. -/
def keyText (n : Nat) : String := handleLead ++ toString n

/-- The value of a query by its operation. -/
def value (op : String) (e : DryRun) : Value × DryRun :=
  if op ∈ objectOps then (.string (keyText e.nextKey), { e with nextKey := e.nextKey + 1 })
  else if op ∈ statusOps then (.bool true, e)
  else if op ∈ logOps then (.string "", e)
  else (.null, e)

/-- The reply to a message. A query is answered for its last instruction. -/
def reply (message : Message) (e : DryRun) : Reply × DryRun :=
  match message with
  | .query is =>
    match is.getLast? with
    | none => (.queryError "empty query", e)
    | some last =>
      let (data, e) := value last.op e
      (.queryReply data, e)
  | .getConstants target => (.constantsReply target constants, e)
  | .getMethods target => (.methodsReply target methods, e)
  | .exec _ | .command _ => (.queryReply .null, e)

/-- The recording transport with a dry-run executor behind it. -/
def transport : Transport (Recording DryRun) := Recording.transport reply

/-- Nothing sent yet, no key given out yet. -/
def start : Recording DryRun := ⟨[], {}⟩

end DryRun

end GlBridge
