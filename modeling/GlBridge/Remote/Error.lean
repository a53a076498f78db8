import GlBridge.Wire.Argument
import GlBridge.Wire.Message

/-!
# Failures of a remote executor

`RemoteError` lists the causes; `RemoteError.message` words them, and
`RemoteError.chain` adds the underlying cause where there is one.
-/

namespace GlBridge

/-- Why a JSON text could not be read or written. -/
inductive JsonFault where
  /-- the text is not what it should be -/
  | unreadable
  /-- the stream refused the text -/
  | refused (text : String)
  deriving DecidableEq, Repr

/-- The wording of a fault. -/
def JsonFault.message : JsonFault → String
  | .unreadable => "<parse error>"
  | .refused text => text

/-- A failure in talking to the executor. -/
inductive RemoteError where
  /-- the stream failed -/
  | io (text : String)
  | json (fault : JsonFault)
  /-- the executor raised an error in evaluating a query -/
  | query (message : String)
  | unexpectedReply (expected got : ReplyKind)
  /-- there are no more replies -/
  | closed
  | protocol (violation : Violation)

namespace RemoteError

/-- The wording of a failure. -/
def message : RemoteError → String
  | .io text => "transport i/o failed: " ++ text
  | .json fault => "malformed json: " ++ fault.message
  | .query message => "remote query failed: " ++ message
  | .unexpectedReply expected got => "expected " ++ expected.tag ++ ", got " ++ got.tag
  | .closed => "transport closed"
  | .protocol violation => "protocol error: " ++ violation.message

/-- The wording of a failure and then of its cause, if it has one. -/
def chain : RemoteError → List String
  | .io text => [message (.io text), text]
  | .json fault => [message (.json fault), fault.message]
  | e => [e.message]

end RemoteError

end GlBridge
