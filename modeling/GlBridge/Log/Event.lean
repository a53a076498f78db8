import GlBridge.Device.Stage
import GlBridge.Log.Record
import GlBridge.Wire.Message

/-!
# Events

What the parts of the program report while they work. An `Event` holds what
happened; how it is worded, how urgent it is and under which target it is filed is
said once, in `Event.record`. The events that only exist when tracing is on are
`Event.isTrace`.
-/

namespace GlBridge

/-- Something worth a log record. -/
inductive Event where
  /-- a call for its effect was issued -/
  | exec (op : String)
  /-- a call for its value was issued -/
  | query (op : String)
  /-- a message outside the stream of GL calls was issued -/
  | message (kind : MessageKind)
  /-- queued calls are about to be sent -/
  | flushing (count : Nat)
  /-- constants arrived -/
  | constantsReceived (count : Nat)
  /-- a chunk was closed that was not open -/
  | unmatchedEnd
  /-- a chunk was closed because of an error, and closing it failed as well -/
  | scopeFlushFailed (error : String)
  /-- a shader that did not compile could not be deleted -/
  | rejectedKept (stage : Stage) (error : String)
  | compileFailed (stage : Stage) (log : String)
  | compiled (stage : Stage) (shader : String)
  | linkFailed (program log : String)
  | linked (program : String)
  /-- a program does not use a uniform -/
  | uniformInactive (name : String)
  | programReady (program : String)
  | loggingInitialized
  /-- a logger was in place already and stays -/
  | loggerKept
  deriving DecidableEq

namespace Event

/-- The event is reported only when tracing is on. -/
def isTrace : Event → Bool
  | .exec _ | .query _ | .message _ => true
  | _ => false

/-- How urgent an event is. -/
def level : Event → Log.Level
  | .exec _ | .query _ | .message _ => .debug
  | .flushing _ => .trace
  | .constantsReceived _ => .debug
  | .unmatchedEnd | .scopeFlushFailed _ | .rejectedKept _ _ => .warn
  | .compileFailed _ _ | .linkFailed _ _ => .warn
  | .compiled _ _ | .linked _ => .debug
  | .uniformInactive _ => .warn
  | .programReady _ => .info
  | .loggingInitialized | .loggerKept => .debug

/-- The part of the program that an event comes from. -/
def target : Event → String
  | .exec _ | .query _ | .message _ | .flushing _ | .constantsReceived _ | .unmatchedEnd =>
    "jupytergl_remote::context"
  | .scopeFlushFailed _ => "jupytergl_engine::device::chunk"
  | .rejectedKept _ _ | .compileFailed _ _ | .compiled _ _ | .linkFailed _ _ | .linked _ =>
    "jupytergl_engine::glu::shader"
  | .uniformInactive _ | .programReady _ => "jupytergl_studio"
  | .loggingInitialized | .loggerKept => "jupytergl_engine::logging::init"

/-- The wording of an event. -/
def text : Event → String
  | .exec op => "exec " ++ op
  | .query op => "query " ++ op
  | .message kind => kind.tag
  | .flushing count => "flushing " ++ toString count ++ " instruction(s)"
  | .constantsReceived count => "received " ++ toString count ++ " gl constants"
  | .unmatchedEnd => "end_chunk without matching begin_chunk"
  | .scopeFlushFailed error => "gl chunk flush failed on scope exit: " ++ error
  | .rejectedKept stage error =>
    "failed to delete rejected " ++ stage.name ++ " shader: " ++ error
  | .compileFailed stage log => stage.name ++ " shader failed to compile: " ++ log
  | .compiled stage shader => "compiled " ++ stage.name ++ " shader " ++ shader
  | .linkFailed program log => "program " ++ program ++ " failed to link: " ++ log
  | .linked program => "linked program " ++ program
  | .uniformInactive name => "uniform " ++ name ++ " is not active in the program"
  | .programReady program => "program " ++ program ++ " ready"
  | .loggingInitialized => "logging initialized"
  | .loggerKept => "global logger already set; keeping it"

/-- The record of an event. -/
def record (e : Event) : Log.Record := ⟨e.level, e.target, e.text⟩

end Event

end GlBridge
