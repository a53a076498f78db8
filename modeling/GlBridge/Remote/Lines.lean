import GlBridge.Remote.Transport
import GlBridge.Wire.Frame

/-!
# Messages over a pair of byte streams

The transport to an executor behind a byte stream. Each message leaves as a frame
(`Message.frame`) followed by a flush; each reply is one line of JSON.

* A `Source` is what can still be read and how the stream ends.
* A `Sink` is what was written, how much more is taken, and whether flushing works. A
  write that does not fit is taken as far as it fits and then refused.
* `Lines.request` reads a line only after its frame was written and flushed, and it
  consumes the line also if that is no reply.
-/

namespace GlBridge

/-! ### Streams -/

/-- A stream to read from. -/
structure Source where
  bytes : Bytes
  /-- the failure of reading at the end, if the stream does not just end there -/
  failure : Option String := none

/-- A stream to write to. -/
structure Sink where
  /-- what was written -/
  written : Bytes := []
  /-- how many more bytes are taken, if they are limited -/
  room : Option Nat := none
  flushFails : Bool := false

/-- The newline byte. -/
def newline : UInt8 := 10

/-- Splits off the first line, with its newline, if there is a newline. -/
def splitLine? : Bytes → Option (Bytes × Bytes)
  | [] => none
  | b :: rest =>
    if b = newline then some ([b], rest)
    else (splitLine? rest).map fun (line, rest) => (b :: line, rest)

namespace Source

/-- Reads a line: up to and with the next newline, or else up to the end. At the end there
is no line, or the stream's failure; what stands before the failure is lost. -/
def readLine (s : Source) : Except String (Option Bytes) × Source :=
  match splitLine? s.bytes with
  | some (line, rest) => (.ok (some line), { s with bytes := rest })
  | none =>
    match s.failure with
    | some text => (.error text, { s with bytes := [] })
    | none => (.ok (if s.bytes = [] then none else some s.bytes), { s with bytes := [] })

end Source

namespace Sink

/-- The failure of a write that does not fit. -/
def fullText : String := "sink full"

/-- The failure of a flush. -/
def flushText : String := "sink flush failed"

/-- Writes some bytes, or as many as fit. The result says whether all were taken. -/
def write (bytes : Bytes) (s : Sink) : Bool × Sink :=
  match s.room with
  | none => (true, { s with written := s.written ++ bytes })
  | some room =>
    -- the subtraction stops at zero, which is when the sink is full
    (bytes.length ≤ room,
      { s with written := s.written ++ bytes.take room, room := some (room - bytes.length) })

end Sink

/-! ### The transport -/

/-- The two streams of a line-framed transport. -/
structure Lines where
  source : Source
  sink : Sink := {}

namespace Lines

/-- The failure of a line that is not well-formed UTF-8. -/
def invalidText : String := "stream did not contain valid UTF-8"

/-- Writes the frame of a message and flushes it. -/
def writeFrame (message : Message) (buffers : List Bytes) (t : Lines) :
    Except RemoteError Unit × Lines :=
  let (taken, sink) := t.sink.write (message.headerBytes buffers)
  if !taken then (.error (.json (.refused Sink.fullText)), { t with sink })
  else
    let (taken, sink) := sink.write (newline :: buffers.flatten)
    if !taken then (.error (.io Sink.fullText), { t with sink })
    else if sink.flushFails then (.error (.io Sink.flushText), { t with sink })
    else (.ok (), { t with sink })

/-- The reply that a line holds. White space at its end is ignored. -/
def parseLine (line : Bytes) : Except RemoteError Reply :=
  match Text.decode? line with
  | none => .error (.io invalidText)
  | some s =>
    match Reply.read? (String.ofList (Text.trimEnd s.toList)) with
    | none => .error (.json .unreadable)
    | some reply => .ok reply

/-- Reads the line of a reply. -/
def readReply (t : Lines) : Except RemoteError Reply × Lines :=
  let (line, source) := t.source.readLine
  let t := { t with source }
  match line with
  | .error text => (.error (.io text), t)
  | .ok none => (.error .closed, t)
  | .ok (some line) => (parseLine line, t)

/-- Writes the frame of a message and reads the reply to it. -/
def request (message : Message) (buffers : List Bytes) (t : Lines) :
    Except RemoteError Reply × Lines :=
  match t.writeFrame message buffers with
  | (.error e, t) => (.error e, t)
  | (.ok (), t) => t.readReply

/-- The line-framed transport. -/
def transport : Transport Lines where
  send := writeFrame
  request := request

end Lines

end GlBridge
