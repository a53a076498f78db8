import GlBridge.Studio.Run

/-!
# Running against an executor that answers in turn

An executor writes a reply only after it has read the request, so a run cannot be given
its whole input in advance. `awaited` runs the program on the input known so far and
says what has been written when it first needs a line that is not there yet: that much
is safe to hand on, and after another line has arrived the run can be taken further.
-/

namespace GlBridge

/-- A line-framed transport that notes what had been written when it first needed a line
that its source does not have. -/
structure WatchedLines where
  lines : Lines
  awaited : Option Bytes := none

namespace WatchedLines

/-- Notes that a line is needed now, if it is not there and none was missing before. -/
def note (t : WatchedLines) (frame : Lines) : Option Bytes :=
  if t.awaited.isNone && (splitLine? frame.source.bytes).isNone then some frame.sink.written
  else t.awaited

/-- Writes a frame and reads the reply, with a note if the reply is not there. -/
def request (message : Message) (buffers : List Bytes) (t : WatchedLines) :
    Except RemoteError Reply × WatchedLines :=
  match t.lines.writeFrame message buffers with
  | (.error e, lines) => (.error e, { t with lines })
  | (.ok (), written) =>
    let (reply, lines) := written.readReply
    -- once a line was missing the run is only a guess, and its later writes are not handed on
    (reply, { lines, awaited := t.note written })

/-- The line-framed transport with notes. -/
def transport : Transport WatchedLines where
  send message buffers t :=
    let (result, lines) := t.lines.writeFrame message buffers
    (result, { t with lines })
  request := request

end WatchedLines

namespace Studio

/-- What has been written when the run first needs a line that its source does not have;
none if it gets by with what there is. -/
def awaited (env : Surroundings) : Option Bytes :=
  match CommandLine.read env.args with
  | .run o =>
    if o.dryRun then none
    else
      match readSources env o with
      | .error _ => none
      | .ok (vertex, fragment) =>
        let start : Context WatchedLines :=
          { transport := { lines := { source := env.source } }, config := { trace := o.trace } }
        (run WatchedLines.transport vertex fragment start).state.transport.awaited
  | _ => none

end Studio

end GlBridge
