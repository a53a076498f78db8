import GlBridge.Log.Setup
import GlBridge.Remote.DryRun
import GlBridge.Remote.Lines
import GlBridge.Studio.Demo
import GlBridge.Studio.Options

/-!
# A run of the studio

What the program does with its arguments, its files and its input, as a function:
`Studio.execute` gives the exit code, the bytes of the output and the text of the error
output. Log records and error reports go to the error output, so that the output
carries nothing but messages.
-/

namespace GlBridge.Studio

/-- What a run gets to see. -/
structure Surroundings where
  args : List String
  /-- the bytes of a file, or the reason why they cannot be had -/
  contents : String → Except String Bytes
  /-- what the executor answers -/
  source : Source
  /-- the filter of the log -/
  logFilter : Option String

/-- What a run leaves behind. -/
structure Result where
  exitCode : UInt32
  output : Bytes
  /-- the error output -/
  errorText : String

/-- Why a run failed. -/
inductive Failure where
  | usage (error : UsageError)
  /-- a file could not be read -/
  | file (path reason : String)
  | demo (error : DemoError)

/-- The wording of a failure and of its causes, outermost first. -/
def Failure.chain : Failure → List String
  | .usage error => [error.message]
  | .file path reason => ["reading " ++ path, reason]
  | .demo error => error.chain

/-- Numbers the causes of a failure and aligns their further lines. -/
def numbered (n : Nat) : List String → List String
  | [] => []
  | cause :: rest =>
    let label := toString n
    (String.ofList (List.replicate (5 - label.length) ' ') ++ label ++ ": " ++
      Log.indented 7 cause) :: numbered (n + 1) rest

/-- The report of a failure: its wording and, below, that of its causes. -/
def report (chain : List String) : List String :=
  match chain with
  | [] => ["Error: "]
  | [text] => ["Error: " ++ text]
  | [text, cause] => ["Error: " ++ text, "", "Caused by:", "    " ++ Log.indented 4 cause]
  | text :: causes => ["Error: " ++ text, "", "Caused by:"] ++ numbered 0 causes

/-- Reads a text file. -/
def readText (env : Surroundings) (path : String) : Except Failure String :=
  match env.contents path with
  | .error reason => .error (.file path reason)
  | .ok bytes =>
    match Text.decode? bytes with
    | none => .error (.file path Lines.invalidText)
    | some s => .ok s

/-- Reads the two sources, the vertex shader first. -/
def readSources (env : Surroundings) (o : Options) : Except Failure (String × String) := do
  let vertex ← readText env o.vertexPath
  let fragment ← readText env o.fragmentPath
  return (vertex, fragment)

/-- A line of output for every message sent. -/
def listing (sent : List Sent) : Bytes :=
  sent.flatMap fun s => Text.encode s.message.render ++ [newline]

/-- What the demonstration results in, what was written, and what was reported. -/
structure Performance where
  result : Except DemoError Unit
  output : Bytes
  events : List Event

/-- Runs the demonstration against the dry-run executor. The messages are listed only if it
succeeds. -/
def performDry (config : Config) (vertex fragment : String) : Performance :=
  let out := run DryRun.transport vertex fragment { transport := DryRun.start, config }
  ⟨out.result,
    match out.result with
    | .ok () => listing out.state.transport.sent
    | .error _ => [],
    out.events⟩

/-- Runs the demonstration against an executor at the other end of the streams. -/
def performLive (config : Config) (source : Source) (vertex fragment : String) : Performance :=
  let out := run Lines.transport vertex fragment { transport := { source }, config }
  ⟨out.result, out.state.transport.sink.written, out.events⟩

/-- Runs the demonstration as the options ask. -/
def perform (o : Options) (source : Source) (vertex fragment : String) : Performance :=
  let config : Config := { trace := o.trace }
  if o.dryRun then performDry config vertex fragment
  else performLive config source vertex fragment

/-- Some lines, each with a newline behind it. -/
def printed (lines : List String) : String := String.join (lines.map (· ++ "\n"))

/-- What the log shows of some events. -/
def logText (setup : Log.Setup) (events : List Event) : String :=
  String.join (((events.map Event.record).filter setup.shows).map Log.Record.entry)

/-- Runs the program. -/
def execute (env : Surroundings) : Result :=
  let log := ({} : Log.Setup).install none env.logFilter
  let opening := printed log.warnings ++ logText log.setup log.events
  match CommandLine.read env.args with
  | .help => ⟨0, [], opening ++ printed [usage]⟩
  | .invalid e => ⟨1, [], opening ++ printed (report (Failure.usage e).chain)⟩
  | .run o =>
    match readSources env o with
    | .error e => ⟨1, [], opening ++ printed (report e.chain)⟩
    | .ok (vertex, fragment) =>
      let p := perform o env.source vertex fragment
      let shown := opening ++ logText log.setup p.events
      match p.result with
      | .ok () => ⟨0, p.output, shown⟩
      | .error e => ⟨1, p.output, shown ++ printed (report (Failure.demo e).chain)⟩

end GlBridge.Studio
