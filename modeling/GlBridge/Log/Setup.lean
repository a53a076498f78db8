import GlBridge.Log.Event
import GlBridge.Log.Filter
import GlBridge.Text.Plain

/-!
# Setting up the log

A process has at most one logger, and the log is set up at most once. `Setup` is what
has been done so far. `Setup.install` installs a filtering logger the first time it
is called, unless the host installed a logger of its own before; that one stays.
`Setup.shows` tells what reaches the logger's output.
-/

namespace GlBridge.Log

/-- Who takes the records. -/
inductive Logger where
  /-- one that the host installed, which takes everything -/
  | host
  | filtering (f : Filter)
  deriving DecidableEq

/-- What has been set up in a process. -/
structure Setup where
  logger : Option Logger := none
  /-- the log was set up before -/
  initialized : Bool := false
  deriving DecidableEq

/-- What comes of setting up the log. -/
structure Report where
  setup : Setup
  /-- warnings about the filter's text -/
  warnings : List String := []
  /-- the records of setting up -/
  events : List Event := []

namespace Setup

/-- The least urgent level that is passed on at all. -/
def maxThreshold (s : Setup) : Threshold :=
  match s.logger with
  | none => none
  | some .host => some .trace
  | some (.filtering f) => f.maxThreshold

/-- The record reaches the output. -/
def shows (s : Setup) (r : Record) : Bool :=
  s.maxThreshold.admits r.level &&
    match s.logger with
    | none => false
    | some .host => true
    | some (.filtering f) => f.shows r

/-- The filter in force and the warnings about it: the configured text, or else that of
the environment, or else one that shows what is at least informative. -/
def chooseFilter (configured environment : Option String) : Filter × List String :=
  match configured.or environment with
  | some text => Filter.read text
  | none => (.uniform (some .info), [])

/-- Sets up the log, unless that was done before. -/
def install (s : Setup) (configured environment : Option String) : Report :=
  if s.initialized then ⟨s, [], []⟩
  else
    let (f, warnings) := chooseFilter configured environment
    -- the filter is read first, so its warnings appear also where the host's logger stays
    match s.logger with
    | some _ => ⟨{ s with initialized := true }, warnings, [.loggerKept]⟩
    | none => ⟨⟨some (.filtering f), true⟩, warnings, [.loggingInitialized]⟩

end Setup

/-- Pads a word with spaces to five characters. -/
def padded (word : String) : String :=
  word ++ String.ofList (List.replicate (5 - word.length) ' ')

/-- Puts a margin before every line but the first. -/
def indented (margin : Nat) (s : String) : String :=
  String.ofList (s.toList.flatMap fun c =>
    if c = '\n' then '\n' :: List.replicate margin ' ' else [c])

/-- How the filtering logger writes a record, with the newline behind it. Further lines of
the text are indented. The log is no terminal, so the whole entry is made plain; a text
that ends inside a sequence may thereby take the newline with it. -/
def Record.entry (r : Record) : String :=
  let header := "[" ++ padded r.level.name ++ (if r.target = "" then "" else " " ++ r.target) ++ "] "
  String.ofList (Text.plain (header ++ indented 4 r.text ++ "\n").toList)

end GlBridge.Log
