import GlBridge.Log.Record
import GlBridge.Text.Bytes

/-!
# Log filters

A filter decides which records are shown. It is a list of directives, each with a
threshold and perhaps a target: of those whose target begins the record's target,
the one with the longest target decides, a directive without a target being the
shortest. Where none fits, nothing is shown.

A filter is written as directives between commas: `LEVEL`, `TARGET=LEVEL`, or `TARGET`
alone, which shows everything (`Filter.read`). A directive that is none of these is
passed over with a warning. A filter without any directive shows errors.
-/

namespace GlBridge.Log

/-- The least urgent level that is shown; `none` shows nothing. -/
abbrev Threshold := Option Level

namespace Threshold

/-- The position of a threshold, zero for the strictest. -/
def rank : Threshold → Nat
  | none => 0
  | some level => level.rank

/-- Records of the level are shown. -/
def admits (t : Threshold) (level : Level) : Bool := level.rank ≤ rank t

/-- The word for a threshold. -/
def name : Threshold → String
  | none => "OFF"
  | some level => level.name

/-- All thresholds. -/
def all : List Threshold :=
  [none, some .error, some .warn, some .info, some .debug, some .trace]

/-- The more permissive of two thresholds. -/
def max (a b : Threshold) : Threshold := if rank a < rank b then b else a

/-- The threshold that a word stands for. The case of its letters does not matter. -/
def read? (cs : List Char) : Option Threshold :=
  all.find? fun t => (name t).toList = cs.map Char.toUpper

end Threshold

/-- One rule of a filter. -/
structure Directive where
  /-- how the target of a record must begin -/
  target : Option String
  threshold : Threshold
  deriving DecidableEq

namespace Directive

/-- The rule applies to records with the given target. -/
def applies (d : Directive) (target : String) : Bool :=
  match d.target with
  | none => true
  | some lead => Text.startsWith lead target

/-- How specific a rule is: the length of its target in bytes. -/
def weight (d : Directive) : Nat := (d.target.getD "").utf8ByteSize

/-- The warning about a directive that cannot be read. -/
def warning (cs : List Char) : String :=
  "warning: invalid logging spec '" ++ String.ofList cs ++ "', ignoring it"

/-- Reads a directive, or words a warning about it. -/
def read (cs : List Char) : Except String Directive :=
  match cs.splitOn '=' with
  | [part] =>
    match Threshold.read? part with
    | some threshold => .ok ⟨none, threshold⟩
    | none => .ok ⟨some (String.ofList part), some .trace⟩
  | [target, part] =>
    let part := Text.trim part
    if part.isEmpty then .ok ⟨some (String.ofList target), some .trace⟩
    else
      match Threshold.read? part with
      | some threshold => .ok ⟨some (String.ofList target), threshold⟩
      | none => .error (warning part)
  | _ => .error (warning cs)

end Directive

/-- The rules of a filter, of which no two have the same target. -/
structure Filter where
  directives : List Directive
  deriving DecidableEq

namespace Filter

/-- Adds a rule; it takes the place of one for the same target. -/
def insert (f : Filter) (d : Directive) : Filter :=
  if f.directives.any fun other => other.target = d.target then
    ⟨f.directives.map fun other => if other.target = d.target then d else other⟩
  else ⟨f.directives ++ [d]⟩

/-- The filter that shows what is at least as urgent as the threshold. -/
def uniform (t : Threshold) : Filter := ⟨[⟨none, t⟩]⟩

/-- The filter that some directives make up; without any, errors are shown. -/
def ofDirectives (ds : List Directive) : Filter :=
  if ds.isEmpty then uniform (some .error) else ds.foldl insert ⟨[]⟩

/-- Reads a filter. The second part is the warnings about what was passed over. -/
def read (s : String) : Filter × List String :=
  let parts := ((s.toList.splitOn ',').map Text.trim).filter fun part => !part.isEmpty
  let read := parts.map Directive.read
  (ofDirectives (read.filterMap Except.toOption),
    read.filterMap fun r => match r with | .error w => some w | .ok _ => none)

/-- The rule that decides about a target: the most specific one that applies, the last one
of several. -/
def directive? (f : Filter) (target : String) : Option Directive :=
  (f.directives.filter fun d => d.applies target).foldl
    (fun best d =>
      match best with
      | none => some d
      | some b => if b.weight ≤ d.weight then some d else some b)
    none

/-- The record is shown. -/
def shows (f : Filter) (r : Record) : Bool :=
  match f.directive? r.target with
  | none => false
  | some d => d.threshold.admits r.level

/-- The most permissive threshold of any rule. -/
def maxThreshold (f : Filter) : Threshold :=
  f.directives.foldl (fun t d => t.max d.threshold) none

end Filter

end GlBridge.Log
