import GlBridge.Text.Bytes

/-!
# Command line of the studio

The arguments are two paths, of the vertex and the fragment shader, and among them flags
at any place. They are taken from left to right, and the first argument that asks for
help or is an unknown flag decides at once.
-/

namespace GlBridge.Studio

/-- The line that explains the arguments. -/
def usage : String :=
  "usage: jupytergl-studio [--dry-run] [--trace] <vertex.glsl> <fragment.glsl>"

/-- What the arguments ask for. -/
structure Options where
  /-- record the messages instead of talking to an executor -/
  dryRun : Bool
  /-- report every call -/
  trace : Bool
  vertexPath : String
  fragmentPath : String
  deriving DecidableEq, Repr

/-- Why the arguments are of no use. -/
inductive UsageError where
  | unknownFlag (flag : String)
  /-- there are not exactly two paths -/
  | wrongPaths
  deriving DecidableEq, Repr

/-- The wording of an error in the arguments. -/
def UsageError.message : UsageError → String
  | .unknownFlag flag => "unknown flag " ++ flag ++ "\n" ++ usage
  | .wrongPaths => "expected two shader paths\n" ++ usage

/-- What is to be done about the arguments. -/
inductive CommandLine where
  | run (options : Options)
  | help
  | invalid (error : UsageError)
  deriving DecidableEq, Repr

/-- Takes the arguments from left to right. `paths` are those found so far, the last one
first. -/
def readArguments (dryRun trace : Bool) (paths : List String) : List String → CommandLine
  | [] =>
    match paths with
    | [fragmentPath, vertexPath] => .run { dryRun, trace, vertexPath, fragmentPath }
    | _ => .invalid .wrongPaths
  | arg :: rest =>
    if arg = "--dry-run" then readArguments true trace paths rest
    else if arg = "--trace" then readArguments dryRun true paths rest
    else if arg = "-h" ∨ arg = "--help" then .help
    else if Text.startsWith "--" arg then .invalid (.unknownFlag arg)
    else readArguments dryRun trace (arg :: paths) rest

/-- Reads the arguments. -/
def CommandLine.read (args : List String) : CommandLine := readArguments false false [] args

end GlBridge.Studio
