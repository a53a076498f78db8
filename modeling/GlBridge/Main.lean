import GlBridge.Studio.Live

/-!
# The program

Connects `Studio.execute` to the arguments, the files, the standard streams and the
environment. Everything that is decided is decided there; this module only reads and
writes.
-/

namespace GlBridge.Studio

/-- The wording of a failure to read a file. -/
def reasonOf : IO.Error → String
  | .noFileOrDirectory _ _ _ => "No such file or directory (os error 2)"
  | .inappropriateType _ 21 _ => "Is a directory (os error 21)"
  | e => toString e

/-- The bytes of a file, or the reason why they cannot be had. -/
def fileContents (path : String) : IO (Except String Bytes) := do
  try
    return .ok (← IO.FS.readBinFile path).data.toList
  catch e =>
    return .error (reasonOf e)

/-- Reads the files that the arguments name. -/
def namedFiles (args : List String) : IO (List (String × Except String Bytes)) :=
  match CommandLine.read args with
  | .run o => [o.vertexPath, o.fragmentPath].mapM fun path => do
      return (path, ← fileContents path)
  | _ => return []

/-- Reads bytes up to a newline or the end. Returns what was read, in order, and whether
the line is complete. -/
partial def readLine (input : IO.FS.Stream) (read : Array UInt8) : IO (Bytes × Bool) := do
  let bytes ← input.read 1
  match bytes.data.toList with
  | [] => return (read.toList, false)
  | b :: _ => if b = newline then return ((read.push b).toList, true) else readLine input (read.push b)

/-- Writes bytes and hands them on at once. -/
def put (stream : IO.FS.Stream) (bytes : Bytes) : IO Unit := do
  stream.write ⟨bytes.toArray⟩
  stream.flush

/-- Runs the program on what is known of its input, reading on whenever it needs more.
`printed` counts the bytes of output that were handed on. -/
partial def serve (input output : IO.FS.Stream) (env : Surroundings) (printed : Nat)
    (ended : Bool) : IO Result := do
  match if ended then none else awaited env with
  | some written =>
    put output (written.drop printed)
    let (line, complete) ← readLine input #[]
    let source := { env.source with bytes := env.source.bytes ++ line }
    serve input output { env with source } written.length (!complete)
  | none =>
    let result := execute env
    put output (result.output.drop printed)
    return result

end GlBridge.Studio

open GlBridge.Studio in
/-- Runs the studio on its arguments. -/
def main (args : List String) : IO UInt32 := do
  let files ← namedFiles args
  let env : Surroundings :=
    { args
      contents := fun path => (files.lookup path).getD (.error "not read")
      source := { bytes := [] }
      logFilter := ← IO.getEnv "RUST_LOG" }
  let result ← serve (← IO.getStdin) (← IO.getStdout) env 0 false
  IO.eprint result.errorText
  return result.exitCode
