import GlBridge.Proofs.Remote.DryRun
import GlBridge.Proofs.Remote.Meaning

/-!
# The transcript of the demonstration

What the demonstration sends to the dry-run executor, message by message. `DryRun.script` is the
transcript: eighteen messages, in which the objects are named by the numbers of their keys, counted
from the key that is next when the demonstration begins. `transcript_of_demo` says that
the demonstration sends this, whatever its sources, unless one of them would be taken for a
reference. It stops then in front of the upload of that source, and what was sent so far is the
beginning of the same transcript.

The proof plays the builders and the uploads one after the other, by the rules of `DryRun.Plays`.
There are three runs to play, by which of the sources is the first to be refused, if any is.
-/

namespace GlBridge

namespace DryRun

/-! ### The messages -/

/-- The message that hands a source over and compiles it. -/
def uploads (shader : Handle) (source : String) : Sent :=
  ⟨.exec [.exec "shaderSource" [shader.argument, .string source],
    .exec "compileShader" [shader.argument]], []⟩

/-- The messages that build a shader. -/
def shaderScript (shader : Handle) (stage : Stage) (source : String) : List Sent :=
  [asks "createShader" [.word stage.glEnum], uploads shader source,
    asks "getShaderParameter" [shader.argument, .word compileStatus]]

/-- The messages that link a program. -/
def linkingScript (program vertex fragment : Handle) : List Sent :=
  [⟨.exec [.exec "attachShader" [program.argument, vertex.argument],
      .exec "attachShader" [program.argument, fragment.argument],
      .exec "linkProgram" [program.argument]], []⟩,
    asks "getProgramParameter" [program.argument, .word linkStatus]]

/-- The messages that build a program when the next key has this number. -/
def programScript (n : Nat) (vertex fragment : String) : List Sent :=
  asks "createProgram" [] :: (shaderScript (handle (n + 1)) .vertex vertex ++
    (shaderScript (handle (n + 2)) .fragment fragment ++
      linkingScript (handle n) (handle (n + 1)) (handle (n + 2))))

/-- The messages that upload matrices when the next key has this number. -/
def uniformScript (program : Handle) : Nat → List (String × Mat4 Single) → List Sent
  | _, [] => []
  | n, (name, m) :: rest =>
    asks "getUniformLocation" [program.argument, .string name] ::
      ⟨.exec [.exec "uniformMatrix4fv"
        [(handle n).argument, .bool false, ElementType.float32.argument]], [m.bytes]⟩ ::
      uniformScript program (n + 1) rest

/-- The messages of the demonstration when the next key has this number. -/
def script (n : Nat) (vertex fragment : String) : List Sent :=
  programScript n vertex fragment ++
    ([⟨.exec [.exec "deleteShader" [(handle (n + 1)).argument]], []⟩,
      ⟨.exec [.exec "deleteShader" [(handle (n + 2)).argument]], []⟩,
      ⟨.exec [.exec "useProgram" [(handle n).argument]], []⟩] ++
      uniformScript (handle n) (n + 3) Studio.uniforms)

/-! ### The builders -/

/-- Why a build fails whose source would be taken for a reference. -/
def refusal (source : String) : ShaderError RemoteError := .context (.protocol (.reference source))

variable {n : Nat} {stage : Stage} {source vertex fragment : String}

/-- **A shader is built in three messages**: it is created, its source is compiled, and its status
is asked for. -/
theorem plays_makeShader (h : isReference source = false) :
    Plays ((Context.gl transport).makeShader source stage) n (.ok (handle n))
      (shaderScript (handle n) stage source) (n + 1) := by
  have hcreate : Plays ((Context.gl transport).createShader stage) n (.ok (handle n))
      [asks "createShader" [.word stage.glEnum]] (n + 1) := Plays.queryHandle (by decide) _
  -- the source is checked inside the chunk, and then both calls are queued
  have hsource : Context.Queues ((Context.gl transport).shaderSource (handle n) source)
      [.exec "shaderSource" [(handle n).argument, .string source]] (.ok ()) := by
    rintro _ hdepth c rfl
    rw [Operation.shaderSource_of_plain transport (handle n) h]
    exact Context.Queues.exec _ _ c hdepth c rfl
  have hupload : Plays ((Context.gl transport).scope do
      (Context.gl transport).shaderSource (handle n) source
      (Context.gl transport).compileShader (handle n)) (n + 1) (.ok ())
      [uploads (handle n) source] (n + 1) :=
    Plays.scope (hsource.bind (Context.Queues.exec "compileShader" [(handle n).argument]))
  have hstatus : Plays ((Context.gl transport).shaderParameter (handle n) compileStatus) (n + 1)
      (.ok true) [asks "getShaderParameter" [(handle n).argument, .word compileStatus]] (n + 1) :=
    Plays.queryStatus (by decide) _
  refine (hcreate.mapError _).bind ((hupload.mapError _).bind ((hstatus.mapError _).bind ?_))
  exact (Plays.emit _).bind (Plays.pure (handle n))

/-- A source that would be taken for a reference is not sent, and its shader is not compiled. -/
theorem plays_makeShader_refused (h : isReference source = true) :
    Plays ((Context.gl transport).makeShader source stage) n (.error (refusal source))
      [asks "createShader" [.word stage.glEnum]] (n + 1) := by
  have hcreate : Plays ((Context.gl transport).createShader stage) n (.ok (handle n))
      [asks "createShader" [.word stage.glEnum]] (n + 1) := Plays.queryHandle (by decide) _
  have hsource : Context.Queues ((Context.gl transport).shaderSource (handle n) source) []
      (.error (.protocol (.reference source))) :=
    (Context.Queues.refused (literal_of_reference h)).bind_error
  -- the chunk is dropped with nothing in it
  have hupload : Plays ((Context.gl transport).scope do
      (Context.gl transport).shaderSource (handle n) source
      (Context.gl transport).compileShader (handle n)) (n + 1)
      (.error (.protocol (.reference source))) [] (n + 1) := Plays.scope hsource.bind_error
  exact (hcreate.mapError _).bind (hupload.mapError _).bind_error

/-- The program has the next key. -/
theorem plays_createProgram :
    Plays (Context.gl transport).createProgram n (.ok (handle n)) [asks "createProgram" []]
      (n + 1) :=
  Plays.queryHandle (by decide) _

/-- **A program is built in nine messages**: its own creation, three for each shader, and two to
link it. -/
theorem plays_makeProgram (hvertex : isReference vertex = false)
    (hfragment : isReference fragment = false) :
    Plays ((Context.gl transport).makeProgram vertex fragment) n
      (.ok ⟨handle n, handle (n + 1), handle (n + 2)⟩) (programScript n vertex fragment)
      (n + 3) := by
  -- the two shaders are joined in one chunk, and so in one message
  have hlinking : Plays ((Context.gl transport).scope do
      (Context.gl transport).attachShader (handle n) (handle (n + 1))
      (Context.gl transport).attachShader (handle n) (handle (n + 2))
      (Context.gl transport).linkProgram (handle n)) (n + 3) (.ok ()) _ (n + 3) :=
    Plays.scope ((Context.Queues.exec _ _).bind
      ((Context.Queues.exec _ _).bind (Context.Queues.exec _ _)))
  have hstatus : Plays ((Context.gl transport).programParameter (handle n) linkStatus) (n + 3)
      (.ok true) [asks "getProgramParameter" [(handle n).argument, .word linkStatus]] (n + 3) :=
    Plays.queryStatus (by decide) _
  refine (plays_createProgram.mapError _).bind ?_
  refine (plays_makeShader hvertex).bind ((plays_makeShader hfragment).bind ?_)
  refine (hlinking.mapError _).bind ((hstatus.mapError _).bind ?_)
  exact (Plays.emit _).bind (Plays.pure _)

/-! ### The demonstration -/

/-- For each uniform there are two messages: one that asks for its location, and one with its
matrix. -/
theorem plays_uploadUniforms (program : Handle) {us : List (String × Mat4 Single)}
    (h : ∀ u ∈ us, isReference u.1 = false) :
    Plays (Studio.uploadUniforms transport program us) n (.ok ()) (uniformScript program n us)
      (n + us.length) := by
  induction us generalizing n with
  | nil => exact Plays.pure ()
  | cons u rest ih =>
    obtain ⟨name, m⟩ := u
    have hlocation := Plays.getUniformLocation (n := n) program (h _ List.mem_cons_self)
    have hupload : Plays (Context.uniformMatrix transport (handle n) m) (n + 1) (.ok ()) _ (n + 1) :=
      Plays.execWithBuffer "uniformMatrix4fv" _ m.bytes
    -- the location has the next key, and the matrix is sent there
    have hfirst : Plays (Studio.uploadUniform transport program name m) n (.ok ()) _ (n + 1) :=
      hlocation.bind hupload
    have hrest := ih (n := n + 1) fun u hu => h u (List.mem_cons_of_mem _ hu)
    have hlength : n + ((name, m) :: rest).length = n + 1 + rest.length := by
      rw [List.length_cons]
      omega
    rw [hlength]
    exact hfirst.bind hrest

/-- None of the names of the uniforms would be taken for a reference. -/
theorem isReference_uniforms : ∀ u ∈ Studio.uniforms, isReference u.1 = false := by decide

/-- **The demonstration sends its script**, and takes six keys. -/
theorem plays_run (hvertex : isReference vertex = false) (hfragment : isReference fragment = false) :
    Plays (Studio.run transport vertex fragment) n (.ok ()) (script n vertex fragment) (n + 6) := by
  have hdelete : Plays ((Context.gl transport).deleteShaders
      ⟨handle n, handle (n + 1), handle (n + 2)⟩) (n + 3) (.ok (handle n)) _ (n + 3) :=
    (Plays.exec _ _).bind ((Plays.exec _ _).bind (Plays.pure _))
  have huse : Plays (Context.useProgram transport (handle n)) (n + 3) (.ok ()) _ (n + 3) :=
    Plays.exec _ _
  have huniforms := plays_uploadUniforms (n := n + 3) (handle n) isReference_uniforms
  have hready : Plays (ε := Studio.DemoError) (Action.emit (.programReady (handle n).key)) (n + 6)
      (.ok ()) [] (n + 6) := Plays.emit _
  -- the remark at the end is no message
  have hend := (huniforms.mapError Studio.DemoError.remote).bind (f := fun _ => _) hready
  rw [List.append_nil] at hend
  refine ((plays_makeProgram hvertex hfragment).mapError _).bind ?_
  exact (hdelete.mapError _).bind ((huse.mapError _).bind hend)

/-- A refused vertex source stops the demonstration in front of its upload. -/
theorem plays_run_vertex (hvertex : isReference vertex = true) :
    Plays (Studio.run transport vertex fragment) n (.error (.building (refusal vertex)))
      ((script n vertex fragment).take 2) (n + 2) := by
  have hbuild : Plays ((Context.gl transport).makeProgram vertex fragment) n
      (.error (refusal vertex)) _ (n + 2) :=
    (plays_createProgram.mapError _).bind (plays_makeShader_refused hvertex).bind_error
  exact (hbuild.mapError _).bind_error

/-- So does a refused fragment source, behind the vertex shader. -/
theorem plays_run_fragment (hvertex : isReference vertex = false)
    (hfragment : isReference fragment = true) :
    Plays (Studio.run transport vertex fragment) n (.error (.building (refusal fragment)))
      ((script n vertex fragment).take 5) (n + 3) := by
  have hbuild : Plays ((Context.gl transport).makeProgram vertex fragment) n
      (.error (refusal fragment)) _ (n + 3) :=
    (plays_createProgram.mapError _).bind
      ((plays_makeShader hvertex).bind (plays_makeShader_refused hfragment).bind_error)
  exact (hbuild.mapError _).bind_error

/-- The sources occur in two messages only, each in its own. -/
theorem script_sources (n : Nat) (vertex fragment vertex' fragment' : String) :
    script n vertex fragment =
      ((script n vertex' fragment').set 2 (uploads (handle (n + 1)) vertex)).set 5
        (uploads (handle (n + 2)) fragment) :=
  rfl

end DryRun

/-- **The transcript of the demonstration.** Take any two sources and any context over the dry-run
executor to which steps can lead and in which no chunk is open, and let `n` be the number of the
next key. The demonstration succeeds if and only if neither source would be taken for a reference.
It then sends the eighteen messages of the script, in which the program has the key `n`, the
shaders have the next two keys and the locations the three after them, and the sources occur
nowhere but in the upload of each stage. Otherwise it fails for the first source that is refused, and
sends the beginning of the script that ends with the creation of the shader of that stage. -/
theorem transcript_of_demo (config : Config) (history : List Step) (vertex fragment : String)
    (hidle : (Step.session DryRun.transport history
      (Context.start config DryRun.start)).state.depth = 0) :
    let c := (Step.session DryRun.transport history (Context.start config DryRun.start)).state
    let n := c.transport.responder.nextKey
    let script := DryRun.script n vertex fragment
    let out := Studio.run DryRun.transport vertex fragment c
    (out.result = .ok () ↔ isReference vertex = false ∧ isReference fragment = false) ∧
      (isReference vertex = false → isReference fragment = false →
        out.state = DryRun.played c script (n + 6)) ∧
      (isReference vertex = true →
        out.result = .error (.building (DryRun.refusal vertex)) ∧
          out.state = DryRun.played c (script.take 2) (n + 2) ∧
          (script.take 2).getLast? =
            some (DryRun.asks "createShader" [.word Stage.vertex.glEnum])) ∧
      (isReference vertex = false → isReference fragment = true →
        out.result = .error (.building (DryRun.refusal fragment)) ∧
          out.state = DryRun.played c (script.take 5) (n + 3) ∧
          (script.take 5).getLast? =
            some (DryRun.asks "createShader" [.word Stage.fragment.glEnum])) ∧
      script.length = 18 ∧
      (∀ vertex' fragment' : String, script =
        ((DryRun.script n vertex' fragment').set 2
          (DryRun.uploads (DryRun.handle (n + 1)) vertex)).set 5
          (DryRun.uploads (DryRun.handle (n + 2)) fragment)) := by
  intro c n script out
  have hsettled : c.Settled := Step.settled_session _ history (Context.settled_start config _)
  have hready : DryRun.Ready n c := ⟨hidle, hsettled.drained hidle, rfl⟩
  have hplayed : isReference vertex = false → isReference fragment = false →
      out.result = .ok () ∧ out.state = DryRun.played c script (n + 6) := fun hv hf =>
    DryRun.plays_run hv hf c hready c rfl
  have hvertex : isReference vertex = true → out.result = .error (.building (DryRun.refusal vertex)) ∧
      out.state = DryRun.played c (script.take 2) (n + 2) := fun hv =>
    DryRun.plays_run_vertex hv c hready c rfl
  have hfragment : isReference vertex = false → isReference fragment = true →
      out.result = .error (.building (DryRun.refusal fragment)) ∧
        out.state = DryRun.played c (script.take 5) (n + 3) := fun hv hf =>
    DryRun.plays_run_fragment hv hf c hready c rfl
  refine ⟨⟨fun hok => ?_, fun h => (hplayed h.1 h.2).1⟩, fun hv hf => (hplayed hv hf).2,
    fun hv => ⟨(hvertex hv).1, (hvertex hv).2, rfl⟩,
    fun hv hf => ⟨(hfragment hv hf).1, (hfragment hv hf).2, rfl⟩, rfl,
    DryRun.script_sources n vertex fragment⟩
  -- the other two runs fail, so neither of them is the one that succeeded
  cases hv : isReference vertex with
  | true => rw [(hvertex hv).1] at hok; cases hok
  | false =>
    cases hf : isReference fragment with
    | true => rw [(hfragment hv hf).1] at hok; cases hok
    | false => exact ⟨rfl, rfl⟩

/-- The second demonstration on one context, with a fragment source that would be taken for the
program of the first one. -/
theorem transcript_of_demo_refused :
    let c := (Step.session DryRun.transport [.demo "v" "f"] (Context.start {} DryRun.start)).state
    c.depth = 0 ∧ isReference "key1" = true ∧
      (Studio.run DryRun.transport "v" "key1" c).result =
        .error (.building (DryRun.refusal "key1")) := by
  intro c
  have hdepth : c.depth = 0 := Step.depth_session DryRun.transport (by simp [Step.isBatching]) _
  have hrun := transcript_of_demo {} [.demo "v" "f"] "v" "key1" hdepth
  exact ⟨hdepth, rfl, (hrun.2.2.2.1 rfl rfl).1⟩

end GlBridge
