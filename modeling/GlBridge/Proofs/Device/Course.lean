import GlBridge.Proofs.Action.Course
import GlBridge.Proofs.Device.Correspondence

/-!
# What the builders make of a device

The course of each shader builder, over any device: the calls that it makes, in order, with what
comes of each, and the result that follows from them. `Gl.Call` lists the calls of a device and
`Gl.Deed` is a call with its result. The courses are inductive, with one constructor for each place
at which a builder can end:

* `UploadCourse` and `LinkingCourse` for the two chunks,
* `RejectCourse` for a shader that does not compile,
* `ShaderCourse` and `ProgramCourse` for the builders (`Gl.makeShader_tells`,
  `Gl.makeProgram_tells`),
* `ReleaseCourse` for the deletion of accepted shaders (`Gl.deleteShaders_follows`).

What a builder reports of its own is told for a single shader (`Gl.shaderReports`): how the build
went, and before that every failure that came behind the first one and so could not be
the result.
-/

namespace GlBridge

namespace Gl

variable {σ Shader Program ε δ α : Type}

/-! ### Calls and deeds -/

/-- The calls of a device, by the type of what they deliver. -/
inductive Call (Shader Program : Type) : Type → Type where
  | createShader (stage : Stage) : Call Shader Program Shader
  | createProgram : Call Shader Program Program
  | shaderSource (shader : Shader) (source : String) : Call Shader Program Unit
  | compileShader (shader : Shader) : Call Shader Program Unit
  | attachShader (program : Program) (shader : Shader) : Call Shader Program Unit
  | linkProgram (program : Program) : Call Shader Program Unit
  | shaderParameter (shader : Shader) (name : UInt32) : Call Shader Program Bool
  | programParameter (program : Program) (name : UInt32) : Call Shader Program Bool
  | shaderInfoLog (shader : Shader) : Call Shader Program String
  | programInfoLog (program : Program) : Call Shader Program String
  | deleteShader (shader : Shader) : Call Shader Program Unit
  | beginChunk : Call Shader Program Unit
  | endChunk : Call Shader Program Unit

/-- The call opens or closes a chunk. -/
def Call.isChunk {α : Type} : Call Shader Program α → Bool
  | .beginChunk => true
  | .endChunk => true
  | _ => false

/-- Makes a call. -/
def perform (gl : Gl σ Shader Program ε) : {α : Type} → Call Shader Program α → Action σ ε α
  | _, .createShader stage => gl.createShader stage
  | _, .createProgram => gl.createProgram
  | _, .shaderSource shader source => gl.shaderSource shader source
  | _, .compileShader shader => gl.compileShader shader
  | _, .attachShader program shader => gl.attachShader program shader
  | _, .linkProgram program => gl.linkProgram program
  | _, .shaderParameter shader name => gl.shaderParameter shader name
  | _, .programParameter program name => gl.programParameter program name
  | _, .shaderInfoLog shader => gl.shaderInfoLog shader
  | _, .programInfoLog program => gl.programInfoLog program
  | _, .deleteShader shader => gl.deleteShader shader
  | _, .beginChunk => Action.modify gl.beginChunk
  | _, .endChunk => gl.endChunk

/-- A call with what came of it. -/
structure Deed (Shader Program ε : Type) where
  /-- The type of what the call delivers, which goes with the call. -/
  {delivers : Type}
  call : Call Shader Program delivers
  result : Except ε delivers

/-- The call has this result and leads there. -/
def Does (gl : Gl σ Shader Program ε) (d : Deed Shader Program ε) (s t : σ) : Prop :=
  (gl.perform d.call s).result = d.result ∧ (gl.perform d.call s).state = t

/-- The call did not fail. -/
def Deed.Succeeded (d : Deed Shader Program ε) : Prop := ∃ a, d.result = .ok a

/-- The call has this result, reports this and leads there. -/
def Reports (gl : Gl σ Shader Program ε) (d : Deed Shader Program ε) (es : List Event) (s t : σ) :
    Prop :=
  gl.Does d s t ∧ (gl.perform d.call s).events = es

/-- A call is a course of one deed. -/
theorem follows_perform (gl : Gl σ Shader Program ε) (call : Call Shader Program α) :
    Action.Follows gl.Does (gl.perform call) fun ds r => ds = [⟨call, r⟩] :=
  fun _ => ⟨[⟨call, _⟩], ⟨_, ⟨rfl, rfl⟩, rfl⟩, rfl⟩

/-- And it reports nothing beside what the device does. -/
theorem tells_perform (gl : Gl σ Shader Program ε) (call : Call Shader Program α) :
    Action.Tells gl.Reports (gl.perform call) fun ds es r => ds = [⟨call, r⟩] ∧ es = [] :=
  fun _ => ⟨[.did ⟨call, _⟩ _], ⟨_, ⟨⟨⟨rfl, rfl⟩, rfl⟩, rfl⟩, rfl⟩, rfl, rfl⟩

/-- A path along deeds that report something is one along deeds. -/
theorem does_of_reports {gl : Gl σ Shader Program ε} {ds : List (Deed Shader Program ε)} {s t : σ}
    (h : Path (fun d s t => ∃ es, gl.Reports d es s t) ds s t) : Path gl.Does ds s t := by
  have hleads : ∀ d s t, (∃ es, gl.Reports d es s t) → gl.Does (id d) s t := fun d s t hd =>
    hd.elim fun _ hd => hd.1
  have hdoes := h.map hleads
  rwa [List.map_id] at hdoes

/-- Where what is reported does not matter, the deeds are left. -/
theorem follows_of_tells {gl : Gl σ Shader Program ε} {φ : Type} {x : Action σ φ α}
    {P : List (Deed Shader Program ε) → List Event → Except φ α → Prop}
    {Q : List (Deed Shader Program ε) → Except φ α → Prop} (hx : Action.Tells gl.Reports x P)
    (h : ∀ ds es r, P ds es r → Q ds r) : Action.Follows gl.Does x Q := by
  intro s
  obtain ⟨ds, hpath, es, hP⟩ := hx.follows s
  exact ⟨ds, does_of_reports hpath, h ds es _ hP⟩

/-! ### Chunks -/

/-- What is done in a chunk, with its opening and its closing. -/
def inChunk (ds : List (Deed Shader Program ε)) (closing : Except ε Unit) :
    List (Deed Shader Program ε) :=
  ⟨.beginChunk, .ok ()⟩ :: (ds ++ [⟨.endChunk, closing⟩])

variable (gl : Gl σ Shader Program ε)

/-- Opening a chunk succeeds. -/
theorem beginChunk_tells :
    Action.Tells gl.Reports (Action.modify gl.beginChunk : Action σ δ Unit)
      fun ds es r => ds = [⟨.beginChunk, .ok ()⟩] ∧ es = [] ∧ r = .ok () :=
  fun _ => ⟨[.did ⟨.beginChunk, _⟩ _], ⟨_, ⟨⟨⟨rfl, rfl⟩, rfl⟩, rfl⟩, rfl⟩, rfl, rfl, rfl⟩

/-- A failure to close a chunk on the way out is reported, and not passed on. -/
theorem dropChunk_tells :
    Action.Tells gl.Reports (gl.dropChunk : Action σ δ Unit) fun ds es r =>
      ∃ closing, ds = [⟨.endChunk, closing⟩] ∧ es = gl.dropEvents closing ∧ r = .ok () := by
  refine (gl.tells_perform .endChunk).attempt_bind ?_
  rintro _ _ (e | u) ⟨rfl, rfl⟩
  · exact Action.tells_emit_bind (Action.tells_of_ok ⟨.error e, rfl, rfl, rfl⟩)
  · exact Action.tells_of_ok ⟨.ok (), rfl, rfl, rfl⟩

/-- **A chunk is closed once, and behind its body.** The body's error is that of the whole; if there
is none, the closing decides. -/
theorem scope_tells {body : Action σ ε α}
    {P Q : List (Deed Shader Program ε) → List Event → Except ε α → Prop}
    (hbody : Action.Tells gl.Reports body P)
    (herror : ∀ ds es e r, P ds es (.error e) →
      Q (inChunk ds r) (es ++ gl.dropEvents r) (.error e))
    (hok : ∀ ds es a r, P ds es (.ok a) → Q (inChunk ds r) es (r.map fun _ => a)) :
    Action.Tells gl.Reports (gl.scope body) Q := by
  unfold scope
  refine gl.beginChunk_tells.bind ?_ ?_
  · rintro _ _ e ⟨-, -, he⟩
    cases he
  rintro _ _ u ⟨rfl, rfl, -⟩
  refine hbody.attempt_bind ?_
  rintro ds es (e | a) hP
  · -- the chunk is dropped, which cannot fail, and the body's error comes through
    refine gl.dropChunk_tells.bind ?_ ?_
    · rintro _ _ e' ⟨closing, -, -, he⟩
      cases he
    rintro _ _ v ⟨closing, rfl, rfl, -⟩
    refine Action.tells_fail ?_
    rw [List.append_nil, List.append_nil]
    exact herror ds es e closing hP
  · -- the closing decides: its failure is the result, and otherwise the body's value
    refine (gl.tells_perform .endChunk).bind ?_ ?_
    · rintro _ _ e ⟨rfl, rfl⟩
      rw [List.append_nil]
      exact hok ds es a (.error e) hP
    · rintro _ _ v ⟨rfl, rfl⟩
      refine Action.tells_of_ok ?_
      simp only [List.append_nil]
      exact hok ds es a (.ok ()) hP

/-- Behind a body that delivers nothing, the result of the closing is that of the whole. -/
theorem map_closing (closing : Except ε Unit) (u : Unit) :
    closing.map (fun _ => u) = closing := by
  cases closing <;> rfl

/-! ### One shader -/

/-- The chunk in which a source is handed over and compiled. -/
inductive UploadCourse (shader : Shader) (source : String) :
    List (Deed Shader Program ε) → Except ε Unit → Prop
  /-- The source was refused, and nothing was compiled. -/
  | sourceRefused (e : ε) (closing : Except ε Unit) :
    UploadCourse shader source (inChunk [⟨.shaderSource shader source, .error e⟩] closing)
      (.error e)
  /-- The source was taken, and its compilation was refused. -/
  | compileRefused (e : ε) (closing : Except ε Unit) :
    UploadCourse shader source
      (inChunk [⟨.shaderSource shader source, .ok ()⟩, ⟨.compileShader shader, .error e⟩] closing)
      (.error e)
  /-- Both were taken, so the closing of the chunk decides. -/
  | uploaded (closing : Except ε Unit) :
    UploadCourse shader source
      (inChunk [⟨.shaderSource shader source, .ok ()⟩, ⟨.compileShader shader, .ok ()⟩] closing)
      closing

/-- What becomes of a shader that did not compile: it is deleted, whether or not its log could be
read. -/
inductive RejectCourse (shader : Shader) (stage : Stage) :
    List (Deed Shader Program ε) → Except (ShaderError ε) Shader → Prop
  /-- Both calls went well, and the log is what is delivered. -/
  | deleted (log : String) :
    RejectCourse shader stage [⟨.shaderInfoLog shader, .ok log⟩, ⟨.deleteShader shader, .ok ()⟩]
      (.error (.compilation stage log))
  /-- The log was read, but the shader is still there. -/
  | kept (log : String) (e : ε) :
    RejectCourse shader stage [⟨.shaderInfoLog shader, .ok log⟩, ⟨.deleteShader shader, .error e⟩]
      (.error (.context e))
  /-- The log was not read, and what became of the shader comes second. -/
  | unread (e : ε) (deletion : Except ε Unit) :
    RejectCourse shader stage
      [⟨.shaderInfoLog shader, .error e⟩, ⟨.deleteShader shader, deletion⟩] (.error (.context e))

/-- The course of `Gl.makeShader`. -/
inductive ShaderCourse (source : String) (stage : Stage) :
    List (Deed Shader Program ε) → Except (ShaderError ε) Shader → Prop
  /-- No shader was created, and nothing else is done. -/
  | notCreated (e : ε) :
    ShaderCourse source stage [⟨.createShader stage, .error e⟩] (.error (.context e))
  /-- The chunk failed, in its body or at its closing; the shader is left where it is. -/
  | notUploaded {shader : Shader} {upload : List (Deed Shader Program ε)} {e : ε}
    (h : UploadCourse shader source upload (.error e)) :
    ShaderCourse source stage (⟨.createShader stage, .ok shader⟩ :: upload) (.error (.context e))
  /-- Source and compilation were taken, but how the latter went is not known. -/
  | noStatus {shader : Shader} {upload : List (Deed Shader Program ε)}
    (h : UploadCourse shader source upload (.ok ())) (e : ε) :
    ShaderCourse source stage (⟨.createShader stage, .ok shader⟩ ::
      (upload ++ [⟨.shaderParameter shader compileStatus, .error e⟩])) (.error (.context e))
  /-- The shader compiled, and is delivered. -/
  | accepted {shader : Shader} {upload : List (Deed Shader Program ε)}
    (h : UploadCourse shader source upload (.ok ())) :
    ShaderCourse source stage (⟨.createShader stage, .ok shader⟩ ::
      (upload ++ [⟨.shaderParameter shader compileStatus, .ok true⟩])) (.ok shader)
  /-- It did not, and is given up as `RejectCourse` says. -/
  | rejected {shader : Shader} {upload reject : List (Deed Shader Program ε)}
    {r : Except (ShaderError ε) Shader} (h : UploadCourse shader source upload (.ok ()))
    (hreject : RejectCourse shader stage reject r) :
    ShaderCourse source stage (⟨.createShader stage, .ok shader⟩ ::
      (upload ++ ⟨.shaderParameter shader compileStatus, .ok false⟩ :: reject)) r

/-! ### What a builder reports -/

/-- The deeds behind the first one that failed. -/
def behindFailure (ds : List (Deed Shader Program ε)) : List (Deed Shader Program ε) :=
  (ds.dropWhile fun d => d.result.isOk).tail

/-- The report of a failure that came second. -/
def suppressed (stage : Stage) : Deed Shader Program ε → Option Event
  | ⟨.endChunk, .error e⟩ => some (.scopeFlushFailed (gl.describeError e))
  | ⟨.deleteShader _, .error e⟩ => some (.rejectedKept stage (gl.describeError e))
  | _ => none

/-- The report of how a build went, unless the device failed. -/
def verdictReports (stage : Stage) : Except (ShaderError ε) Shader → List Event
  | .ok shader => [.compiled stage (gl.describeShader shader)]
  | .error (.compilation stage log) => [.compileFailed stage log]
  | .error _ => []

/-- What the build of a shader reports of its own. -/
def shaderReports (stage : Stage) (ds : List (Deed Shader Program ε))
    (r : Except (ShaderError ε) Shader) : List Event :=
  (behindFailure ds).filterMap (gl.suppressed stage) ++ gl.verdictReports stage r

/-- Success of a deed can be computed. -/
theorem Deed.isOk_iff {d : Deed Shader Program ε} : d.result.isOk = true ↔ d.Succeeded := by
  obtain ⟨call, e | a⟩ := d
  · exact ⟨fun h => absurd h Bool.false_ne_true, fun ⟨a, h⟩ => nomatch h⟩
  · exact ⟨fun _ => ⟨a, rfl⟩, fun _ => rfl⟩

/-- Deeds that succeeded can be left out in front. -/
theorem behindFailure_append {ds : List (Deed Shader Program ε)} (h : ∀ d ∈ ds, d.Succeeded)
    (es : List (Deed Shader Program ε)) : behindFailure (ds ++ es) = behindFailure es := by
  unfold behindFailure
  rw [List.dropWhile_append_of_pos fun d hd => Deed.isOk_iff.2 (h d hd)]

/-- Where nothing failed, nothing is behind a failure. -/
theorem behindFailure_of_succeeded {ds : List (Deed Shader Program ε)}
    (h : ∀ d ∈ ds, d.Succeeded) : behindFailure ds = [] := by
  have hds := behindFailure_append h []
  rwa [List.append_nil] at hds

/-- An upload that went well was done without a failure, its closing included. -/
theorem UploadCourse.succeeded {shader : Shader} {source : String}
    {ds : List (Deed Shader Program ε)} (h : UploadCourse shader source ds (.ok ())) :
    ∀ d ∈ ds, d.Succeeded := by
  cases h with
  | uploaded => simp [inChunk, Deed.Succeeded]

/-- **The course of an upload**, and what is reported of it: the closing of its chunk, if that fails
behind a failure of the body. A closing that fails behind a body that went well is the result
instead, and a result is not reported here. -/
theorem upload_tells (shader : Shader) (source : String) (stage : Stage) :
    Action.Tells gl.Reports (gl.scope do
        gl.shaderSource shader source
        gl.compileShader shader) fun ds es r =>
      UploadCourse shader source ds r ∧
        es = (behindFailure ds).filterMap (gl.suppressed stage) := by
  -- the body: it stops at the first of its two calls that fails
  have hbody : Action.Tells gl.Reports (do
      gl.shaderSource shader source
      gl.compileShader shader) fun ds es r => es = [] ∧
        ((∃ e, ds = [⟨.shaderSource shader source, .error e⟩] ∧ r = .error e) ∨
          ds = [⟨.shaderSource shader source, .ok ()⟩, ⟨.compileShader shader, r⟩]) := by
    refine (gl.tells_perform (.shaderSource shader source)).bind ?_ ?_
    · rintro _ _ e ⟨rfl, rfl⟩
      exact ⟨rfl, .inl ⟨e, rfl, rfl⟩⟩
    · rintro _ _ u ⟨rfl, rfl⟩
      refine (gl.tells_perform (.compileShader shader)).mono ?_
      rintro _ _ r ⟨rfl, rfl⟩
      exact ⟨rfl, .inr rfl⟩
  refine gl.scope_tells hbody ?_ ?_
  · -- the closing comes behind the failure, so its own failure is reported
    have hdrop : ∀ closing : Except ε Unit, gl.dropEvents closing =
        ([⟨.endChunk, closing⟩] : List (Deed Shader Program ε)).filterMap (gl.suppressed stage) := by
      rintro (e | u) <;> rfl
    rintro ds _ e closing ⟨rfl, ⟨e', rfl, he⟩ | rfl⟩
    · cases he
      exact ⟨.sourceRefused e closing, hdrop closing⟩
    · exact ⟨.compileRefused e closing, hdrop closing⟩
  · -- the body went well, so the closing comes first: there is nothing behind it
    rintro ds _ u closing ⟨rfl, ⟨e', rfl, he⟩ | rfl⟩
    · cases he
    · rw [map_closing]
      refine ⟨.uploaded closing, ?_⟩
      cases closing <;> rfl

/-- **The course of giving up a shader.** A deletion that fails behind a log that could not be read
is reported; every other failure is the result. -/
theorem rejectShader_tells (shader : Shader) (stage : Stage) :
    Action.Tells gl.Reports (gl.rejectShader shader stage) fun ds es r =>
      RejectCourse shader stage ds r ∧ es = gl.shaderReports stage ds r := by
  unfold rejectShader
  refine (gl.tells_perform (.shaderInfoLog shader)).attempt_bind ?_
  rintro _ _ (e | log) ⟨rfl, rfl⟩
  · -- the log could not be read, and that comes first whatever becomes of the deletion
    refine (gl.tells_perform (.deleteShader shader)).attempt_bind ?_
    rintro _ _ (kept | u) ⟨rfl, rfl⟩
    · exact Action.tells_emit_bind (Action.tells_fail ⟨.unread e _, rfl⟩)
    · exact Action.tells_fail ⟨.unread e _, rfl⟩
  · -- the log was read, so a deletion that fails is the first failure, and not reported
    refine (gl.tells_perform (.deleteShader shader)).mapError_bind ?_ ?_
    · rintro _ _ e ⟨rfl, rfl⟩
      exact ⟨.kept log e, rfl⟩
    · rintro _ _ u ⟨rfl, rfl⟩
      exact Action.tells_emit_bind (Action.tells_fail ⟨.deleted log, rfl⟩)

/-- **The course of building a shader**, and what is reported of it. -/
theorem makeShader_tells (source : String) (stage : Stage) :
    Action.Tells gl.Reports (gl.makeShader source stage) fun ds es r =>
      ShaderCourse source stage ds r ∧ es = gl.shaderReports stage ds r := by
  unfold makeShader
  refine (gl.tells_perform (.createShader stage)).mapError_bind ?_ ?_
  · rintro _ _ e ⟨rfl, rfl⟩
    exact ⟨.notCreated e, rfl⟩
  rintro _ _ shader ⟨rfl, rfl⟩
  refine (gl.upload_tells shader source stage).mapError_bind ?_ ?_
  · rintro upload _ e ⟨h, rfl⟩
    exact ⟨.notUploaded h, (List.append_nil _).symm⟩
  rintro upload _ u ⟨h, rfl⟩
  -- from here on nothing has failed yet, so what is reported depends on what follows only
  have hfront : ∀ d ∈ [⟨.createShader stage, .ok shader⟩] ++ upload, d.Succeeded := by
    intro d hd
    rcases List.mem_append.1 hd with hd | hd
    · obtain rfl := List.mem_singleton.1 hd
      exact ⟨_, rfl⟩
    · exact h.succeeded d hd
  have hreports : ∀ rest r, gl.shaderReports stage
      ([⟨.createShader stage, .ok shader⟩] ++ (upload ++ rest)) r =
        gl.shaderReports stage rest r := by
    intro rest r
    unfold shaderReports
    rw [← List.append_assoc, behindFailure_append hfront]
  rw [behindFailure_of_succeeded h.succeeded]
  refine (gl.tells_perform (.shaderParameter shader compileStatus)).mapError_bind ?_ ?_
  · rintro _ _ e ⟨rfl, rfl⟩
    refine ⟨.noStatus h e, ?_⟩
    rw [hreports]
    rfl
  rintro _ _ compiled ⟨rfl, rfl⟩
  cases compiled with
  | true =>
    -- accepted: one report, that it compiled
    refine Action.tells_emit_bind (Action.tells_of_ok ⟨.accepted h, ?_⟩)
    rw [hreports]
    rfl
  | false =>
    -- rejected: the course goes on as that of giving it up does
    refine (gl.rejectShader_tells shader stage).mono ?_
    rintro reject _ r ⟨hreject, rfl⟩
    refine ⟨.rejected h hreject, ?_⟩
    rw [hreports]
    rfl

/-- The same by its deeds alone. -/
theorem makeShader_follows (source : String) (stage : Stage) :
    Action.Follows gl.Does (gl.makeShader source stage) (ShaderCourse source stage) :=
  follows_of_tells (gl.makeShader_tells source stage) fun _ _ _ h => h.1

/-! ### A program -/

/-- The chunk in which the shaders are attached and linked. -/
inductive LinkingCourse (program : Program) (vertex fragment : Shader) :
    List (Deed Shader Program ε) → Except ε Unit → Prop
  /-- The first shader was not attached, so the second one is not tried. -/
  | vertexRefused (e : ε) (closing : Except ε Unit) :
    LinkingCourse program vertex fragment
      (inChunk [⟨.attachShader program vertex, .error e⟩] closing) (.error e)
  /-- The second one was not attached, so the program is not linked. -/
  | fragmentRefused (e : ε) (closing : Except ε Unit) :
    LinkingCourse program vertex fragment
      (inChunk [⟨.attachShader program vertex, .ok ()⟩,
        ⟨.attachShader program fragment, .error e⟩] closing) (.error e)
  /-- Both were attached, and linking was refused. -/
  | linkRefused (e : ε) (closing : Except ε Unit) :
    LinkingCourse program vertex fragment
      (inChunk [⟨.attachShader program vertex, .ok ()⟩, ⟨.attachShader program fragment, .ok ()⟩,
        ⟨.linkProgram program, .error e⟩] closing) (.error e)
  /-- Everything was taken, so the closing of the chunk decides. -/
  | linked (closing : Except ε Unit) :
    LinkingCourse program vertex fragment
      (inChunk [⟨.attachShader program vertex, .ok ()⟩, ⟨.attachShader program fragment, .ok ()⟩,
        ⟨.linkProgram program, .ok ()⟩] closing) closing

/-- What is done once both shaders are there: linking, and asking how it went. -/
inductive JoinCourse (program : Program) (vertex fragment : Shader) :
    List (Deed Shader Program ε) → Except (ShaderError ε) (LinkedProgram Shader Program) → Prop
  /-- The chunk failed, and the status is not asked for. -/
  | notLinked {linking : List (Deed Shader Program ε)} {e : ε}
    (h : LinkingCourse program vertex fragment linking (.error e)) :
    JoinCourse program vertex fragment linking (.error (.context e))
  /-- How linking went is not known. -/
  | noStatus {linking : List (Deed Shader Program ε)}
    (h : LinkingCourse program vertex fragment linking (.ok ())) (e : ε) :
    JoinCourse program vertex fragment
      (linking ++ [⟨.programParameter program linkStatus, .error e⟩]) (.error (.context e))
  /-- The program linked: the three handles are delivered. -/
  | linked {linking : List (Deed Shader Program ε)}
    (h : LinkingCourse program vertex fragment linking (.ok ())) :
    JoinCourse program vertex fragment
      (linking ++ [⟨.programParameter program linkStatus, .ok true⟩])
      (.ok ⟨program, vertex, fragment⟩)
  /-- It did not, and its log says why. -/
  | rejected {linking : List (Deed Shader Program ε)}
    (h : LinkingCourse program vertex fragment linking (.ok ())) (log : String) :
    JoinCourse program vertex fragment
      (linking ++ [⟨.programParameter program linkStatus, .ok false⟩,
        ⟨.programInfoLog program, .ok log⟩]) (.error (.link log))
  /-- It did not, and its log could not be read either. -/
  | unread {linking : List (Deed Shader Program ε)}
    (h : LinkingCourse program vertex fragment linking (.ok ())) (e : ε) :
    JoinCourse program vertex fragment
      (linking ++ [⟨.programParameter program linkStatus, .ok false⟩,
        ⟨.programInfoLog program, .error e⟩]) (.error (.context e))

/-- The course of `Gl.makeProgram`. -/
inductive ProgramCourse (vertexSource fragmentSource : String) :
    List (Deed Shader Program ε) → Except (ShaderError ε) (LinkedProgram Shader Program) → Prop
  /-- No program was created, and nothing else is done. -/
  | notCreated (e : ε) :
    ProgramCourse vertexSource fragmentSource [⟨.createProgram, .error e⟩] (.error (.context e))
  /-- The vertex shader was not delivered, and its error is that of the whole. -/
  | noVertex {program : Program} {making : List (Deed Shader Program ε)} {e : ShaderError ε}
    (h : ShaderCourse vertexSource .vertex making (.error e)) :
    ProgramCourse vertexSource fragmentSource (⟨.createProgram, .ok program⟩ :: making) (.error e)
  /-- The vertex shader was delivered, and the fragment shader was not. -/
  | noFragment {program : Program} {vertex : Shader} {making making' : List (Deed Shader Program ε)}
    {e : ShaderError ε} (hvertex : ShaderCourse vertexSource .vertex making (.ok vertex))
    (hfragment : ShaderCourse fragmentSource .fragment making' (.error e)) :
    ProgramCourse vertexSource fragmentSource
      (⟨.createProgram, .ok program⟩ :: (making ++ making')) (.error e)
  /-- Both were delivered, and the rest decides. -/
  | joined {program : Program} {vertex fragment : Shader}
    {making making' joining : List (Deed Shader Program ε)}
    {r : Except (ShaderError ε) (LinkedProgram Shader Program)}
    (hvertex : ShaderCourse vertexSource .vertex making (.ok vertex))
    (hfragment : ShaderCourse fragmentSource .fragment making' (.ok fragment))
    (hjoin : JoinCourse program vertex fragment joining r) :
    ProgramCourse vertexSource fragmentSource
      (⟨.createProgram, .ok program⟩ :: (making ++ (making' ++ joining))) r

/-- **The course of linking**, without its reports: the attachments and the link in order, up to the
first that fails, in a chunk that is closed behind them. -/
theorem linking_tells (program : Program) (vertex fragment : Shader) :
    Action.Tells gl.Reports (gl.scope do
        gl.attachShader program vertex
        gl.attachShader program fragment
        gl.linkProgram program) fun ds _ r => LinkingCourse program vertex fragment ds r := by
  -- the body: it stops at the first of its three calls that fails
  have hbody : Action.Tells gl.Reports (do
      gl.attachShader program vertex
      gl.attachShader program fragment
      gl.linkProgram program) fun ds _ r =>
        (∃ e, ds = [⟨.attachShader program vertex, .error e⟩] ∧ r = .error e) ∨
          (∃ e, ds = [⟨.attachShader program vertex, .ok ()⟩,
            ⟨.attachShader program fragment, .error e⟩] ∧ r = .error e) ∨
          ds = [⟨.attachShader program vertex, .ok ()⟩,
            ⟨.attachShader program fragment, .ok ()⟩, ⟨.linkProgram program, r⟩] := by
    refine (gl.tells_perform (.attachShader program vertex)).bind ?_ ?_
    · rintro _ _ e ⟨rfl, -⟩
      exact .inl ⟨e, rfl, rfl⟩
    rintro _ _ u ⟨rfl, -⟩
    refine (gl.tells_perform (.attachShader program fragment)).bind ?_ ?_
    · rintro _ _ e ⟨rfl, -⟩
      exact .inr (.inl ⟨e, rfl, rfl⟩)
    rintro _ _ u ⟨rfl, -⟩
    refine (gl.tells_perform (.linkProgram program)).mono ?_
    rintro _ _ r ⟨rfl, -⟩
    exact .inr (.inr rfl)
  refine gl.scope_tells hbody ?_ ?_
  · -- a failure of the body is at one of the three calls
    rintro ds _ e closing (⟨e', rfl, he⟩ | ⟨e', rfl, he⟩ | rfl)
    · cases he
      exact .vertexRefused e closing
    · cases he
      exact .fragmentRefused e closing
    · exact .linkRefused e closing
  · -- and if there was none, the closing decides
    rintro ds _ u closing (⟨e', rfl, he⟩ | ⟨e', rfl, he⟩ | rfl)
    · cases he
    · cases he
    · rw [map_closing]
      exact .linked closing

/-- **The course of building a program.** -/
theorem makeProgram_tells (vertexSource fragmentSource : String) :
    Action.Tells gl.Reports (gl.makeProgram vertexSource fragmentSource)
      fun ds _ r => ProgramCourse vertexSource fragmentSource ds r := by
  unfold makeProgram
  refine (gl.tells_perform .createProgram).mapError_bind ?_ ?_
  · rintro _ _ e ⟨rfl, -⟩
    exact .notCreated e
  rintro _ _ program ⟨rfl, -⟩
  refine (gl.makeShader_tells vertexSource .vertex).bind ?_ ?_
  · rintro making _ e ⟨h, -⟩
    exact .noVertex h
  rintro making _ vertex ⟨hvertex, -⟩
  refine (gl.makeShader_tells fragmentSource .fragment).bind ?_ ?_
  · rintro making' _ e ⟨h, -⟩
    rw [List.singleton_append]
    exact .noFragment hvertex h
  rintro making' _ fragment ⟨hfragment, -⟩
  -- what is left begins where both shaders are there
  suffices hjoin : Action.Tells gl.Reports _ fun ds _ r =>
      JoinCourse program vertex fragment ds r by
    refine hjoin.mono fun joining _ r h => ?_
    rw [List.singleton_append]
    exact .joined hvertex hfragment h
  -- from here on the calls are those of `JoinCourse`, one constructor for each way out
  refine (gl.linking_tells program vertex fragment).mapError_bind ?_ ?_
  · intro linking _ e h
    exact .notLinked h
  intro linking _ u h
  refine (gl.tells_perform (.programParameter program linkStatus)).mapError_bind ?_ ?_
  · rintro _ _ e ⟨rfl, -⟩
    exact .noStatus h e
  rintro _ _ linked ⟨rfl, -⟩
  cases linked with
  | true => exact Action.tells_emit_bind (Action.tells_of_ok (.linked h))
  | false =>
    refine (gl.tells_perform (.programInfoLog program)).mapError_bind ?_ ?_
    · rintro _ _ e ⟨rfl, -⟩
      exact .unread h e
    · rintro _ _ log ⟨rfl, -⟩
      refine Action.tells_emit_bind (Action.tells_fail ?_)
      rw [List.append_nil]
      exact .rejected h log

/-- The same by its deeds alone. -/
theorem makeProgram_follows (vertexSource fragmentSource : String) :
    Action.Follows gl.Does (gl.makeProgram vertexSource fragmentSource)
      (ProgramCourse vertexSource fragmentSource) :=
  follows_of_tells (gl.makeProgram_tells vertexSource fragmentSource) fun _ _ _ h => h

/-! ### Accepted shaders -/

/-- The course of `Gl.deleteShaders`. -/
inductive ReleaseCourse (l : LinkedProgram Shader Program) :
    List (Deed Shader Program ε) → Except ε Program → Prop
  /-- The first deletion failed, and the second one is not tried. -/
  | vertexKept (e : ε) :
    ReleaseCourse l [⟨.deleteShader l.vertex, .error e⟩] (.error e)
  /-- The first shader is gone, and the second one is not. -/
  | fragmentKept (e : ε) :
    ReleaseCourse l [⟨.deleteShader l.vertex, .ok ()⟩, ⟨.deleteShader l.fragment, .error e⟩]
      (.error e)
  /-- Both are gone, and the program is what is left. -/
  | released :
    ReleaseCourse l [⟨.deleteShader l.vertex, .ok ()⟩, ⟨.deleteShader l.fragment, .ok ()⟩]
      (.ok l.program)

/-- **The course of releasing the shaders of a program.** -/
theorem deleteShaders_follows (l : LinkedProgram Shader Program) :
    Action.Follows gl.Does (gl.deleteShaders l) (ReleaseCourse l) := by
  unfold deleteShaders
  -- the fragment shader is not tried where the vertex shader could not be deleted
  refine (gl.follows_perform (.deleteShader l.vertex)).bind ?_ ?_
  · rintro _ e rfl
    exact .vertexKept e
  rintro _ u rfl
  refine (gl.follows_perform (.deleteShader l.fragment)).bind ?_ ?_
  · rintro _ e rfl
    exact .fragmentKept e
  · rintro _ u rfl
    exact Action.follows_of_ok .released

/-! ### Success

What succeeds made no call that failed. The converse does not hold: a shader that does not compile
is an error behind calls that all went well. -/

section Success

variable {shader : Shader} {source : String} {stage : Stage} {program : Program}
  {vertex fragment : Shader} {l : LinkedProgram Shader Program}
  {ds : List (Deed Shader Program ε)}

/-- A shader that was delivered was built without a failure. -/
theorem ShaderCourse.succeeded (h : ShaderCourse source stage ds (.ok shader)) :
    ∀ d ∈ ds, d.Succeeded := by
  cases h with
  -- giving up a shader is never a success
  | rejected _ hreject => cases hreject
  | accepted h =>
    intro d hd
    simp only [List.mem_cons, List.mem_append, List.not_mem_nil, or_false] at hd
    rcases hd with rfl | hd | rfl
    · exact ⟨_, rfl⟩
    · exact h.succeeded d hd
    · exact ⟨_, rfl⟩

/-- A chunk in which everything was linked has no failure in it. -/
theorem LinkingCourse.succeeded (h : LinkingCourse program vertex fragment ds (.ok ())) :
    ∀ d ∈ ds, d.Succeeded := by
  cases h with
  | linked => simp [inChunk, Deed.Succeeded]

/-- A program that linked did so without a failure. -/
theorem JoinCourse.succeeded (h : JoinCourse program vertex fragment ds (.ok l)) :
    ∀ d ∈ ds, d.Succeeded := by
  cases h with
  | linked h =>
    intro d hd
    simp only [List.mem_append, List.mem_singleton] at hd
    rcases hd with hd | rfl
    · exact h.succeeded d hd
    · exact ⟨_, rfl⟩

/-- **What was delivered was built without a failure**, from the first call to the last. -/
theorem ProgramCourse.succeeded {vertexSource fragmentSource : String}
    (h : ProgramCourse vertexSource fragmentSource ds (.ok l)) : ∀ d ∈ ds, d.Succeeded := by
  cases h with
  | joined hvertex hfragment hjoin =>
    intro d hd
    simp only [List.mem_cons, List.mem_append] at hd
    rcases hd with rfl | hd | hd | hd
    · exact ⟨_, rfl⟩
    · exact hvertex.succeeded d hd
    · exact hfragment.succeeded d hd
    · exact hjoin.succeeded d hd

/-- And what was released, too. -/
theorem ReleaseCourse.succeeded (h : ReleaseCourse l ds (.ok program)) :
    ∀ d ∈ ds, d.Succeeded := by
  cases h with
  | released => simp [Deed.Succeeded]

end Success

end Gl

end GlBridge
