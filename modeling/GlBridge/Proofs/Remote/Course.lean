import GlBridge.Proofs.Device.Course
import GlBridge.Proofs.Remote.Step

/-!
# What the steps make of a context

Over a context, whatever a step does is done by operations. `Performed` is an operation with its
result, and `Step.Course` tells for each step which operations it performs, in which order and with
which results: an operation performs itself, the shader builders take the course they take on every
device (`Performed.ofDeed`), and the demonstration goes on from there (`DemoCourse`).

`Step.follows` says that every step takes its course. So a use of a context by steps is one by
operations (`Step.session_follows`).
-/

namespace GlBridge

variable {σ : Type}

/-! ### Operations and their results -/

/-- An operation with what came of it. -/
structure Performed where
  operation : Operation
  result : Except RemoteError Answer

namespace Performed

/-- The operation has this result and leads there. -/
def Does (tr : Transport σ) (d : Performed) (c c' : Context σ) : Prop :=
  (d.operation.perform tr c).result = d.result ∧ (d.operation.perform tr c).state = c'

end Performed

/-- What an action does is not changed by what is made of its result. -/
theorem answering_apply {α : Type} (f : α → Answer) (x : Context.Remote σ α) (c : Context σ) :
    answering f x c = ⟨(x c).result.map f, (x c).state, (x c).events⟩ := by
  unfold answering
  cases hr : (x c).result with
  | error e => rw [Action.bind_of_error hr]; rfl
  | ok a =>
    rw [Action.bind_of_ok hr]
    simp [Except.map]

/-- An operation that delivers what an action delivers fails when the action does. -/
theorem answering_error {α : Type} {f : α → Answer} {x : Context.Remote σ α} {c : Context σ}
    {e : RemoteError} : (answering f x c).result = .error e ↔ (x c).result = .error e := by
  rw [answering_apply]
  cases hr : (x c).result with
  | error e' => exact ⟨fun h => congrArg Except.error (Except.error.inj h), fun h => h ▸ rfl⟩
  | ok a => exact ⟨nofun, nofun⟩

/-- An operation that delivers what an action delivers is the course of that action. -/
theorem follows_answering {α : Type} {tr : Transport σ} {o : Operation} {f : α → Answer}
    {x : Context.Remote σ α} (h : o.perform tr = answering f x) :
    Action.Follows (Performed.Does tr) x fun ds r => ds = [⟨o, r.map f⟩] := by
  intro c
  refine ⟨[⟨o, (x c).result.map f⟩], ⟨(x c).state, ⟨?_, ?_⟩, rfl⟩, rfl⟩
  · rw [h, answering_apply]
  · rw [h, answering_apply]

/-! ### The context as a device -/

namespace Gl

variable {α : Type}

/-- The operation that a call of the device is. -/
def Call.operation : {α : Type} → Call Handle Handle α → Operation
  | _, .createShader stage => .createShader stage
  | _, .createProgram => .createProgram
  | _, .shaderSource shader source => .shaderSource shader source
  | _, .compileShader shader => .compileShader shader
  | _, .attachShader program shader => .attachShader program shader
  | _, .linkProgram program => .linkProgram program
  | _, .shaderParameter shader name => .shaderParameter shader name
  | _, .programParameter program name => .programParameter program name
  | _, .shaderInfoLog shader => .shaderInfoLog shader
  | _, .programInfoLog program => .programInfoLog program
  | _, .deleteShader shader => .deleteShader shader
  | _, .beginChunk => .primitive .beginChunk
  | _, .endChunk => .primitive .endChunk

/-- What a call delivers, as the answer of its operation. -/
def Call.answer : {α : Type} → Call Handle Handle α → α → Answer
  | _, .createShader _ => .handle
  | _, .createProgram => .handle
  | _, .shaderParameter _ _ => .status
  | _, .programParameter _ _ => .status
  | _, .shaderInfoLog _ => .text
  | _, .programInfoLog _ => .text
  | _, _ => fun _ => .done

/-- A call of the device is carried out as its operation is. -/
theorem Call.perform_operation (tr : Transport σ) (call : Call Handle Handle α) :
    call.operation.perform tr = answering call.answer ((Context.gl tr).perform call) := by
  cases call <;> rfl

end Gl

namespace Performed

/-- A deed of the device as an operation with its result. -/
def ofDeed (d : Gl.Deed Handle Handle RemoteError) : Performed :=
  ⟨d.call.operation, d.result.map d.call.answer⟩

/-- What a deed does to the context is what its operation does. -/
theorem does_ofDeed {tr : Transport σ} (d : Gl.Deed Handle Handle RemoteError)
    (c c' : Context σ) (h : (Context.gl tr).Does d c c') : (ofDeed d).Does tr c c' := by
  obtain ⟨hresult, hstate⟩ := h
  constructor
  · rw [ofDeed, Gl.Call.perform_operation, answering_apply, hresult]
  · rw [ofDeed, Gl.Call.perform_operation, answering_apply, hstate]

end Performed

/-! ### The demonstration -/

/-- The course of an upload to one uniform. -/
inductive UniformCourse (program : Handle) (name : String) (m : Mat4 Single) :
    List Performed → Except RemoteError Unit → Prop
  | unlocated (e : RemoteError) :
    UniformCourse program name m [⟨.getUniformLocation program name, .error e⟩] (.error e)
  | inactive :
    UniformCourse program name m [⟨.getUniformLocation program name, .ok (.location none)⟩] (.ok ())
  | located (location : Handle) (r : Except RemoteError Unit) :
    UniformCourse program name m
      [⟨.getUniformLocation program name, .ok (.location (some location))⟩,
        ⟨.uniformMatrix location m, r.map fun _ => .done⟩] r

/-- The course of uploads to several uniforms: it stops at the first that fails. -/
inductive UniformsCourse (program : Handle) :
    List (String × Mat4 Single) → List Performed → Except RemoteError Unit → Prop
  | nil : UniformsCourse program [] [] (.ok ())
  | stopped {name : String} {m : Mat4 Single} {rest : List (String × Mat4 Single)}
    {ds : List Performed} {e : RemoteError} (h : UniformCourse program name m ds (.error e)) :
    UniformsCourse program ((name, m) :: rest) ds (.error e)
  | cons {name : String} {m : Mat4 Single} {rest : List (String × Mat4 Single)}
    {ds es : List Performed} {r : Except RemoteError Unit}
    (h : UniformCourse program name m ds (.ok ())) (hrest : UniformsCourse program rest es r) :
    UniformsCourse program ((name, m) :: rest) (ds ++ es) r

/-- The operations of an upload. -/
inductive Operation.IsUpload : Operation → Prop
  | location (program : Handle) (name : String) : IsUpload (.getUniformLocation program name)
  | matrix (location : Handle) (m : Mat4 Single) : IsUpload (.uniformMatrix location m)

/-- Uploads to uniforms are questions for locations and matrices that are sent there. -/
theorem UniformsCourse.isUpload {program : Handle} {us : List (String × Mat4 Single)}
    {ds : List Performed} {r : Except RemoteError Unit} (h : UniformsCourse program us ds r) :
    ∀ d ∈ ds, d.operation.IsUpload := by
  -- first for one uniform, as the uploads are taken one at a time
  have hone : ∀ {name m ds r}, UniformCourse program name m ds r →
      ∀ d ∈ ds, d.operation.IsUpload := by
    intro name m ds r h d hd
    cases h with
    | unlocated e => obtain rfl := List.mem_singleton.1 hd; exact .location ..
    | inactive => obtain rfl := List.mem_singleton.1 hd; exact .location ..
    | located location r =>
      simp only [List.mem_cons, List.not_mem_nil, or_false] at hd
      rcases hd with rfl | rfl
      · exact .location ..
      · exact .matrix ..
  induction h with
  | nil => exact fun d hd => absurd hd List.not_mem_nil
  | stopped h => exact hone h
  | cons h _ ih =>
    intro d hd
    rcases List.mem_append.1 hd with hd | hd
    · exact hone h d hd
    · exact ih d hd

/-- The course of `Studio.run`. -/
inductive DemoCourse (vertex fragment : String) :
    List Performed → Except Studio.DemoError Unit → Prop
  | notBuilt {building : List (Gl.Deed Handle Handle RemoteError)} {e : ShaderError RemoteError}
    (h : Gl.ProgramCourse vertex fragment building (.error e)) :
    DemoCourse vertex fragment (building.map .ofDeed) (.error (.building e))
  | notReleased {building releasing : List (Gl.Deed Handle Handle RemoteError)}
    {linked : LinkedProgram Handle Handle} {e : RemoteError}
    (h : Gl.ProgramCourse vertex fragment building (.ok linked))
    (hrelease : Gl.ReleaseCourse linked releasing (.error e)) :
    DemoCourse vertex fragment (building.map .ofDeed ++ releasing.map .ofDeed)
      (.error (.releasing e))
  | notUsed {building releasing : List (Gl.Deed Handle Handle RemoteError)}
    {linked : LinkedProgram Handle Handle}
    (h : Gl.ProgramCourse vertex fragment building (.ok linked))
    (hrelease : Gl.ReleaseCourse linked releasing (.ok linked.program)) (e : RemoteError) :
    DemoCourse vertex fragment (building.map .ofDeed ++ (releasing.map .ofDeed ++
      [⟨.useProgram linked.program, .error e⟩])) (.error (.remote e))
  | used {building releasing : List (Gl.Deed Handle Handle RemoteError)}
    {linked : LinkedProgram Handle Handle} {uploads : List Performed} {r : Except RemoteError Unit}
    (h : Gl.ProgramCourse vertex fragment building (.ok linked))
    (hrelease : Gl.ReleaseCourse linked releasing (.ok linked.program))
    (huploads : UniformsCourse linked.program Studio.uniforms uploads r) :
    DemoCourse vertex fragment (building.map .ofDeed ++ (releasing.map .ofDeed ++
      ⟨.useProgram linked.program, .ok .done⟩ :: uploads)) (r.mapError .remote)

namespace Studio

variable (tr : Transport σ)

/-- An upload takes the course of an upload, a different one for each answer about the location. -/
theorem uploadUniform_follows (program : Handle) (name : String) (m : Mat4 Single) :
    Action.Follows (Performed.Does tr) (uploadUniform tr program name m)
      (UniformCourse program name m) := by
  unfold uploadUniform
  have hlocate : Action.Follows (Performed.Does tr) (Context.getUniformLocation tr program name)
      fun ds r => ds = [⟨.getUniformLocation program name, r.map .location⟩] :=
    follows_answering rfl
  refine hlocate.bind ?_ ?_
  · rintro _ e rfl
    exact .unlocated e
  rintro _ location rfl
  -- no location, no matrix
  cases location with
  | none => exact Action.follows_emit .inactive
  | some location =>
    have hupload : Action.Follows (Performed.Does tr) (Context.uniformMatrix tr location m)
        fun ds r => ds = [⟨.uniformMatrix location m, r.map fun _ => .done⟩] :=
      follows_answering rfl
    refine hupload.mono ?_
    rintro _ r rfl
    exact .located location r

/-- Uploads take the course of uploads: each in its turn, up to the first that fails. -/
theorem uploadUniforms_follows (program : Handle) (us : List (String × Mat4 Single)) :
    Action.Follows (Performed.Does tr) (uploadUniforms tr program us)
      (UniformsCourse program us) := by
  induction us with
  | nil => exact Action.follows_of_ok .nil
  | cons u rest ih =>
    obtain ⟨name, m⟩ := u
    refine (uploadUniform_follows tr program name m).bind ?_ ?_
    · intro ds e h
      exact .stopped h
    · intro ds u h
      exact ih.mono fun es r hrest => .cons h hrest

/-- **The course of the demonstration.** -/
theorem run_follows (vertex fragment : String) :
    Action.Follows (Performed.Does tr) (run tr vertex fragment) (DemoCourse vertex fragment) := by
  unfold run
  -- the program: its deeds are those of the builder on any device, as operations
  have hprogram := ((Context.gl tr).makeProgram_follows vertex fragment).map
    Performed.does_ofDeed
  refine hprogram.mapError_bind ?_ ?_
  · rintro _ e ⟨building, h, rfl⟩
    exact .notBuilt h
  rintro _ linked ⟨building, h, rfl⟩
  -- the shaders it was linked from are released
  have hrelease := ((Context.gl tr).deleteShaders_follows linked).map
    Performed.does_ofDeed
  refine hrelease.mapError_bind ?_ ?_
  · rintro _ e ⟨releasing, hrelease, rfl⟩
    exact .notReleased h hrelease
  rintro _ program ⟨releasing, hrelease, rfl⟩
  -- what is left is the program that was linked
  obtain rfl : program = linked.program := by cases hrelease; rfl
  -- it is put to use, and then the uniforms get their matrices
  have huse : Action.Follows (Performed.Does tr) (Context.useProgram tr linked.program)
      fun ds r => ds = [⟨.useProgram linked.program, r.map fun _ => .done⟩] :=
    follows_answering rfl
  refine huse.mapError_bind ?_ ?_
  · rintro _ e rfl
    exact .notUsed h hrelease e
  rintro _ u rfl
  refine (uploadUniforms_follows tr linked.program uniforms).mapError_bind ?_ ?_
  · intro uploads e huploads
    exact .used h hrelease huploads
  · intro uploads u huploads
    refine Action.follows_emit ?_
    rw [List.append_nil]
    exact .used h hrelease huploads

end Studio

/-! ### Steps -/

/-- The course of each step. -/
inductive Step.Course : Step → List Performed → Except StepError StepAnswer → Prop
  | operation (o : Operation) (r : Except RemoteError Answer) :
    Course (.operation o) [⟨o, r⟩] ((r.mapError .remote).map .answer)
  | shader {source : String} {stage : Stage} {making : List (Gl.Deed Handle Handle RemoteError)}
    {r : Except (ShaderError RemoteError) Handle} (h : Gl.ShaderCourse source stage making r) :
    Course (.makeShader source stage) (making.map .ofDeed) ((r.mapError .shader).map .shader)
  | program {vertex fragment : String} {building : List (Gl.Deed Handle Handle RemoteError)}
    {r : Except (ShaderError RemoteError) (LinkedProgram Handle Handle)}
    (h : Gl.ProgramCourse vertex fragment building r) :
    Course (.makeProgram vertex fragment) (building.map .ofDeed)
      ((r.mapError .shader).map .linked)
  | demo {vertex fragment : String} {ds : List Performed} {r : Except Studio.DemoError Unit}
    (h : DemoCourse vertex fragment ds r) :
    Course (.demo vertex fragment) ds ((r.mapError .demo).map fun _ => .shown)

/-- The course of steps one after the other. -/
inductive Step.Courses :
    List Step → List Performed → List (Except StepError StepAnswer) → Prop
  | nil : Courses [] [] []
  | cons {s : Step} {rest : List Step} {ds es : List Performed} {r : Except StepError StepAnswer}
    {rs : List (Except StepError StepAnswer)} (h : s.Course ds r) (hrest : Courses rest es rs) :
    Courses (s :: rest) (ds ++ es) (r :: rs)

/-- Wrapping what an action delivers, and how it fails, is no deed. -/
theorem follows_wrapped {ε ε' α β : Type} {tr : Transport σ} {x : Action (Context σ) ε α}
    {P : List Performed → Except ε α → Prop} (hx : Action.Follows (Performed.Does tr) x P)
    (g : ε → ε') (f : α → β) {Q : List Performed → Except ε' β → Prop}
    (h : ∀ ds r, P ds r → Q ds ((r.mapError g).map f)) :
    Action.Follows (Performed.Does tr) (x.mapError g >>= fun a => pure (f a)) Q := by
  refine hx.mapError_bind (fun ds e hP => h ds (.error e) hP) fun ds a hP => ?_
  refine Action.follows_of_ok ?_
  rw [List.append_nil]
  exact h ds (.ok a) hP

namespace Step

variable (tr : Transport σ)

/-- **Every step takes its course.** -/
theorem follows (s : Step) :
    Action.Follows (Performed.Does tr) (s.perform tr) s.Course := by
  cases s with
  | operation o =>
    -- an operation is its own course, whatever its result
    have ho : Action.Follows (Performed.Does tr) (o.perform tr) fun ds r => ds = [⟨o, r⟩] :=
      fun c => ⟨[⟨o, _⟩], ⟨_, ⟨rfl, rfl⟩, rfl⟩, rfl⟩
    refine follows_wrapped ho StepError.remote StepAnswer.answer ?_
    rintro _ r rfl
    exact .operation o r
  | makeShader source stage =>
    have hshader := ((Context.gl tr).makeShader_follows source stage).map Performed.does_ofDeed
    refine follows_wrapped hshader StepError.shader StepAnswer.shader ?_
    rintro _ r ⟨making, h, rfl⟩
    exact .shader h
  | makeProgram vertex fragment =>
    have hprogram := ((Context.gl tr).makeProgram_follows vertex fragment).map
      Performed.does_ofDeed
    refine follows_wrapped hprogram StepError.shader StepAnswer.linked ?_
    rintro _ r ⟨building, h, rfl⟩
    exact .program h
  | demo vertex fragment =>
    exact follows_wrapped (Studio.run_follows tr vertex fragment) StepError.demo
      (fun _ => StepAnswer.shown) fun ds r h => Course.demo h

/-- **Steps are operations**: those of their courses, one after the other. -/
theorem session_follows (steps : List Step) (c : Context σ) :
    ∃ ds, Path (Performed.Does tr) ds c (session tr steps c).state ∧
      Courses steps ds (session tr steps c).results := by
  unfold session
  induction steps generalizing c with
  | nil => exact ⟨[], rfl, .nil⟩
  | cons s rest ih =>
    obtain ⟨ds, hpath, hcourse⟩ := s.follows tr c
    -- the rest starts where this step ended, even if it failed
    obtain ⟨es, hrest, hcourses⟩ := ih (s.perform tr c).state
    exact ⟨ds ++ es, hpath.append hrest, .cons hcourse hcourses⟩

end Step

end GlBridge
