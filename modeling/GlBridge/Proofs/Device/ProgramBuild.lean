import GlBridge.Proofs.Device.ShaderBuild
import GlBridge.Remote.Context

/-!
# Building a program on a device that may fail

A program is built from two shaders, each of which is a build of its own, and a chunk in which they
are attached and linked. Main statement: `makeProgram_builds`. Over any device, whatever it does,
`ProgramBuild` holds of the calls that a build makes and of what comes of it.

Each part is begun only if the ones before it went well, so up to the part in which a build ends its
record is known but for the handles: `acceptance` for a shader that was delivered. What is left to
say of the parts that were not begun is that none of their calls is in the record, for
which it is enough to know the calls of each part (`Entry.isMaking`, `Entry.isJoining`).

What is deleted is a shader that was rejected, but only a handle says which one that is. A device
that gives both shaders the same handle has an accepted shader deleted
(`makeProgram_deletes_accepted`), which is why `ProgramBuild.kept` speaks of handles that were given
out twice.
-/

namespace GlBridge

namespace Gl

variable {σ Shader Program ε : Type}

/-! ### Reading a record -/

namespace Entry

/-- The call creates a program. -/
@[simp] def isProgramCreation : Entry Shader Program ε → Bool
  | .createProgram _ => true
  | _ => false

/-- The call attaches a shader or links. -/
@[simp] def isJoin : Entry Shader Program ε → Bool
  | .attachShader _ _ _ | .linkProgram _ _ => true
  | _ => false

/-- The call belongs to the build of a shader of this stage. -/
@[simp] def isMaking (stage : Stage) : Entry Shader Program ε → Bool
  | .createShader stage' _ => stage' = stage
  | .shaderSource _ _ _ | .compileShader _ _ | .shaderParameter _ _ _ | .shaderInfoLog _ _
  | .deleteShader _ _ | .beginChunk | .endChunk _ => true
  | _ => false

/-- The call belongs to what is done once both shaders are there. -/
@[simp] def isJoining : Entry Shader Program ε → Bool
  | .attachShader _ _ _ | .linkProgram _ _ | .programParameter _ _ _ | .programInfoLog _ _
  | .beginChunk | .endChunk _ => true
  | _ => false

end Entry

/-- Two shaders are attached to a program and it is linked, up to the first call that fails. -/
inductive Joins (program : Program) (vertex fragment : Shader) :
    List (Entry Shader Program ε) → Prop
  /-- the vertex shader could not be attached -/
  | vertexRefused (e : ε) : Joins program vertex fragment [.attachShader program vertex (.error e)]
  /-- the fragment shader could not -/
  | fragmentRefused (e : ε) :
    Joins program vertex fragment
      [.attachShader program vertex (.ok ()), .attachShader program fragment (.error e)]
  /-- both were attached, and linking went one way or the other -/
  | linked (result : Except ε Unit) :
    Joins program vertex fragment
      [.attachShader program vertex (.ok ()), .attachShader program fragment (.ok ()),
        .linkProgram program result]

/-- The calls of a build that delivers a program. -/
def completion (vertexSource fragmentSource : String) (l : LinkedProgram Shader Program) :
    List (Entry Shader Program ε) :=
  .createProgram (.ok l.program) ::
    (acceptance vertexSource .vertex l.vertex ++
      (acceptance fragmentSource .fragment l.fragment ++
        (Entry.inChunk [.attachShader l.program l.vertex (.ok ()),
            .attachShader l.program l.fragment (.ok ()), .linkProgram l.program (.ok ())] (.ok ()) ++
          [.programParameter l.program linkStatus (.ok true)])))

/-- **How a program is built**, by the calls that were made and their result. -/
structure ProgramBuild (vertexSource fragmentSource : String) (es : List (Entry Shader Program ε))
    (r : Except (ShaderError ε) (LinkedProgram Shader Program)) : Prop where
  /-- The program is created first and once, and if this fails nothing else is done. -/
  creation : ∃ made rest, es = .createProgram made :: rest ∧
    (∀ e ∈ rest, e.isProgramCreation = false) ∧ ∀ e, made = .error e → rest = []
  /-- The fragment shader is created only where the vertex shader was delivered. -/
  fragment : (∃ made, .createShader .fragment made ∈ es) →
    ∃ program vertex made after, es = .createProgram (.ok program) ::
      (acceptance vertexSource .vertex vertex ++ .createShader .fragment made :: after)
  /-- Shaders are attached and linked only where both were delivered, in order, and in a chunk of
  their own, which is closed once. -/
  joins : (∃ e ∈ es, e.isJoin = true) →
    ∃ program vertex fragment body closing after, es = .createProgram (.ok program) ::
        (acceptance vertexSource .vertex vertex ++
          (acceptance fragmentSource .fragment fragment ++
            (Entry.inChunk body closing ++ after))) ∧
      Joins program vertex fragment body ∧ ∀ e ∈ after, e.isChunk = false ∧ e.isJoin = false
  /-- A shader is deleted if and only if its status was read as false. -/
  deletes : ∀ shader, (∃ result, .deleteShader shader result ∈ es) ↔
    .shaderParameter shader compileStatus (.ok false) ∈ es
  /-- Then it is the last one that was created, and deleting it is the last thing done. -/
  last : ∀ shader deletion, .deleteShader shader deletion ∈ es →
    ∃ program log, es = .createProgram (.ok program) ::
        refusal vertexSource .vertex shader log deletion ∨
      ∃ vertex, es = .createProgram (.ok program) :: (acceptance vertexSource .vertex vertex ++
        refusal fragmentSource .fragment shader log deletion)
  /-- So no shader that was accepted is deleted, unless the device gave out its handle again. -/
  kept : ∀ shader deletion, .shaderParameter shader compileStatus (.ok true) ∈ es →
    .deleteShader shader deletion ∈ es →
      .createShader .vertex (.ok shader) ∈ es ∧ .createShader .fragment (.ok shader) ∈ es
  /-- The build delivers the handles that it was given if and only if every call succeeded and the
  program linked, -/
  completed : (∃ l, r = .ok l) ↔ (∀ e ∈ es, e.failure? = none) ∧
    ∃ program, .programParameter program linkStatus (.ok true) ∈ es
  /-- and then the calls are these. -/
  calls : ∀ l, r = .ok l ↔ es = completion vertexSource fragmentSource l
  /-- It fails for the link if and only if the log of a program that did not link was read. -/
  notLinked : ∀ log, r = .error (.link log) ↔
    ∃ program, .programParameter program linkStatus (.ok false) ∈ es ∧
      .programInfoLog program (.ok log) ∈ es
  /-- It fails for a source if and only if the shader of that stage was given up. -/
  rejected : ∀ stage log, r = .error (.compilation stage log) ↔
    (stage = .vertex ∧ ∃ program shader, es = .createProgram (.ok program) ::
      refusal vertexSource .vertex shader (.ok log) (.ok ())) ∨
    (stage = .fragment ∧ ∃ program vertex shader, es = .createProgram (.ok program) ::
      (acceptance vertexSource .vertex vertex ++
        refusal fragmentSource .fragment shader (.ok log) (.ok ())))
  /-- And it fails for the device if and only if a call failed, with the first failure. -/
  failed : ∀ e, r = .error (.context e) ↔ firstFailure es = some e

/-! ### The calls of each part -/

section Making

variable {source : String} {stage : Stage} {shader : Shader} {ds : List (Deed Shader Program ε)}
  {r : Except (ShaderError ε) Shader}

/-- An upload is part of making a shader, ... -/
theorem UploadCourse.isMaking {u : Except ε Unit} (h : UploadCourse shader source ds u) :
    ∀ e ∈ ds.map Entry.ofDeed, e.isMaking stage = true := by
  cases h <;> simp [inChunk]

/-- ... and so is all the rest of its build. -/
theorem ShaderCourse.isMaking (h : ShaderCourse source stage ds r) :
    ∀ e ∈ ds.map Entry.ofDeed, e.isMaking stage = true := by
  cases h with
  | notCreated e => simp
  | notUploaded h => cases h <;> simp [inChunk]
  | noStatus h e => simp [h.entries_of_ok, Entry.inChunk]
  | accepted h => simp [h.entries_of_ok, Entry.inChunk]
  | rejected h hreject => cases hreject <;> simp [h.entries_of_ok, Entry.inChunk]

/-- So a call of another kind is not in the record of a shader. -/
theorem ShaderCourse.not_mem (h : ShaderCourse source stage ds r) {e : Entry Shader Program ε}
    (he : e.isMaking stage = false) : e ∉ ds.map Entry.ofDeed := fun hmem =>
  Bool.false_ne_true (he.symm.trans (h.isMaking e hmem))

/-- No program is created for a shader. -/
theorem ShaderCourse.not_creation (h : ShaderCourse source stage ds r) :
    ∀ e ∈ ds.map Entry.ofDeed, e.isProgramCreation = false := by
  intro e he
  have hmaking := h.isMaking e he
  -- no call of the making of a shader creates a program
  cases e <;> first | rfl | cases hmaking

/-- A build begins with the creation of the shader. -/
theorem ShaderCourse.head_entries (h : ShaderCourse source stage ds r) :
    ∃ made rest, ds.map Entry.ofDeed = .createShader stage made :: rest := by
  cases h <;> exact ⟨_, _, rfl⟩

/-- A build fails for the source if and only if it gave its shader up. -/
theorem ShaderCourse.compilation_iff (h : ShaderCourse source stage ds r) (stage' : Stage)
    (log : String) :
    r = .error (.compilation stage' log) ↔
      stage' = stage ∧ ∃ shader, ds.map Entry.ofDeed = refusal source stage shader (.ok log) (.ok ()) := by
  rw [h.rejected_iff]
  refine and_congr_right fun _ => exists_congr fun shader => ?_
  constructor
  · rintro ⟨-, hlog, hdelete⟩
    obtain ⟨log', heq⟩ := h.entries_of_deletion hdelete
    rw [heq] at hlog
    obtain rfl : log' = .ok log := by simpa [refusal, Entry.inChunk, eq_comm] using hlog
    exact heq
  · intro heq
    simp [heq, refusal]

end Making

section Joining

variable {program : Program} {vertex fragment : Shader} {ds : List (Deed Shader Program ε)}
  {r : Except (ShaderError ε) (LinkedProgram Shader Program)}

/-- The record of the linking is a chunk in which the calls come in order. -/
theorem LinkingCourse.entries {u : Except ε Unit} (h : LinkingCourse program vertex fragment ds u) :
    ∃ body closing, ds.map Entry.ofDeed = Entry.inChunk body closing ∧
      Joins program vertex fragment body := by
  cases h with
  | vertexRefused e closing => exact ⟨_, closing, Entry.map_inChunk _ _, .vertexRefused e⟩
  | fragmentRefused e closing => exact ⟨_, closing, Entry.map_inChunk _ _, .fragmentRefused e⟩
  | linkRefused e closing => exact ⟨_, closing, Entry.map_inChunk _ _, .linked _⟩
  | linked closing => exact ⟨_, _, Entry.map_inChunk _ _, .linked _⟩

/-- If it went well it is known. -/
theorem LinkingCourse.entries_of_ok (h : LinkingCourse program vertex fragment ds (.ok ())) :
    ds.map Entry.ofDeed = Entry.inChunk [.attachShader program vertex (.ok ()),
      .attachShader program fragment (.ok ()), .linkProgram program (.ok ())] (.ok ()) := by
  cases h with
  | linked => rfl

/-- The chunk of the linking in the record of what is done with both shaders. -/
theorem LinkingCourse.shape {u : Except ε Unit} (h : LinkingCourse program vertex fragment ds u)
    (rest : List (Deed Shader Program ε))
    (hrest : ∀ e ∈ rest.map Entry.ofDeed, e.isChunk = false ∧ e.isJoin = false) :
    ∃ body closing after, (ds ++ rest).map Entry.ofDeed = Entry.inChunk body closing ++ after ∧
      Joins program vertex fragment body ∧ ∀ e ∈ after, e.isChunk = false ∧ e.isJoin = false := by
  obtain ⟨body, closing, hlinking, hbody⟩ := h.entries
  refine ⟨body, closing, rest.map Entry.ofDeed, ?_, hbody, hrest⟩
  rw [List.map_append, hlinking]

/-- Behind the chunk neither another one is opened nor anything attached or linked. -/
theorem JoinCourse.shape (h : JoinCourse program vertex fragment ds r) :
    ∃ body closing after, ds.map Entry.ofDeed = Entry.inChunk body closing ++ after ∧
      Joins program vertex fragment body ∧ ∀ e ∈ after, e.isChunk = false ∧ e.isJoin = false := by
  cases h with
  | notLinked h =>
    have hshape := h.shape [] (List.forall_mem_nil _)
    rwa [List.append_nil] at hshape
  | noStatus h e => exact h.shape _ (by simp)
  | linked h => exact h.shape _ (by simp)
  | rejected h log => exact h.shape _ (by simp)
  | unread h e => exact h.shape _ (by simp)

/-- The record of a program that linked shows the handles that are delivered. -/
theorem JoinCourse.entries_of_ok {l : LinkedProgram Shader Program}
    (h : JoinCourse program vertex fragment ds (.ok l)) :
    l = ⟨program, vertex, fragment⟩ ∧ ds.map Entry.ofDeed = Entry.inChunk
      [.attachShader program vertex (.ok ()), .attachShader program fragment (.ok ()),
        .linkProgram program (.ok ())] (.ok ()) ++
      [.programParameter program linkStatus (.ok true)] := by
  cases h with
  | linked h => exact ⟨rfl, by simp [h.entries_of_ok]⟩

/-- And a program of which this was read is delivered. -/
theorem JoinCourse.ok_of_status (h : JoinCourse program vertex fragment ds r) {program' : Program}
    (hstatus : .programParameter program' linkStatus (.ok true) ∈ ds.map Entry.ofDeed) :
    r = .ok ⟨program, vertex, fragment⟩ := by
  cases h with
  | notLinked h => cases h <;> simp [inChunk] at hstatus
  | noStatus h e => simp [h.entries_of_ok, Entry.inChunk] at hstatus
  | linked h => rfl
  | rejected h log => simp [h.entries_of_ok, Entry.inChunk] at hstatus
  | unread h e => simp [h.entries_of_ok, Entry.inChunk] at hstatus

/-- The first failure of this part is what it results in. -/
theorem JoinCourse.failed (h : JoinCourse program vertex fragment ds r) (e : ε) :
    r = .error (.context e) ↔ firstFailure (ds.map Entry.ofDeed) = some e := by
  unfold firstFailure
  cases h with
  | notLinked h => cases h <;> simp [inChunk, List.findSome?_cons]
  | noStatus h e => simp [h.entries_of_ok, Entry.inChunk, List.findSome?_cons]
  | linked h => simp [h.entries_of_ok, Entry.inChunk, List.findSome?_cons]
  | rejected h log => simp [h.entries_of_ok, Entry.inChunk, List.findSome?_cons]
  | unread h e => simp [h.entries_of_ok, Entry.inChunk, List.findSome?_cons]

/-- A program that did not link is reported with its log, if that could be read. -/
theorem JoinCourse.notLinked_iff (h : JoinCourse program vertex fragment ds r) (log : String) :
    r = .error (.link log) ↔ ∃ program',
      .programParameter program' linkStatus (.ok false) ∈ ds.map Entry.ofDeed ∧
        .programInfoLog program' (.ok log) ∈ ds.map Entry.ofDeed := by
  cases h with
  | notLinked h => cases h <;> simp [inChunk]
  | noStatus h e => simp [h.entries_of_ok, Entry.inChunk]
  | linked h => simp [h.entries_of_ok, Entry.inChunk]
  | rejected h log' => simp [h.entries_of_ok, Entry.inChunk, eq_comm (a := log)]
  | unread h e => simp [h.entries_of_ok, Entry.inChunk]

/-- No source is at fault any more once both shaders are there. -/
theorem JoinCourse.not_compilation (h : JoinCourse program vertex fragment ds r) (stage : Stage)
    (log : String) : r ≠ .error (.compilation stage log) := by
  cases h <;> simp

/-- All calls of this part are of a kind of their own, ... -/
theorem JoinCourse.isJoining (h : JoinCourse program vertex fragment ds r) :
    ∀ e ∈ ds.map Entry.ofDeed, e.isJoining = true := by
  cases h with
  | notLinked h => cases h <;> simp [inChunk]
  | noStatus h e => simp [h.entries_of_ok, Entry.inChunk]
  | linked h => simp [h.entries_of_ok, Entry.inChunk]
  | rejected h log => simp [h.entries_of_ok, Entry.inChunk]
  | unread h e => simp [h.entries_of_ok, Entry.inChunk]

/-- ... so calls of other kinds are not in its record. -/
theorem JoinCourse.not_mem (h : JoinCourse program vertex fragment ds r)
    {e : Entry Shader Program ε} (he : e.isJoining = false) : e ∉ ds.map Entry.ofDeed := fun hmem =>
  Bool.false_ne_true (he.symm.trans (h.isJoining e hmem))

/-- Nor is one created to join shaders. -/
theorem JoinCourse.not_creation (h : JoinCourse program vertex fragment ds r) :
    ∀ e ∈ ds.map Entry.ofDeed, e.isProgramCreation = false := by
  intro e he
  have hjoining := h.isJoining e he
  cases e <;> first | rfl | cases hjoining

end Joining

/-! ### Courses of a build

Where a course gets as far as linking both shaders were delivered, and so the record up to there is
known but for the handles. -/

section Courses

variable {vertexSource fragmentSource : String} {ds : List (Deed Shader Program ε)}
  {r : Except (ShaderError ε) (LinkedProgram Shader Program)}

/-- The record of a build that has delivered the vertex shader. -/
theorem ShaderCourse.entries_vertex {program : Program} {vertex : Shader}
    {making : List (Deed Shader Program ε)}
    (h : ShaderCourse vertexSource .vertex making (.ok vertex)) (ds : List (Deed Shader Program ε)) :
    (⟨.createProgram, .ok program⟩ :: (making ++ ds)).map Entry.ofDeed =
      .createProgram (.ok program) ::
        (acceptance vertexSource .vertex vertex ++ ds.map Entry.ofDeed) := by
  rw [List.map_cons, List.map_append, h.entries_of_ok]
  rfl

/-- The record of a build that has delivered both shaders. -/
theorem ShaderCourse.entries_fragment {program : Program} {vertex fragment : Shader}
    {making making' : List (Deed Shader Program ε)}
    (h : ShaderCourse vertexSource .vertex making (.ok vertex))
    (h' : ShaderCourse fragmentSource .fragment making' (.ok fragment))
    (ds : List (Deed Shader Program ε)) :
    (⟨.createProgram, .ok program⟩ :: (making ++ (making' ++ ds))).map Entry.ofDeed =
      .createProgram (.ok program) :: (acceptance vertexSource .vertex vertex ++
        (acceptance fragmentSource .fragment fragment ++ ds.map Entry.ofDeed)) := by
  rw [h.entries_vertex, List.map_append, h'.entries_of_ok]

/-- In the record of a delivered shader there is nothing but what concerns it. -/
theorem mem_acceptance {source : String} {stage : Stage} {shader : Shader}
    {e : Entry Shader Program ε} :
    e ∈ acceptance source stage shader ↔
      e = .createShader stage (.ok shader) ∨ e = .beginChunk ∨
        e = .shaderSource shader source (.ok ()) ∨ e = .compileShader shader (.ok ()) ∨
        e = .endChunk (.ok ()) ∨ e = .shaderParameter shader compileStatus (.ok true) := by
  simp [acceptance, Entry.inChunk]

/-- The program is created first, and by no later part. -/
theorem ProgramCourse.creation (h : ProgramCourse vertexSource fragmentSource ds r) :
    ∃ made rest, ds.map Entry.ofDeed = .createProgram made :: rest ∧
      (∀ e ∈ rest, e.isProgramCreation = false) ∧ ∀ e, made = .error e → rest = [] := by
  cases h with
  | notCreated e => exact ⟨_, [], rfl, List.forall_mem_nil _, fun _ _ => rfl⟩
  | noVertex h => exact ⟨_, _, rfl, h.not_creation, fun e he => nomatch he⟩
  | noFragment hvertex hfragment =>
    refine ⟨_, _, rfl, ?_, fun e he => nomatch he⟩
    rw [List.map_append]
    exact List.forall_mem_append.2 ⟨hvertex.not_creation, hfragment.not_creation⟩
  | joined hvertex hfragment hjoin =>
    -- the creation of a program is among the calls of none of the three parts
    refine ⟨_, _, rfl, ?_, fun e he => nomatch he⟩
    rw [List.map_append, List.map_append]
    exact List.forall_mem_append.2 ⟨hvertex.not_creation,
      List.forall_mem_append.2 ⟨hfragment.not_creation, hjoin.not_creation⟩⟩

/-- A fragment shader is created behind a vertex shader that was delivered. -/
theorem ProgramCourse.fragment (h : ProgramCourse vertexSource fragmentSource ds r)
    (hcreated : ∃ made, .createShader .fragment made ∈ ds.map Entry.ofDeed) :
    ∃ program vertex made after, ds.map Entry.ofDeed = .createProgram (.ok program) ::
      (acceptance vertexSource .vertex vertex ++ .createShader .fragment made :: after) := by
  obtain ⟨made, hcreated⟩ := hcreated
  cases h with
  | notCreated e => simp at hcreated
  -- the build ended before the fragment shader
  | noVertex h => exact absurd (by simpa using hcreated) (h.not_mem rfl)
  | noFragment hvertex hfragment =>
    obtain ⟨made, rest, heq⟩ := hfragment.head_entries
    rw [hvertex.entries_vertex, heq]
    exact ⟨_, _, made, rest, rfl⟩
  | joined hvertex hfragment hjoin =>
    rw [hvertex.entries_fragment hfragment]
    exact ⟨_, _, _, _, rfl⟩

/-- And anything is attached or linked behind both. -/
theorem ProgramCourse.joins (h : ProgramCourse vertexSource fragmentSource ds r)
    (hjoin : ∃ e ∈ ds.map Entry.ofDeed, e.isJoin = true) :
    ∃ program vertex fragment body closing after,
      ds.map Entry.ofDeed = .createProgram (.ok program) ::
        (acceptance vertexSource .vertex vertex ++
          (acceptance fragmentSource .fragment fragment ++
            (Entry.inChunk body closing ++ after))) ∧
      Joins program vertex fragment body ∧ ∀ e ∈ after, e.isChunk = false ∧ e.isJoin = false := by
  obtain ⟨e, he, hjoin⟩ := hjoin
  -- building a shader neither attaches nor links, so both shaders must have been delivered
  have hmaking : ∀ stage, e.isMaking stage = false := fun stage => by
    cases e <;> first | rfl | cases hjoin
  cases h with
  | notCreated e' => cases e <;> simp at he hjoin
  | noVertex h =>
    rcases List.mem_cons.1 he with rfl | he
    · cases hjoin
    · exact absurd he (h.not_mem (hmaking _))
  | noFragment hvertex hfragment =>
    rcases List.mem_cons.1 he with rfl | he
    · cases hjoin
    rcases List.mem_append.1 (List.map_append ▸ he) with he | he
    · exact absurd he (hvertex.not_mem (hmaking _))
    · exact absurd he (hfragment.not_mem (hmaking _))
  | joined hvertex hfragment hjoining =>
    -- only here are the calls that are asked about
    obtain ⟨body, closing, after, heq, hbody, hafter⟩ := hjoining.shape
    rw [hvertex.entries_fragment hfragment, heq]
    exact ⟨_, _, _, body, closing, after, rfl, hbody, hafter⟩

/-- Deletion goes with a status of false here as well, since it does in the part in which it is
done. -/
theorem ProgramCourse.deletes (h : ProgramCourse vertexSource fragmentSource ds r)
    (shader : Shader) :
    (∃ result, .deleteShader shader result ∈ ds.map Entry.ofDeed) ↔
      .shaderParameter shader compileStatus (.ok false) ∈ ds.map Entry.ofDeed := by
  cases h with
  | notCreated e => simp
  | noVertex h => simpa using h.deletes shader
  | noFragment hvertex hfragment =>
    -- the vertex shader was accepted, and nothing of its record is about deletion
    rw [hvertex.entries_vertex]
    simpa [mem_acceptance] using hfragment.deletes shader
  | joined hvertex hfragment hjoin =>
    rw [hvertex.entries_fragment hfragment]
    -- and behind both shaders nothing is deleted, nor is a shader asked for its status
    have hdelete := fun result => hjoin.not_mem (e := .deleteShader shader result) rfl
    have hstatus := hjoin.not_mem (e := .shaderParameter shader compileStatus (.ok false)) rfl
    simp [mem_acceptance, hdelete, hstatus]

/-- A deletion ends its part and with it the build, so the record up to it is known. -/
theorem ProgramCourse.last (h : ProgramCourse vertexSource fragmentSource ds r) {shader : Shader}
    {deletion : Except ε Unit} (hdelete : .deleteShader shader deletion ∈ ds.map Entry.ofDeed) :
    ∃ program log, ds.map Entry.ofDeed = .createProgram (.ok program) ::
        refusal vertexSource .vertex shader log deletion ∨
      ∃ vertex, ds.map Entry.ofDeed = .createProgram (.ok program) ::
        (acceptance vertexSource .vertex vertex ++
          refusal fragmentSource .fragment shader log deletion) := by
  cases h with
  | notCreated e => simp at hdelete
  | noVertex h =>
    obtain ⟨log, heq⟩ := h.entries_of_deletion (by simpa using hdelete)
    exact ⟨_, log, .inl (congrArg _ heq)⟩
  | noFragment hvertex hfragment =>
    rw [hvertex.entries_vertex] at hdelete ⊢
    obtain ⟨log, heq⟩ := hfragment.entries_of_deletion (by simpa [mem_acceptance] using hdelete)
    exact ⟨_, log, .inr ⟨_, by rw [heq]⟩⟩
  | joined hvertex hfragment hjoin =>
    -- nothing is deleted behind both shaders
    rw [hvertex.entries_fragment hfragment] at hdelete
    exact absurd (by simpa [mem_acceptance] using hdelete) (hjoin.not_mem rfl)

/-- In such a record one status is true, that of the vertex shader, and the deleted shader is that
of the fragment stage. They are the same only if the device gave out one handle for both. -/
theorem ProgramCourse.kept (h : ProgramCourse vertexSource fragmentSource ds r) {shader : Shader}
    {deletion : Except ε Unit}
    (haccepted : .shaderParameter shader compileStatus (.ok true) ∈ ds.map Entry.ofDeed)
    (hdelete : .deleteShader shader deletion ∈ ds.map Entry.ofDeed) :
    .createShader .vertex (.ok shader) ∈ ds.map Entry.ofDeed ∧
      .createShader .fragment (.ok shader) ∈ ds.map Entry.ofDeed := by
  -- the deletion comes last, so the record is known, and only the vertex shader can be accepted in it
  obtain ⟨program, log, heq | ⟨vertex, heq⟩⟩ := h.last hdelete
  · rw [heq] at haccepted
    simp [refusal, Entry.inChunk] at haccepted
  · rw [heq] at haccepted ⊢
    obtain rfl : shader = vertex := by
      simpa [mem_acceptance, refusal, Entry.inChunk] using haccepted
    simp [mem_acceptance, refusal]

/-- The record of a build that delivers is known but for the handles. -/
theorem ProgramCourse.entries_of_ok {l : LinkedProgram Shader Program}
    (h : ProgramCourse vertexSource fragmentSource ds (.ok l)) :
    ds.map Entry.ofDeed = completion vertexSource fragmentSource l := by
  cases h with
  | joined hvertex hfragment hjoin =>
    obtain ⟨rfl, heq⟩ := hjoin.entries_of_ok
    rw [hvertex.entries_fragment hfragment, heq]
    rfl

/-- The record of a build that delivers a program shows all three handles. -/
theorem completion_injective {l l' : LinkedProgram Shader Program}
    (h : (completion vertexSource fragmentSource l : List (Entry Shader Program ε)) =
      completion vertexSource fragmentSource l') : l = l' := by
  obtain ⟨program, vertex, fragment⟩ := l
  obtain ⟨program', vertex', fragment'⟩ := l'
  simp [completion, acceptance, Entry.inChunk] at h
  obtain ⟨rfl, ⟨rfl, -⟩, ⟨rfl, -⟩, -⟩ := h
  rfl

/-- A build delivers if it read that its program linked. -/
theorem ProgramCourse.ok_of_status (h : ProgramCourse vertexSource fragmentSource ds r)
    (program : Program)
    (hstatus : .programParameter program linkStatus (.ok true) ∈ ds.map Entry.ofDeed) :
    ∃ l, r = .ok l := by
  cases h with
  | notCreated e => simp at hstatus
  | noVertex h => exact absurd (by simpa using hstatus) (h.not_mem rfl)
  | noFragment hvertex hfragment =>
    rw [hvertex.entries_vertex] at hstatus
    exact absurd (by simpa [mem_acceptance] using hstatus) (hfragment.not_mem rfl)
  | joined hvertex hfragment hjoin =>
    -- the status of a program is read behind both shaders, so it was read in this part
    rw [hvertex.entries_fragment hfragment] at hstatus
    exact ⟨_, hjoin.ok_of_status (by simpa [mem_acceptance] using hstatus)⟩

/-- The log of the program is asked for in the last part only. -/
theorem ProgramCourse.notLinked_iff (h : ProgramCourse vertexSource fragmentSource ds r)
    (log : String) :
    r = .error (.link log) ↔ ∃ program,
      .programParameter program linkStatus (.ok false) ∈ ds.map Entry.ofDeed ∧
        .programInfoLog program (.ok log) ∈ ds.map Entry.ofDeed := by
  cases h with
  | notCreated e => simp
  | noVertex h =>
    -- the program is not asked about while a shader is made
    have hlog := fun program => h.not_mem (e := .programInfoLog program (.ok log)) rfl
    have hlink := h.not_link log
    simpa [hlog] using hlink
  | noFragment hvertex hfragment =>
    rw [hvertex.entries_vertex]
    have hlog := fun program => hfragment.not_mem (e := .programInfoLog program (.ok log)) rfl
    have hlink := hfragment.not_link log
    simpa [mem_acceptance, hlog] using hlink
  | joined hvertex hfragment hjoin =>
    rw [hvertex.entries_fragment hfragment]
    simpa [mem_acceptance] using hjoin.notLinked_iff log

/-- The first failure of the build is that of the part in which it ends. -/
theorem ProgramCourse.failed (h : ProgramCourse vertexSource fragmentSource ds r) (e : ε) :
    r = .error (.context e) ↔ firstFailure (ds.map Entry.ofDeed) = some e := by
  -- in front of the part in which the build ends all calls succeeded
  cases h with
  | notCreated e => simp [firstFailure]
  | noVertex h =>
    rw [List.map_cons, ← List.singleton_append, firstFailure_append (by simp)]
    simpa using h.failed e
  | noFragment hvertex hfragment =>
    rw [hvertex.entries_vertex, ← List.cons_append,
      firstFailure_append (by simp [acceptance, Entry.inChunk])]
    simpa using hfragment.failed e
  | joined hvertex hfragment hjoin =>
    rw [hvertex.entries_fragment hfragment, ← List.append_assoc, ← List.cons_append,
      firstFailure_append (by simp [acceptance, Entry.inChunk])]
    exact hjoin.failed e

/-- A build fails for a source just if the record ends with giving that shader up. -/
theorem ProgramCourse.rejected_iff (h : ProgramCourse vertexSource fragmentSource ds r)
    (stage : Stage) (log : String) :
    r = .error (.compilation stage log) ↔
      (stage = .vertex ∧ ∃ program shader, ds.map Entry.ofDeed = .createProgram (.ok program) ::
        refusal vertexSource .vertex shader (.ok log) (.ok ())) ∨
      (stage = .fragment ∧ ∃ program vertex shader, ds.map Entry.ofDeed =
        .createProgram (.ok program) :: (acceptance vertexSource .vertex vertex ++
          refusal fragmentSource .fragment shader (.ok log) (.ok ()))) := by
  cases h with
  | notCreated e => simp [refusal, acceptance]
  | noVertex h =>
    have hvertex := h.compilation_iff stage log
    simp only [Except.error.injEq] at hvertex ⊢
    rw [hvertex]
    constructor
    · rintro ⟨rfl, shader, heq⟩
      exact .inl ⟨rfl, _, shader, congrArg _ heq⟩
    · rintro (⟨hstage, program, shader, heq⟩ | ⟨-, program, vertex, shader, heq⟩)
      · exact ⟨hstage, shader, (List.cons.inj heq).2⟩
      · -- no fragment shader was created
        have hcreated := h.not_mem (e := .createShader .fragment (.ok shader)) rfl
        rw [(List.cons.inj heq).2] at hcreated
        simp [refusal] at hcreated
  | noFragment hvertex hfragment =>
    -- the record begins with an accepted vertex shader, so only the second case is left
    have hrejected := hfragment.compilation_iff stage log
    simp only [Except.error.injEq] at hrejected ⊢
    rw [hrejected, hvertex.entries_vertex]
    simp [acceptance, refusal, Entry.inChunk]
  | joined hvertex hfragment hjoin =>
    rw [hvertex.entries_fragment hfragment]
    simpa [acceptance, refusal, Entry.inChunk] using hjoin.not_compilation stage log

/-- **A build goes as its course says.** -/
theorem ProgramCourse.builds (h : ProgramCourse vertexSource fragmentSource ds r) :
    ProgramBuild vertexSource fragmentSource (ds.map Entry.ofDeed) r where
  creation := h.creation
  fragment := h.fragment
  joins := h.joins
  deletes := h.deletes
  last _ _ := h.last
  kept _ _ := h.kept
  completed := by
    -- both ways by the record: that of a delivered program shows a status of true, and no other one
    -- does
    constructor
    · rintro ⟨l, rfl⟩
      rw [h.entries_of_ok]
      exact ⟨by simp [completion, acceptance, Entry.inChunk], l.program, by simp [completion]⟩
    · rintro ⟨-, program, hstatus⟩
      exact h.ok_of_status program hstatus
  calls l := by
    constructor
    · rintro rfl
      exact h.entries_of_ok
    · intro heq
      obtain ⟨l', rfl⟩ := h.ok_of_status l.program (by simp [heq, completion])
      obtain rfl : l = l' := completion_injective (heq.symm.trans h.entries_of_ok)
      rfl
  notLinked := h.notLinked_iff
  rejected := h.rejected_iff
  failed := h.failed

end Courses

/-! ### Main statement -/

section Failing

variable (gl : Gl σ Shader Program ε) (vertexSource fragmentSource : String) (s : σ)
  {program : Program} {vertex : Shader} {e : ShaderError ε}

/-- The program that is created does not depend on how failures are named. -/
theorem createProgram_of_ok (hprogram : (gl.createProgram s).result = .ok program) :
    (gl.createProgram.mapError (ShaderError.context) s).result = .ok program := by
  rw [Action.mapError_apply, hprogram]
  rfl

/-- Where the vertex shader is not delivered the build ends, with what kept it from being. -/
theorem makeProgram_of_no_vertex (hprogram : (gl.createProgram s).result = .ok program)
    (hvertex : (gl.makeShader vertexSource .vertex (gl.createProgram s).state).result = .error e) :
    let made := gl.createProgram s
    let v := gl.makeShader vertexSource .vertex made.state
    gl.makeProgram vertexSource fragmentSource s = ⟨.error e, v.state, made.events ++ v.events⟩ := by
  unfold makeProgram
  rw [Action.bind_of_ok (gl.createProgram_of_ok s hprogram), Action.mapError_apply,
    Action.bind_of_error hvertex]

/-- And likewise where the fragment shader is not. -/
theorem makeProgram_of_no_fragment (hprogram : (gl.createProgram s).result = .ok program)
    (hvertex : (gl.makeShader vertexSource .vertex (gl.createProgram s).state).result = .ok vertex)
    (hfragment : (gl.makeShader fragmentSource .fragment
      (gl.makeShader vertexSource .vertex (gl.createProgram s).state).state).result = .error e) :
    let made := gl.createProgram s
    let v := gl.makeShader vertexSource .vertex made.state
    let f := gl.makeShader fragmentSource .fragment v.state
    gl.makeProgram vertexSource fragmentSource s =
      ⟨.error e, f.state, made.events ++ (v.events ++ f.events)⟩ := by
  unfold makeProgram
  rw [Action.bind_of_ok (gl.createProgram_of_ok s hprogram), Action.mapError_apply,
    Action.bind_of_ok hvertex, Action.bind_of_error hfragment]

end Failing

end Gl

/-- **How a program is built, on any device.** Keep a record of the calls that building a program
makes on any device, in any state. The record changes nothing, and by it the build goes as it should
(`Gl.ProgramBuild`). Moreover a build in which the shader of a stage was not delivered ends there, and
its error is that of the stage. -/
theorem makeProgram_builds {σ Shader Program ε : Type} (gl : Gl σ Shader Program ε)
    (vertexSource fragmentSource : String) (s : σ) :
    let out := gl.makeProgram vertexSource fragmentSource s
    let seen := gl.recorded.makeProgram vertexSource fragmentSource ⟨s, []⟩
    let made := gl.createProgram s
    let v := gl.makeShader vertexSource .vertex made.state
    let f := gl.makeShader fragmentSource .fragment v.state
    out = ⟨seen.result, seen.state.inner, seen.events⟩ ∧
      Gl.ProgramBuild vertexSource fragmentSource seen.state.record out.result ∧
      ∀ program, made.result = .ok program →
        (∀ e, v.result = .error e → out = ⟨.error e, v.state, made.events ++ v.events⟩) ∧
        ∀ vertex e, v.result = .ok vertex → f.result = .error e →
          out = ⟨.error e, f.state, made.events ++ (v.events ++ f.events)⟩ := by
  intro out seen made v f
  have hmatches : Watched.watching.Matches
      (gl.recorded.makeProgram vertexSource fragmentSource)
      (gl.makeProgram vertexSource fragmentSource) :=
    (gl.watched_matches _).makeProgram vertexSource fragmentSource
  obtain ⟨hsame, hs, -, hrecord, hcourse⟩ := Gl.tells_watched hmatches
    (gl.recorded.makeProgram_tells vertexSource fragmentSource) s
  refine ⟨hsame, ?_, fun program hprogram => ⟨fun e hvertex => ?_, fun vertex e hvertex he => ?_⟩⟩
  · rw [show seen.state.record = _ from hrecord]
    exact hcourse.builds
  · exact gl.makeProgram_of_no_vertex vertexSource fragmentSource s hprogram hvertex
  · exact gl.makeProgram_of_no_fragment vertexSource fragmentSource s hprogram hvertex he

/-! ### A device that gives out a handle twice

What a build deletes is a handle, and the device decides what it refers to. Over a remote context
this is the executor, which may name both shaders alike. -/

namespace Gl.Entry

variable {Shader Program ε : Type} [DecidableEq Shader] {shader : Shader}
  {e : Entry Shader Program ε}

/-- The call reads that this shader compiled. -/
def isAcceptanceOf (shader : Shader) : Entry Shader Program ε → Bool
  | .shaderParameter shader' name (.ok true) => shader' = shader && name = compileStatus
  | _ => false

/-- The call deletes this shader, and succeeds. -/
def isDeletionOf (shader : Shader) : Entry Shader Program ε → Bool
  | .deleteShader shader' (.ok _) => shader' = shader
  | _ => false

/-- Such a call is known, ... -/
theorem eq_of_isAcceptanceOf (h : e.isAcceptanceOf shader = true) :
    e = .shaderParameter shader compileStatus (.ok true) := by
  unfold isAcceptanceOf at h
  split at h
  · simp only [Bool.and_eq_true, decide_eq_true_eq] at h
    rw [h.1, h.2]
  · cases h

/-- ... and so is this one. -/
theorem eq_of_isDeletionOf (h : e.isDeletionOf shader = true) : e = .deleteShader shader (.ok ()) := by
  unfold isDeletionOf at h
  split at h
  · rw [of_decide_eq_true h]
  · cases h

end Gl.Entry

/-- An executor that names both shaders alike, takes the source of the first one and rejects that of
the second. Its state is the number of statuses that it was asked for. -/
def sharedKey (message : Message) (asked : Nat) : Reply × Nat :=
  match message with
  | .query is =>
    match is.getLast?.map (·.op) with
    | some "createProgram" => (.queryReply (.string "key1"), asked)
    | some "createShader" => (.queryReply (.string "key2"), asked)
    | some "getShaderParameter" => (.queryReply (.bool (asked = 0)), asked + 1)
    | _ => (.queryReply (.string "syntax error"), asked)
  | _ => (.queryReply .null, asked)

/-- The name that both shaders get. -/
def sharedKey.shader : Handle := ⟨"key2", by decide⟩

/-- The calls of a build with this executor, over a remote context in which nothing was done
before. -/
def sharedKey.record : List (Gl.Entry Handle Handle RemoteError) :=
  ((Context.gl (Recording.transport sharedKey)).recorded.makeProgram "void main() \x7b\x7d"
    "void main() \x7b" ⟨{ transport := ⟨[], 0⟩ }, []⟩).state.record

/-- **An accepted shader may be deleted**, by the handle that it shares with a rejected one. -/
theorem makeProgram_deletes_accepted :
    ¬∀ {σ Shader Program ε : Type} (gl : Gl σ Shader Program ε)
        (vertexSource fragmentSource : String) (s : σ) (shader : Shader) (deletion : Except ε Unit),
      let seen := gl.recorded.makeProgram vertexSource fragmentSource ⟨s, []⟩
      .shaderParameter shader compileStatus (.ok true) ∈ seen.state.record →
        .deleteShader shader deletion ∉ seen.state.record := by
  intro h
  -- both calls are there, the one for the vertex shader and the other for the fragment shader
  have haccepted : sharedKey.record.any (Gl.Entry.isAcceptanceOf sharedKey.shader) = true := by
    decide +kernel
  have hdeleted : sharedKey.record.any (Gl.Entry.isDeletionOf sharedKey.shader) = true := by
    decide +kernel
  obtain ⟨e, he, hread⟩ := List.any_eq_true.1 haccepted
  obtain ⟨e', he', hdelete⟩ := List.any_eq_true.1 hdeleted
  exact h (Context.gl (Recording.transport sharedKey)) _ _ _ sharedKey.shader (.ok ())
    (Gl.Entry.eq_of_isAcceptanceOf hread ▸ he) (Gl.Entry.eq_of_isDeletionOf hdelete ▸ he')

end GlBridge
