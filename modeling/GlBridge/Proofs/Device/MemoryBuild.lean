import GlBridge.Proofs.Action.Triple
import GlBridge.Proofs.Device.MemoryFrame
import GlBridge.Proofs.Device.ProgramBuild

/-!
# Building a program in memory

When the build of a program succeeds on the device in memory, what it leaves behind then, and what
it leaves alone in any case. The main statement is `build_in_memory`, for every state of the device.

The frame holds of any use that keeps to what it is given (`Memory.Since.run`), and the build is
such a use. Success is decided in two halves. A build that succeeds made each of nine calls,
so none of them is refused (`Memory.allowed_of_ok`). Where none is refused, the build is played
call by call (`Action.Yields`) up to the status of a shader or of the program, which is what the
sources and the link log say; it goes on if the status is true and fails otherwise.
-/

namespace GlBridge

namespace Memory

variable {α : Type}

/-! ### Calls that are needed -/

/-- The calls without which no shader is built. -/
def shaderCalls : List Call :=
  [.createShader, .shaderSource, .compileShader, .endChunk, .getShaderParameter]

/-- The calls without which no program is built. -/
def buildCalls : List Call :=
  [.createProgram] ++ shaderCalls ++ [.attachShader, .linkProgram, .getProgramParameter]

/-- A shader that was delivered took all calls that are needed for it. -/
theorem calls_of_shader {source : String} {stage : Stage} {shader : Nat}
    {ds : List (Gl.Deed Nat Nat Failure)} (h : Gl.ShaderCourse source stage ds (.ok shader)) :
    ∀ call ∈ shaderCalls, ∃ d ∈ ds, nameOf d.call = call := by
  cases h with
  | rejected _ hreject => cases hreject
  | accepted h =>
    cases h with
    | uploaded => simp [shaderCalls, Gl.inChunk, nameOf]

/-- So did the linking of two shaders, -/
theorem calls_of_join {program vertex fragment : Nat} {l : LinkedProgram Nat Nat}
    {ds : List (Gl.Deed Nat Nat Failure)}
    (h : Gl.JoinCourse program vertex fragment ds (.ok l)) :
    ∀ call ∈ [Call.attachShader, .linkProgram, .getProgramParameter],
      ∃ d ∈ ds, nameOf d.call = call := by
  cases h with
  | linked h =>
    cases h with
    | linked => simp [Gl.inChunk, nameOf]

/-- and so did the program. -/
theorem calls_of_program {vertexSource fragmentSource : String} {l : LinkedProgram Nat Nat}
    {ds : List (Gl.Deed Nat Nat Failure)}
    (h : Gl.ProgramCourse vertexSource fragmentSource ds (.ok l)) :
    ∀ call ∈ buildCalls, ∃ d ∈ ds, nameOf d.call = call := by
  cases h with
  | joined hvertex hfragment hjoin =>
    intro call hcall
    rcases List.mem_append.1 hcall with hcall | hjoining
    · rcases List.mem_append.1 hcall with hcreate | hshader
      · obtain rfl := List.mem_singleton.1 hcreate
        exact ⟨_, List.mem_cons_self, rfl⟩
      · -- the vertex shader alone takes all of these
        obtain ⟨d, hd, hname⟩ := calls_of_shader hvertex call hshader
        exact ⟨d, List.mem_cons_of_mem _ (List.mem_append_left _ hd), hname⟩
    · obtain ⟨d, hd, hname⟩ := calls_of_join hjoin call hjoining
      exact ⟨d, List.mem_cons_of_mem _ (List.mem_append_right _ (List.mem_append_right _ hd)),
        hname⟩

/-- A failure in the record is that of the deed. -/
theorem failure_ofDeed {d : Gl.Deed Nat Nat Failure} {e : Failure}
    (h : (Gl.Entry.ofDeed d).failure? = some e) : d.result = .error e := by
  obtain ⟨call, result⟩ := d
  cases call with
  | beginChunk => cases h
  | _ =>
    cases result with
    | error e' => exact congrArg Except.error (Option.some.inj h)
    | ok a => cases h

/-- **A build that succeeds made all calls that are needed**, and none of them was refused. -/
theorem allowed_of_ok {m : Memory} {ds : List (Gl.Deed Nat Nat Failure)}
    {vertexSource fragmentSource : String} {l : LinkedProgram Nat Nat}
    (h : Gl.ProgramCourse vertexSource fragmentSource ds (.ok l)) (hfares : ∀ d ∈ ds, m.Fares d) :
    ∀ call ∈ buildCalls, m.refuses ≠ some call := by
  intro call hcall hrefuses
  obtain ⟨d, hd, hname⟩ := calls_of_program h call hcall
  -- opening a chunk is not among the needed calls, so the call of `d` can be refused
  have hdeclines : m.Declines d.call := by
    refine ⟨hname ▸ hrefuses, ?_⟩
    rw [hname]
    rintro rfl
    exact absurd hcall (by decide)
  obtain ⟨-, hresult⟩ | ⟨hallowed, -⟩ := hfares d hd
  · obtain ⟨a, ha⟩ := h.succeeded d hd
    rw [hresult] at ha
    cases ha
  · exact hallowed hdeclines

/-! ### The device along a build -/

/-- The device `m` with these objects behind those of before, and this much deeper and further. -/
structure Stands (m : Memory) (shaders : List Shader) (programs : List Program)
    (level flushes : Nat) (s : Memory) : Prop where
  shaders : s.shaders = m.shaders ++ shaders
  programs : s.programs = m.programs ++ programs
  depth : s.depth = m.depth + level
  flushes : s.flushes = m.flushes + flushes
  refuses : s.refuses = m.refuses
  linkLog : s.linkLog = m.linkLog

/-- The device stands where it does before anything is done. -/
theorem stands_start (m : Memory) : m.Stands [] [] 0 0 m :=
  ⟨(List.append_nil _).symm, (List.append_nil _).symm, rfl, rfl, rfl, rfl⟩

section Calls

variable {m : Memory} {ss : List Shader} {ps : List Program} {a : Shader} {p : Program}
  {level flushes : Nat}

/-- The handle behind those of some shaders. -/
def next (m : Memory) (ss : List Shader) : Nat := m.shaders.length + ss.length

/-- The new shader in the last place is found under its handle, -/
theorem Stands.shader_lt (hs : m.Stands (ss ++ [a]) ps level flushes s) :
    m.next ss < s.shaders.length := by
  rw [hs.shaders, List.length_append, List.length_append]
  exact Nat.add_lt_add_left (Nat.lt_succ_self _) _

/-- with the status that it was made with, -/
theorem Stands.compiledAt (hs : m.Stands (ss ++ [a]) ps level flushes s) :
    s.compiledAt (m.next ss) = a.compiled := by
  have hnext : m.next ss = (m.shaders ++ ss).length := List.length_append.symm
  unfold Memory.compiledAt
  rw [hs.shaders, ← List.append_assoc, hnext, List.getElem?_concat_length]
  rfl

/-- and to change it changes nothing else. -/
theorem Stands.modify_shader (hs : m.Stands (ss ++ [a]) ps level flushes s)
    (f : Shader → Shader) : s.shaders.modify (m.next ss) f = m.shaders ++ (ss ++ [f a]) := by
  have hnext : m.next ss = (m.shaders ++ ss).length := List.length_append.symm
  rw [hs.shaders, ← List.append_assoc, hnext, modify_append (Nat.le_refl _), Nat.sub_self,
    List.append_assoc]
  rfl

/-- The new program is found under its handle as well, ... -/
theorem Stands.program_lt (hs : m.Stands ss [p] level flushes s) :
    m.programs.length < s.programs.length := by
  rw [hs.programs, List.length_append]
  exact Nat.lt_succ_self _

/-- ... as the one that it is, ... -/
theorem Stands.program_at (hs : m.Stands ss [p] level flushes s) :
    s.programs[m.programs.length]? = some p := by
  rw [hs.programs, List.getElem?_concat_length]

/-- ... and is changed alone. -/
theorem Stands.modify_program (hs : m.Stands ss [p] level flushes s) (f : Program → Program) :
    s.programs.modify m.programs.length f = m.programs ++ [f p] := by
  rw [hs.programs, modify_append (Nat.le_refl _), Nat.sub_self]
  rfl

/-- A call about the new shader in the last place refers to what is there, -/
theorem Stands.knows_shader (hs : m.Stands (ss ++ [a]) ps level flushes s)
    {call : Gl.Call Nat Nat α} (hshaders : call.shaders = [m.next ss])
    (hprograms : call.programs = []) (hname : nameOf call ≠ .endChunk) : s.Knows call where
  shaders i hi := by
    rw [hshaders] at hi
    exact List.mem_singleton.1 hi ▸ hs.shader_lt
  programs i hi := by
    rw [hprograms] at hi
    cases hi
  attached i hi := by
    rw [hprograms] at hi
    cases hi
  level h := absurd h hname

/-- and so does one about the new program, to which new shaders may be attached. -/
theorem Stands.knows_program (hs : m.Stands ss [p] level flushes s)
    (hattached : ∀ i ∈ p.attached, i < m.next ss) {call : Gl.Call Nat Nat α}
    (hshaders : ∀ i ∈ call.shaders, i < m.next ss) (hprograms : call.programs = [m.programs.length])
    (hname : nameOf call ≠ .endChunk) : s.Knows call := by
  have hlength : s.shaders.length = m.next ss := by
    rw [hs.shaders]
    exact List.length_append
  refine ⟨?_, ?_, ?_, fun h => absurd h hname⟩
  · exact fun i hi => hlength ▸ hshaders i hi
  · rw [hprograms]
    exact fun i hi => List.mem_singleton.1 hi ▸ hs.program_lt
  · rw [hprograms]
    intro i hi q hq j hj
    obtain rfl := List.mem_singleton.1 hi
    rw [hs.program_at] at hq
    obtain rfl := Option.some.inj hq
    exact hlength ▸ hattached j hj

/-! ### The calls of a build -/

/-- **A call that is not refused**, by its answer and its effect. -/
theorem yields_perform (call : Gl.Call Nat Nat α) {ss' : List Shader} {ps' : List Program}
    {level' flushes' : Nat} {b : α} (hallowed : m.refuses ≠ some (nameOf call))
    (h : ∀ s, m.Stands ss ps level flushes s → s.Knows call ∧ s.answer call = b ∧
      m.Stands ss' ps' level' flushes' (effect call s)) :
    (gl.perform call).Yields (m.Stands ss ps level flushes) (.ok b)
      (m.Stands ss' ps' level' flushes') := by
  intro s hs
  obtain ⟨hknows, hanswer, -⟩ := h s hs
  -- the record of calls is no part of what is said, so the call may be entered first
  have hentered : m.Stands ss ps level flushes (s.entered (nameOf call)) :=
    ⟨hs.shaders, hs.programs, hs.depth, hs.flushes, hs.refuses, hs.linkLog⟩
  have hallows : ¬s.Declines call := fun hdeclines =>
    hallowed (hs.refuses.symm.trans hdeclines.1)
  rw [perform_of_known hallows hknows]
  exact ⟨congrArg Except.ok hanswer, (h _ hentered).2.2⟩

/-- A shader gets the handle behind all others. -/
theorem yields_createShader (hallowed : m.refuses ≠ some .createShader) (stage : Stage) :
    (gl.createShader stage).Yields (m.Stands ss ps level flushes) (.ok (m.next ss))
      (m.Stands (ss ++ [{ stage := stage }]) ps level flushes) := by
  refine yields_perform (.createShader stage) hallowed fun s hs => ⟨?_, ?_, ?_⟩
  · exact ⟨by simp, by simp, by simp, fun h => nomatch h⟩
  · show s.shaders.length = m.next ss
    rw [hs.shaders]
    exact List.length_append
  · refine ⟨?_, hs.programs, hs.depth, hs.flushes, hs.refuses, hs.linkLog⟩
    show s.shaders ++ _ = _
    rw [hs.shaders, List.append_assoc]

/-- So does the program of a build. -/
theorem yields_createProgram (hallowed : m.refuses ≠ some .createProgram) :
    gl.createProgram.Yields (m.Stands ss [] level flushes) (.ok m.programs.length)
      (m.Stands ss [{}] level flushes) := by
  refine yields_perform .createProgram hallowed fun s hs => ⟨?_, ?_, ?_⟩
  · exact ⟨by simp, by simp, by simp, fun h => nomatch h⟩
  · exact congrArg List.length (hs.programs.trans (List.append_nil _))
  · refine ⟨hs.shaders, ?_, hs.depth, hs.flushes, hs.refuses, hs.linkLog⟩
    exact congrArg (· ++ [{}]) (hs.programs.trans (List.append_nil _))

/-- Its source is what it was given last, -/
theorem yields_shaderSource (hallowed : m.refuses ≠ some .shaderSource) (source : String) :
    (gl.shaderSource (m.next ss) source).Yields (m.Stands (ss ++ [a]) ps level flushes) (.ok ())
      (m.Stands (ss ++ [{ a with source }]) ps level flushes) :=
  yields_perform (.shaderSource (m.next ss) source) hallowed fun _ hs =>
    ⟨hs.knows_shader rfl rfl Call.noConfusion, rfl,
      hs.modify_shader _, hs.programs, hs.depth, hs.flushes, hs.refuses, hs.linkLog⟩

/-- and compiling looks for the entry point in it. -/
theorem yields_compileShader (hallowed : m.refuses ≠ some .compileShader) :
    (gl.compileShader (m.next ss)).Yields (m.Stands (ss ++ [a]) ps level flushes) (.ok ())
      (m.Stands (ss ++ [{ a with compiled := Text.contains entryPoint a.source }]) ps level
        flushes) :=
  yields_perform (.compileShader (m.next ss)) hallowed fun _ hs =>
    ⟨hs.knows_shader rfl rfl Call.noConfusion, rfl,
      hs.modify_shader _, hs.programs, hs.depth, hs.flushes, hs.refuses, hs.linkLog⟩

/-- The status is as the compilation left it. -/
theorem yields_shaderParameter (hallowed : m.refuses ≠ some .getShaderParameter) :
    (gl.shaderParameter (m.next ss) compileStatus).Yields (m.Stands (ss ++ [a]) ps level flushes)
      (.ok a.compiled) (m.Stands (ss ++ [a]) ps level flushes) :=
  yields_perform (.shaderParameter (m.next ss) compileStatus) hallowed fun _ hs =>
    ⟨hs.knows_shader rfl rfl Call.noConfusion, hs.compiledAt, hs⟩

/-- Shaders are attached in the order of the calls. -/
theorem yields_attachShader (hallowed : m.refuses ≠ some .attachShader)
    (hattached : ∀ i ∈ p.attached, i < m.next ss) {shader : Nat} (hshader : shader < m.next ss) :
    (gl.attachShader m.programs.length shader).Yields (m.Stands ss [p] level flushes) (.ok ())
      (m.Stands ss [{ p with attached := p.attached ++ [shader] }] level flushes) :=
  yields_perform (.attachShader m.programs.length shader) hallowed fun _ hs =>
    ⟨hs.knows_program hattached (by simpa using hshader) rfl Call.noConfusion, rfl,
      hs.shaders, hs.modify_program _, hs.depth, hs.flushes, hs.refuses, hs.linkLog⟩

/-- The status of the program is what linking made of it. -/
theorem yields_programParameter (hallowed : m.refuses ≠ some .getProgramParameter)
    (hattached : ∀ i ∈ p.attached, i < m.next ss) :
    (gl.programParameter m.programs.length linkStatus).Yields (m.Stands ss [p] level flushes)
      (.ok p.linked) (m.Stands ss [p] level flushes) := by
  refine yields_perform (.programParameter m.programs.length linkStatus) hallowed
    fun s hs => ⟨hs.knows_program hattached (by simp) rfl Call.noConfusion, ?_, hs⟩
  show (linkStatus = linkStatus && s.linkedAt m.programs.length) = p.linked
  unfold linkedAt
  rw [hs.program_at]
  simp

/-- Two shaders that compiled, one of each stage, link unless the settings prevent it. -/
theorem yields_linkProgram (hallowed : m.refuses ≠ some .linkProgram) {v f : Shader}
    (hv : v.stage = .vertex ∧ v.compiled = true) (hf : f.stage = .fragment ∧ f.compiled = true)
    (hp : p.attached = [m.next [], m.next [v]]) :
    (gl.linkProgram m.programs.length).Yields (m.Stands [v, f] [p] level flushes) (.ok ())
      (m.Stands [v, f] [{ p with linked := m.linkLog.isNone }] level flushes) := by
  have hattached : ∀ i ∈ p.attached, i < m.next [v, f] := by
    simp [hp, next]
  refine yields_perform (.linkProgram m.programs.length) hallowed fun s hs =>
    ⟨hs.knows_program hattached (by simp) rfl Call.noConfusion, rfl, ?_⟩
  -- what was attached are the two new shaders, and they are looked up by their places
  have hfound : p.attached.filterMap (fun i => s.shaders[i]?) = [v, f] := by
    simp [hp, hs.shaders, next]
  have hlinks : s.links p = m.linkLog.isNone := by
    unfold links
    rw [hfound, hs.linkLog]
    simp [compiledStages, hv, hf]
  refine ⟨hs.shaders, ?_, hs.depth, hs.flushes, hs.refuses, hs.linkLog⟩
  refine (hs.modify_program fun p => { p with linked := s.links p }).trans ?_
  rw [hlinks]

/-- **A chunk around what goes well.** It leaves the depth as it was, and closing the outermost one
flushes. -/
theorem yields_scope (hallowed : m.refuses ≠ some .endChunk) {body : Action Memory Failure α}
    {ss' : List Shader} {ps' : List Program} {b : α}
    (hbody : body.Yields (m.Stands ss ps 1 flushes) (.ok b) (m.Stands ss' ps' 1 flushes)) :
    (gl.scope body).Yields (m.Stands ss ps 0 flushes) (.ok b)
      (m.Stands ss' ps' 0 (flushes + if m.depth = 0 then 1 else 0)) := by
  have hopen : (Action.modify gl.beginChunk : Action Memory Failure Unit).Yields
      (m.Stands ss ps 0 flushes) (.ok ()) (m.Stands ss ps 1 flushes) := fun s hs =>
    ⟨rfl, hs.shaders, hs.programs, congrArg (· + 1) hs.depth, hs.flushes, hs.refuses, hs.linkLog⟩
  have hclose : gl.endChunk.Yields (m.Stands ss' ps' 1 flushes) (.ok ())
      (m.Stands ss' ps' 0 (flushes + if m.depth = 0 then 1 else 0)) := by
    refine yields_perform .endChunk hallowed fun s hs => ⟨?_, rfl, ?_⟩
    · exact ⟨by simp, by simp, by simp, fun _ => hs.depth ▸ Nat.succ_pos _⟩
    · refine ⟨hs.shaders, hs.programs, congrArg (· - 1) hs.depth, ?_, hs.refuses, hs.linkLog⟩
      show s.flushes + (if s.depth = 1 then 1 else 0) = _
      rw [hs.flushes, hs.depth, Nat.add_assoc]
      simp only [Nat.add_eq_right]
  refine hopen.bind (hbody.attempt.bind ?_)
  exact hclose.bind (Action.yields_pure b)

end Calls

/-! ### The build -/

section Build

variable {m : Memory} {ss : List Shader} {ps : List Program} {flushes : Nat}

/-- What is made of a source, be it good or bad. -/
def made (source : String) (stage : Stage) : Shader :=
  { stage, source, compiled := Text.contains entryPoint source }

/-- A source is handed over and compiled in a chunk of its own, whatever it contains. -/
theorem yields_upload (hallowed : ∀ call ∈ shaderCalls, m.refuses ≠ some call) (source : String)
    (stage : Stage) :
    (gl.scope do
      gl.shaderSource (m.next ss) source
      gl.compileShader (m.next ss)).Yields
      (m.Stands (ss ++ [{ stage := stage }]) ps 0 flushes) (.ok ())
      (m.Stands (ss ++ [made source stage]) ps 0 (flushes + if m.depth = 0 then 1 else 0)) := by
  refine yields_scope (hallowed _ (by decide)) ?_
  refine (yields_shaderSource (hallowed _ (by decide)) source).bind ?_
  exact yields_compileShader (hallowed _ (by decide))

/-- A source with an entry point is compiled, -/
theorem yields_makeShader (hallowed : ∀ call ∈ shaderCalls, m.refuses ≠ some call)
    {source : String} (hsource : Text.contains entryPoint source = true) (stage : Stage) :
    (gl.makeShader source stage).Yields (m.Stands ss ps 0 flushes) (.ok (m.next ss))
      (m.Stands (ss ++ [made source stage]) ps 0 (flushes + if m.depth = 0 then 1 else 0)) := by
  have hstatus : (made source stage).compiled = true := hsource
  refine (yields_createShader (hallowed _ (by decide)) stage).mapError _ |>.bind ?_
  refine (yields_upload hallowed source stage).mapError _ |>.bind ?_
  refine (yields_shaderParameter (hallowed _ (by decide))).mapError _ |>.bind ?_
  rw [hstatus]
  exact (Action.yields_emit _).bind (Action.yields_pure _)

/-- To give a shader up is a failure, whichever way it goes. -/
theorem fails_rejectShader (P : Memory → Prop) (i : Nat) (stage : Stage) :
    (gl.rejectShader i stage).Fails P := by
  intro s _
  obtain ⟨ds, -, hcourse⟩ := (Gl.follows_of_tells (gl.rejectShader_tells i stage)
    fun _ _ _ h => h.1) s
  generalize (gl.rejectShader i stage s).result = r at hcourse
  cases hcourse <;> exact ⟨_, rfl⟩

/-- and one without is not. -/
theorem fails_makeShader (hallowed : ∀ call ∈ shaderCalls, m.refuses ≠ some call)
    {source : String} (hsource : Text.contains entryPoint source = false) (stage : Stage) :
    (gl.makeShader source stage).Fails (m.Stands ss ps 0 flushes) := by
  have hstatus : (made source stage).compiled = false := hsource
  refine (yields_createShader (hallowed _ (by decide)) stage).mapError _ |>.bind_fails ?_
  refine (yields_upload hallowed source stage).mapError _ |>.bind_fails ?_
  refine (yields_shaderParameter (hallowed _ (by decide))).mapError _ |>.bind_fails ?_
  -- the status is known, and with it the branch that is taken
  rw [hstatus]
  exact fails_rejectShader _ _ stage

/-- The chunk in which two shaders that compiled are linked. -/
theorem yields_link (hallowed : ∀ call ∈ buildCalls, m.refuses ≠ some call) {v f : Shader}
    (hv : v.stage = .vertex ∧ v.compiled = true) (hf : f.stage = .fragment ∧ f.compiled = true)
    {linked : Bool} (hlinked : m.linkLog.isNone = linked) :
    (gl.scope do
      gl.attachShader m.programs.length (m.next [])
      gl.attachShader m.programs.length (m.next [v])
      gl.linkProgram m.programs.length).Yields (m.Stands [v, f] [{}] 0 flushes) (.ok ())
      (m.Stands [v, f] [{ attached := [m.next [], m.next [v]], linked }] 0
        (flushes + if m.depth = 0 then 1 else 0)) := by
  subst hlinked
  have hvertex : m.next [] < m.next [v, f] := by simp [next]
  have hfragment : m.next [v] < m.next [v, f] := by simp [next]
  refine yields_scope (hallowed _ (by decide)) ?_
  refine (yields_attachShader (hallowed _ (by decide)) (by simp) hvertex).bind ?_
  refine (yields_attachShader (hallowed _ (by decide)) (by simpa using hvertex) hfragment).bind ?_
  exact yields_linkProgram (hallowed _ (by decide)) hv hf rfl

variable {vertexSource fragmentSource : String}

/-- What is left behind by a build that goes well. -/
theorem yields_makeProgram (hallowed : ∀ call ∈ buildCalls, m.refuses ≠ some call)
    (hvertex : Text.contains entryPoint vertexSource = true)
    (hfragment : Text.contains entryPoint fragmentSource = true) (hlog : m.linkLog = none) :
    let v := made vertexSource .vertex
    let f := made fragmentSource .fragment
    (gl.makeProgram vertexSource fragmentSource).Yields (m.Stands [] [] 0 0)
      (.ok ⟨m.programs.length, m.next [], m.next [v]⟩)
      (m.Stands [v, f] [{ attached := [m.next [], m.next [v]], linked := true }] 0
        (if m.depth = 0 then 3 else 0)) := by
  intro v f
  have hshader : ∀ call ∈ shaderCalls, m.refuses ≠ some call := fun call hcall =>
    hallowed call (by simp [buildCalls, hcall])
  have hlinked : m.linkLog.isNone = true := by rw [hlog]; rfl
  -- each of the three chunks is flushed, unless the build is itself part of a chunk
  have hflushes : (if m.depth = 0 then 3 else 0) =
      0 + (if m.depth = 0 then 1 else 0) + (if m.depth = 0 then 1 else 0) +
        (if m.depth = 0 then 1 else 0) := by
    split <;> rfl
  rw [hflushes]
  refine (yields_createProgram (hallowed _ (by decide))).mapError _ |>.bind ?_
  refine (yields_makeShader hshader hvertex .vertex).bind ?_
  refine (yields_makeShader hshader hfragment .fragment).bind ?_
  refine (yields_link hallowed ⟨rfl, hvertex⟩ ⟨rfl, hfragment⟩ hlinked).mapError _ |>.bind ?_
  refine (yields_programParameter (hallowed _ (by decide)) ?_).mapError _ |>.bind ?_
  · simp [next]
  · exact (Action.yields_emit _).bind (Action.yields_pure _)

/-- Where the sources or the settings prevent it, a build fails even if no call is refused. -/
theorem fails_makeProgram (hallowed : ∀ call ∈ buildCalls, m.refuses ≠ some call)
    (h : Text.contains entryPoint vertexSource = true →
      Text.contains entryPoint fragmentSource = true → m.linkLog ≠ none) :
    (gl.makeProgram vertexSource fragmentSource).Fails (m.Stands [] [] 0 0) := by
  have hshader : ∀ call ∈ shaderCalls, m.refuses ≠ some call := fun call hcall =>
    hallowed call (by simp [buildCalls, hcall])
  refine (yields_createProgram (hallowed _ (by decide))).mapError _ |>.bind_fails ?_
  cases hvertex : Text.contains entryPoint vertexSource with
  -- the vertex shader comes first, so its source is looked at first
  | false => exact (fails_makeShader hshader hvertex .vertex).bind _
  | true =>
    refine (yields_makeShader hshader hvertex .vertex).bind_fails ?_
    cases hfragment : Text.contains entryPoint fragmentSource with
    | false => exact (fails_makeShader hshader hfragment .fragment).bind _
    | true =>
      -- both compile, and so it is the program that is not linked
      have hlinked : m.linkLog.isNone = false := by
        simpa [Option.isSome_iff_ne_none] using h hvertex hfragment
      refine (yields_makeShader hshader hfragment .fragment).bind_fails ?_
      refine (yields_link hallowed ⟨rfl, hvertex⟩ ⟨rfl, hfragment⟩ hlinked).mapError _
        |>.bind_fails ?_
      refine (yields_programParameter (hallowed _ (by decide)) ?_).mapError _ |>.bind_fails ?_
      · simp [next]
      · refine Action.fails_mapError_bind fun log => ?_
        exact (Action.yields_emit _).bind_fails (Action.fails_fail _)

end Build

/-! ### Main statement -/

/-- How a build ends that began at the device `m`: with its result, the device behind it, and the
record of its calls. -/
structure ProgramBuilt (m : Memory) (vertexSource fragmentSource : String)
    (result : Except (ShaderError Failure) (LinkedProgram Nat Nat)) (left : Memory)
    (record : List (Gl.Entry Nat Nat Failure)) : Prop where
  /-- it succeeds just if the sources compile, nothing prevents linking and no call is refused
  that is needed -/
  completed : (∃ l, result = .ok l) ↔
    Text.contains entryPoint vertexSource = true ∧
      Text.contains entryPoint fragmentSource = true ∧ m.linkLog = none ∧
        ∀ call ∈ buildCalls, m.refuses ≠ some call
  /-- then it created what it delivers, and nothing else -/
  delivered : ∀ l, result = .ok l →
    l = ⟨m.programs.length, m.shaders.length, m.shaders.length + 1⟩ ∧
      left.programs = m.programs ++ [{ attached := [l.vertex, l.fragment], linked := true }] ∧
      left.shaders = m.shaders ++
        [{ stage := .vertex, source := vertexSource, compiled := true, deleted := 0 },
          { stage := .fragment, source := fragmentSource, compiled := true, deleted := 0 }] ∧
      left.flushes = m.flushes + if m.depth = 0 then 3 else 0
  /-- in any case the objects of before are as they were, -/
  programs : m.programs <+: left.programs
  /-- at most one of the new shaders was deleted, which did not compile, -/
  shaders : ∃ new, left.shaders = m.shaders ++ new ∧ AtMostOneDeleted new
  /-- no call failed but those that are refused, so each one referred to what is there, -/
  failures : ∀ e ∈ record, ∀ f, e.failure? = some f →
    ∃ call, f = .refused call ∧ m.refuses = some call
  /-- and the chunks that it opened were closed -/
  depth : m.refuses ≠ some .endChunk → left.depth = m.depth

/-- A build that took its course ends so. -/
theorem programBuilt {m : Memory} {vertexSource fragmentSource : String}
    {ds : List (Gl.Deed Nat Nat Failure)}
    (hcourse : Gl.ProgramCourse vertexSource fragmentSource ds
      (gl.makeProgram vertexSource fragmentSource m).result)
    (hpath : Path gl.Does ds m (gl.makeProgram vertexSource fragmentSource m).state) :
    m.ProgramBuilt vertexSource fragmentSource (gl.makeProgram vertexSource fragmentSource m).result
      (gl.makeProgram vertexSource fragmentSource m).state (ds.map .ofDeed) := by
  -- the frame: a build keeps to what it is given
  obtain ⟨hadmitted, hlevel⟩ := hcourse.admitted
  obtain ⟨hsince, hfares⟩ := (Since.start m).run hadmitted hpath
  have hundeleted : m.Undeleted m := ⟨[], (List.append_nil _).symm, List.forall_mem_nil _⟩
  have hcompleted : (∃ l, (gl.makeProgram vertexSource fragmentSource m).result = .ok l) ↔
      Text.contains entryPoint vertexSource = true ∧
        Text.contains entryPoint fragmentSource = true ∧ m.linkLog = none ∧
          ∀ call ∈ buildCalls, m.refuses ≠ some call := by
    -- if it succeeds, no needed call is refused; so were the rest not as it should be, the build
    -- would fail. Conversely it is played to its end
    constructor
    · rintro ⟨l, hl⟩
      have hallowed := allowed_of_ok (hl ▸ hcourse) hfares
      refine Classical.byContradiction fun hprevented => ?_
      have hfails : (gl.makeProgram vertexSource fragmentSource).Fails (m.Stands [] [] 0 0) :=
        fails_makeProgram hallowed fun hvertex hfragment hlog =>
          hprevented ⟨hvertex, hfragment, hlog, hallowed⟩
      obtain ⟨e, he⟩ := hfails m (stands_start m)
      rw [hl] at he
      cases he
    · rintro ⟨hvertex, hfragment, hlog, hallowed⟩
      exact ⟨_, (yields_makeProgram hallowed hvertex hfragment hlog m (stands_start m)).1⟩
  refine ⟨hcompleted, ?_, hsince.programs, ?_, ?_, ?_⟩
  · intro l hl
    obtain ⟨hvertex, hfragment, hlog, hallowed⟩ := hcompleted.1 ⟨l, hl⟩
    obtain ⟨hdelivers, hstands⟩ :=
      yields_makeProgram hallowed hvertex hfragment hlog m (stands_start m)
    -- the build was played to its end, where the state is known
    obtain rfl := Except.ok.inj (hl.symm.trans hdelivers)
    refine ⟨rfl, hstands.programs, ?_, hstands.flushes⟩
    rw [hstands.shaders, made, made, hvertex, hfragment]
  · exact hundeleted.atMostOne (Since.start m) hadmitted hcourse.deletion hpath
  · intro e he f hf
    obtain ⟨d, hd, rfl⟩ := List.mem_map.1 he
    have hresult : d.result = .error f := failure_ofDeed hf
    -- a deed that is not refused does not fail
    rcases hfares d hd with ⟨hdeclines, hrefused⟩ | ⟨-, a, ha⟩
    · exact ⟨_, Except.error.inj (hresult.symm.trans hrefused), hdeclines.1⟩
    · cases ha.symm.trans hresult
  · intro hends
    rw [hsince.balance hends, hlevel]
    rfl

end Memory

/-- **How a program is built on the device in memory.** Keep a record of the calls that building a
program makes on the device, in any state and with any settings. The record changes nothing, and the
build ends as it should (`Memory.ProgramBuilt`). -/
theorem build_in_memory (m : Memory) (vertexSource fragmentSource : String) :
    let out := Memory.gl.makeProgram vertexSource fragmentSource m
    let seen := Memory.gl.recorded.makeProgram vertexSource fragmentSource ⟨m, []⟩
    out = ⟨seen.result, seen.state.inner, seen.events⟩ ∧
      m.ProgramBuilt vertexSource fragmentSource out.result out.state seen.state.record := by
  intro out seen
  have hmatches : Watched.watching.Matches
      (Memory.gl.recorded.makeProgram vertexSource fragmentSource)
      (Memory.gl.makeProgram vertexSource fragmentSource) :=
    (Memory.gl.watched_matches _).makeProgram vertexSource fragmentSource
  obtain ⟨hsame, hs, hpath, hrecord, hcourse⟩ := Gl.tells_watched hmatches
    (Memory.gl.recorded.makeProgram_tells vertexSource fragmentSource) m
  refine ⟨hsame, ?_⟩
  rw [show seen.state.record = _ from hrecord]
  exact Memory.programBuilt hcourse (Gl.does_path hpath)

end GlBridge
