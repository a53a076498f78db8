import GlBridge.Proofs.Device.Given
import GlBridge.Proofs.Device.Memory

/-!
# What a call does to the device in memory

A call on the device in memory is refused, or it fails because it refers to something that is not
there, or it has an answer and an effect, which are functions of the state (`Memory.answer`,
`Memory.effect`). `Memory.Knows` says that what the call refers to is there. Two equations tell all
there is to know of a call then: `perform_of_declined` and `perform_of_known`.

Other proofs about the device argue with the answer and the effect of a call and do not look into
the device any more.
-/

namespace GlBridge.Memory

variable {α : Type} {m : Memory}

/-- The device refuses the call. Opening a chunk cannot be refused. -/
def Declines (m : Memory) (call : Gl.Call Nat Nat α) : Prop :=
  m.refuses = some (nameOf call) ∧ nameOf call ≠ .beginChunk

/-- What the call refers to is there. -/
structure Knows (m : Memory) (call : Gl.Call Nat Nat α) : Prop where
  /-- The shaders that it names were created. -/
  shaders : ∀ i ∈ call.shaders, i < m.shaders.length
  /-- So were the programs. -/
  programs : ∀ i ∈ call.programs, i < m.programs.length
  /-- so are the shaders that were attached to its program -/
  attached : ∀ i ∈ call.programs, ∀ p, m.programs[i]? = some p → ∀ s ∈ p.attached,
    s < m.shaders.length
  /-- and the chunk that it closes -/
  level : nameOf call = .endChunk → 0 < m.depth

/-- The shader with this handle compiled. -/
def compiledAt (m : Memory) (i : Nat) : Bool := (m.shaders[i]?.map Shader.compiled).getD false

/-- The program with this handle is linked. -/
def linkedAt (m : Memory) (i : Nat) : Bool := (m.programs[i]?.map Program.linked).getD false

/-- The program would link if it were linked now. -/
def links (m : Memory) (p : Program) : Bool :=
  let stages := compiledStages (p.attached.filterMap fun s => m.shaders[s]?)
  m.linkLog.isNone && .vertex ∈ stages && .fragment ∈ stages

/-- What a call delivers. -/
def answer (m : Memory) : {α : Type} → Gl.Call Nat Nat α → α
  | _, .createShader _ => m.shaders.length
  | _, .createProgram => m.programs.length
  | _, .shaderParameter i name => name = compileStatus && m.compiledAt i
  | _, .programParameter i name => name = linkStatus && m.linkedAt i
  | _, .shaderInfoLog i => if m.compiledAt i then "" else "ERROR: 0:1: syntax error"
  | _, .programInfoLog i => if m.linkedAt i then "" else m.linkLog.getD "missing shader stage"
  | _, .shaderSource _ _ | _, .compileShader _ | _, .attachShader _ _ | _, .linkProgram _
  | _, .deleteShader _ | _, .beginChunk | _, .endChunk => ()

/-- The device with the call entered in its record. -/
def entered (m : Memory) (call : Call) : Memory := { m with calls := m.calls ++ [call] }

/-- What a call changes beside the record. -/
def effect : {α : Type} → Gl.Call Nat Nat α → Memory → Memory
  | _, .createShader stage, m => { m with shaders := m.shaders ++ [{ stage := stage }] }
  | _, .createProgram, m => { m with programs := m.programs ++ [{}] }
  | _, .shaderSource i source, m =>
    { m with shaders := m.shaders.modify i fun s => { s with source } }
  | _, .compileShader i, m => { m with
      shaders := m.shaders.modify i fun s =>
        { s with compiled := Text.contains entryPoint s.source } }
  | _, .attachShader i shader, m => { m with
      programs := m.programs.modify i fun p => { p with attached := p.attached ++ [shader] } }
  | _, .linkProgram i, m =>
    { m with programs := m.programs.modify i fun p => { p with linked := m.links p } }
  | _, .deleteShader i, m =>
    { m with shaders := m.shaders.modify i fun s => { s with deleted := s.deleted + 1 } }
  | _, .beginChunk, m => { m with depth := m.depth + 1 }
  | _, .endChunk, m => { m with
      depth := m.depth - 1
      flushes := m.flushes + if m.depth = 1 then 1 else 0 }
  | _, .shaderParameter _ _, m | _, .programParameter _ _, m | _, .shaderInfoLog _, m
  | _, .programInfoLog _, m => m

/-! ### Refused calls -/

/-- What a refused call would do is never reached, ... -/
theorem enter_bind_of_refused {call : Call} (h : m.refuses = some call)
    (f : Unit → Action Memory Failure α) :
    (enter call >>= f) m = ⟨.error (.refused call), m.entered call, []⟩ := by
  have henter := enter_of_refused h
  rw [Action.bind_of_error (congrArg Outcome.result henter), henter]
  rfl

/-- ... and that of any other call is done with the entry in the record. -/
theorem enter_bind_of_allowed {call : Call} (h : m.refuses ≠ some call)
    (f : Unit → Action Memory Failure α) : (enter call >>= f) m = f () (m.entered call) := by
  have henter := enter_of_allowed h
  rw [Action.bind_of_ok (congrArg Outcome.result henter), henter]
  rfl

/-- **A call that is refused** is entered in the record and does nothing else. -/
theorem perform_of_declined {call : Gl.Call Nat Nat α} (h : m.Declines call) :
    gl.perform call m = ⟨.error (.refused (nameOf call)), m.entered (nameOf call), []⟩ := by
  cases call with
  -- opening a chunk asks nobody
  | beginChunk => exact absurd rfl h.2
  | _ => exact enter_bind_of_refused h.1 _

/-! ### Looking up -/

/-- A handle below the number of objects is that of an object. -/
theorem object_of_lt {objects : List α} {i : Nat} (h : i < objects.length) :
    object objects i m = ⟨.ok objects[i], m, []⟩ := by
  unfold object
  rw [List.getElem?_eq_getElem h]
  rfl

/-- So a shader that is there is found, ... -/
theorem shader_bind {i : Nat} (h : i < m.shaders.length) (f : Shader → Action Memory Failure α) :
    (shader i >>= f) m = f m.shaders[i] m := by
  have hshader : shader i m = ⟨.ok m.shaders[i], m, []⟩ := object_of_lt h
  rw [Action.bind_of_ok (congrArg Outcome.result hshader), hshader]
  rfl

/-- ... and so is a program. -/
theorem program_bind {i : Nat} (h : i < m.programs.length)
    (f : Program → Action Memory Failure α) : (program i >>= f) m = f m.programs[i] m := by
  have hprogram : program i m = ⟨.ok m.programs[i], m, []⟩ := object_of_lt h
  rw [Action.bind_of_ok (congrArg Outcome.result hprogram), hprogram]
  rfl

/-- Shaders that are all there are all found. -/
theorem mapM_shader_bind {is : List Nat} (h : ∀ i ∈ is, i < m.shaders.length)
    (f : List Shader → Action Memory Failure α) :
    (is.mapM shader >>= f) m = f (is.filterMap fun i => m.shaders[i]?) m := by
  -- on the handles, for everything that may be done with the shaders
  induction is generalizing f with
  | nil => rw [List.mapM_nil, pure_bind, List.filterMap_nil]
  | cons i rest ih =>
    have hi : i < m.shaders.length := h i List.mem_cons_self
    have hrest : ∀ j ∈ rest, j < m.shaders.length := fun j hj => h j (List.mem_cons_of_mem i hj)
    rw [List.mapM_cons, bind_assoc, shader_bind hi, bind_assoc, ih hrest, pure_bind,
      List.filterMap_cons_some (List.getElem?_eq_getElem hi)]

/-- Putting an object in the place of one that is there changes that one. -/
theorem set_eq_modify {objects : List α} {i : Nat} (h : i < objects.length) (f : α → α) :
    objects.set i (f objects[i]) = objects.modify i f := by
  rw [List.set_eq_take_append_cons_drop, if_pos h, List.modify_eq_take_cons_drop h]

/-- Looking a shader up and putting another one in its place changes that shader. -/
theorem shader_modify {i : Nat} (h : i < m.shaders.length) (f : Shader → Shader) :
    (shader i >>= fun s => setShader i (f s)) m =
      ⟨.ok (), { m with shaders := m.shaders.modify i f }, []⟩ := by
  -- what is put back is made of what was found
  rw [shader_bind h, ← set_eq_modify h]
  rfl

/-- The same for a program. -/
theorem program_modify {i : Nat} (h : i < m.programs.length) (f : Program → Program) :
    (program i >>= fun p => setProgram i (f p)) m =
      ⟨.ok (), { m with programs := m.programs.modify i f }, []⟩ := by
  rw [program_bind h, ← set_eq_modify h]
  rfl

/-- The status of a shader that is there is its own. -/
theorem compiledAt_of_lt {i : Nat} (h : i < m.shaders.length) :
    m.compiledAt i = m.shaders[i].compiled := by
  unfold compiledAt
  rw [List.getElem?_eq_getElem h]
  rfl

/-- Likewise for a program. -/
theorem linkedAt_of_lt {i : Nat} (h : i < m.programs.length) :
    m.linkedAt i = m.programs[i].linked := by
  unfold linkedAt
  rw [List.getElem?_eq_getElem h]
  rfl

/-! ### Calls that are let pass -/

/-- Asked for any other parameter than the compile status, the device says no. -/
theorem shaderParameter_known {i : Nat} (hi : i < m.shaders.length)
    (h : m.refuses ≠ some .getShaderParameter) (name : UInt32) :
    shaderParameter i name m =
      ⟨.ok (name = compileStatus && m.compiledAt i), m.entered .getShaderParameter, []⟩ := by
  unfold shaderParameter
  rw [enter_bind_of_allowed h]
  by_cases hname : name = compileStatus
  · have hshader := shader_bind (m := m.entered .getShaderParameter) hi
      fun s => (pure s.compiled : Action Memory Failure Bool)
    rw [if_pos hname, hshader, compiledAt_of_lt hi, decide_eq_true hname]
    rfl
  · rw [if_neg hname, decide_eq_false hname]
    rfl

/-- And the link status is the only parameter of a program. -/
theorem programParameter_known {i : Nat} (hi : i < m.programs.length)
    (h : m.refuses ≠ some .getProgramParameter) (name : UInt32) :
    programParameter i name m =
      ⟨.ok (name = linkStatus && m.linkedAt i), m.entered .getProgramParameter, []⟩ := by
  unfold programParameter
  rw [enter_bind_of_allowed h]
  by_cases hname : name = linkStatus
  · have hprogram := program_bind (m := m.entered .getProgramParameter) hi
      fun p => (pure p.linked : Action Memory Failure Bool)
    rw [if_pos hname, hprogram, linkedAt_of_lt hi, decide_eq_true hname]
    rfl
  · rw [if_neg hname, decide_eq_false hname]
    rfl

/-- The log of a shader is the same for all that do not compile. -/
theorem shaderInfoLog_known {i : Nat} (hi : i < m.shaders.length)
    (h : m.refuses ≠ some .getShaderInfoLog) :
    shaderInfoLog i m = ⟨.ok (if m.compiledAt i then "" else "ERROR: 0:1: syntax error"),
      m.entered .getShaderInfoLog, []⟩ := by
  have hshader := shader_bind (m := m.entered .getShaderInfoLog) hi fun s =>
    (pure (if s.compiled then "" else "ERROR: 0:1: syntax error") : Action Memory Failure String)
  unfold shaderInfoLog
  rw [enter_bind_of_allowed h, hshader, compiledAt_of_lt hi]
  rfl

/-- That of a program is what the settings say, or else that a stage is missing. -/
theorem programInfoLog_known {i : Nat} (hi : i < m.programs.length)
    (h : m.refuses ≠ some .getProgramInfoLog) :
    programInfoLog i m =
      ⟨.ok (if m.linkedAt i then "" else m.linkLog.getD "missing shader stage"),
        m.entered .getProgramInfoLog, []⟩ := by
  unfold programInfoLog
  rw [enter_bind_of_allowed h, linkedAt_of_lt hi]
  refine (program_bind (m := m.entered .getProgramInfoLog) hi _).trans ?_
  -- the log of the settings is read only where there is something to explain
  change (if m.programs[i].linked = true then _ else _ : Action Memory Failure String) _ = _
  cases m.programs[i].linked with
  | true => rfl
  | false => rfl

/-- Closing an open chunk always succeeds; behind the outermost one, what was collected is
flushed. -/
theorem endChunk_known (hdepth : 0 < m.depth) (h : m.refuses ≠ some .endChunk) :
    endChunk m = ⟨.ok (), effect .endChunk (m.entered .endChunk), []⟩ := by
  -- closing tells apart no chunk, one and more
  have hmatch : m.depth = 1 ∨ ∃ n, m.depth = n + 2 := by
    by_cases hone : m.depth = 1
    · exact .inl hone
    · exact .inr ⟨m.depth - 2, by omega⟩
  have hentered : (m.entered .endChunk).depth = m.depth := rfl
  have heffect : effect .endChunk (m.entered .endChunk) = { m.entered .endChunk with
      depth := m.depth - 1
      flushes := m.flushes + if m.depth = 1 then 1 else 0 } := rfl
  unfold endChunk
  rw [enter_bind_of_allowed h, Action.get_bind_apply, hentered, heffect]
  rcases hmatch with hone | ⟨n, hmore⟩
  · rw [hone]
    rfl
  · rw [hmore]
    rfl

/-- Linking looks at the shaders as they are now, and sets the status of the program either way. -/
theorem linkProgram_known {i : Nat} (hi : i < m.programs.length)
    (hattached : ∀ s ∈ m.programs[i].attached, s < m.shaders.length)
    (h : m.refuses ≠ some .linkProgram) :
    linkProgram i m = ⟨.ok (), { m.entered .linkProgram with
      programs := m.programs.modify i fun p => { p with linked := m.links p } }, []⟩ := by
  unfold linkProgram
  rw [enter_bind_of_allowed h]
  -- the attached shaders are all found, and then the program is put in its place, linked or not
  refine (program_bind (m := m.entered .linkProgram) hi _).trans ?_
  refine (mapM_shader_bind (m := m.entered .linkProgram) hattached _).trans ?_
  rw [← set_eq_modify hi]
  rfl

/-- **A call that is not refused** and that refers to what is there succeeds, with its answer and
its effect. -/
theorem perform_of_known {call : Gl.Call Nat Nat α} (h : ¬m.Declines call) (hknows : m.Knows call) :
    gl.perform call m = ⟨.ok (m.answer call), effect call (m.entered (nameOf call)), []⟩ := by
  -- every call but the opening of a chunk asks the record, which lets it pass
  have hallowed : nameOf call ≠ .beginChunk → m.refuses ≠ some (nameOf call) :=
    fun hname hrefuses => h ⟨hrefuses, hname⟩
  cases call with
  | createShader stage => exact enter_bind_of_allowed (hallowed Call.noConfusion) _
  | createProgram => exact enter_bind_of_allowed (hallowed Call.noConfusion) _
  | shaderSource i source =>
    have hi : i < m.shaders.length := hknows.shaders i List.mem_cons_self
    exact (enter_bind_of_allowed (hallowed Call.noConfusion) _).trans
      (shader_modify (m := m.entered _) hi fun s => { s with source })
  | compileShader i =>
    have hi : i < m.shaders.length := hknows.shaders i List.mem_cons_self
    exact (enter_bind_of_allowed (hallowed Call.noConfusion) _).trans
      (shader_modify (m := m.entered _) hi fun s =>
        { s with compiled := Text.contains entryPoint s.source })
  | attachShader i shader =>
    have hi : i < m.programs.length := hknows.programs i List.mem_cons_self
    exact (enter_bind_of_allowed (hallowed Call.noConfusion) _).trans
      (program_modify (m := m.entered _) hi fun p => { p with attached := p.attached ++ [shader] })
  | linkProgram i =>
    have hi : i < m.programs.length := hknows.programs i List.mem_cons_self
    have hattached := hknows.attached i List.mem_cons_self _ (List.getElem?_eq_getElem hi)
    exact linkProgram_known hi hattached (hallowed Call.noConfusion)
  | shaderParameter i name =>
    exact shaderParameter_known (hknows.shaders i List.mem_cons_self)
      (hallowed Call.noConfusion) name
  | programParameter i name =>
    exact programParameter_known (hknows.programs i List.mem_cons_self)
      (hallowed Call.noConfusion) name
  | shaderInfoLog i =>
    exact shaderInfoLog_known (hknows.shaders i List.mem_cons_self) (hallowed Call.noConfusion)
  | programInfoLog i =>
    exact programInfoLog_known (hknows.programs i List.mem_cons_self) (hallowed Call.noConfusion)
  | deleteShader i =>
    have hi : i < m.shaders.length := hknows.shaders i List.mem_cons_self
    exact (enter_bind_of_allowed (hallowed Call.noConfusion) _).trans
      (shader_modify (m := m.entered _) hi fun s => { s with deleted := s.deleted + 1 })
  | beginChunk => rfl
  | endChunk => exact endChunk_known (hknows.level rfl) (hallowed Call.noConfusion)

end GlBridge.Memory
