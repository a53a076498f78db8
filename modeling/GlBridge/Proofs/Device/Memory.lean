import GlBridge.Device.Memory
import GlBridge.Proofs.Action.Conduct
import GlBridge.Proofs.Device.Script

/-!
# What the device in memory records

The device in memory enters every call in its record before it does anything else, and what it does
then concerns its objects alone: a call other than those for chunks reports nothing, leaves the
number of open chunks as it is and adds its own name to the record, whether it succeeds or fails
(`Memory.perform_entered`). So the record tells what a script did (`Memory.calls_path`).
-/

namespace GlBridge.Memory

variable {α β : Type}

/-- The name under which a call is recorded. -/
def nameOf : {α : Type} → Gl.Call Nat Nat α → Call
  | _, .createShader _ => .createShader
  | _, .createProgram => .createProgram
  | _, .shaderSource _ _ => .shaderSource
  | _, .compileShader _ => .compileShader
  | _, .attachShader _ _ => .attachShader
  | _, .linkProgram _ => .linkProgram
  | _, .shaderParameter _ _ => .getShaderParameter
  | _, .programParameter _ _ => .getProgramParameter
  | _, .shaderInfoLog _ => .getShaderInfoLog
  | _, .programInfoLog _ => .getProgramInfoLog
  | _, .deleteShader _ => .deleteShader
  | _, .beginChunk => .beginChunk
  | _, .endChunk => .endChunk

/-! ### Work on the objects -/

/-- The conduct of what concerns the objects alone: it reports nothing and leaves the record, the
chunks and the settings as they are. -/
def onObjects : Conduct Memory where
  allows m es m' := es = [] ∧ m'.calls = m.calls ∧ m'.depth = m.depth ∧ m'.refuses = m.refuses
  rest _ := ⟨rfl, rfl, rfl, rfl⟩
  trans := by
    rintro m m' m'' es fs ⟨rfl, hcalls, hdepth, hrefuses⟩ ⟨rfl, hcalls', hdepth', hrefuses'⟩
    exact ⟨rfl, hcalls'.trans hcalls, hdepth'.trans hdepth, hrefuses'.trans hrefuses⟩

/-- Looking for an object changes nothing, whether or not it is there. -/
theorem governs_object (objects : List α) (index : Nat) :
    onObjects.Governs (object objects index) := by
  unfold object
  cases objects[index]? with
  | none => exact Conduct.governs_fail _
  | some a => exact Conduct.governs_pure _

/-- The two kinds of objects are looked for alike, ... -/
theorem governs_shader (index : Nat) : onObjects.Governs (shader index) :=
  Conduct.governs_get.bind fun _ => governs_object _ _

theorem governs_program (index : Nat) : onObjects.Governs (program index) :=
  Conduct.governs_get.bind fun _ => governs_object _ _

/-- ... and to put one in its place concerns the objects only. -/
theorem governs_setShader (index : Nat) (s : Shader) : onObjects.Governs (setShader index s) :=
  Conduct.governs_modify fun _ => ⟨rfl, rfl, rfl, rfl⟩

theorem governs_setProgram (index : Nat) (p : Program) : onObjects.Governs (setProgram index p) :=
  Conduct.governs_modify fun _ => ⟨rfl, rfl, rfl, rfl⟩

/-- What is done with each of several objects. -/
theorem governs_mapM {f : α → Action Memory Failure β} (h : ∀ a, onObjects.Governs (f a))
    (as : List α) : onObjects.Governs (as.mapM f) := by
  induction as with
  | nil =>
    rw [List.mapM_nil]
    exact Conduct.governs_pure _
  | cons a rest ih =>
    rw [List.mapM_cons]
    exact (h a).bind fun _ => ih.bind fun _ => Conduct.governs_pure _

/-! ### Calls -/

/-- What every call leaves behind that is none for a chunk. -/
structure Entered (call : Call) (m : Memory) (out : Outcome Memory Failure α) : Prop where
  /-- the record has this call behind all others -/
  calls : out.state.calls = m.calls ++ [call]
  depth : out.state.depth = m.depth
  refuses : out.state.refuses = m.refuses
  events : out.events = []

/-- A call that is refused is in the record, and fails. -/
theorem enter_of_refused {call : Call} {m : Memory} (h : m.refuses = some call) :
    enter call m = ⟨.error (.refused call), { m with calls := m.calls ++ [call] }, []⟩ := by
  unfold enter
  rw [Action.modify_bind_apply, Action.get_bind_apply, if_pos h]
  rfl

/-- Any other call is in the record as well. -/
theorem enter_of_allowed {call : Call} {m : Memory} (h : m.refuses ≠ some call) :
    enter call m = ⟨.ok (), { m with calls := m.calls ++ [call] }, []⟩ := by
  unfold enter
  rw [Action.modify_bind_apply, Action.get_bind_apply, if_neg h]
  rfl

/-- A call is entered, and the rest of it concerns the objects. -/
theorem entered_bind {f : Unit → Action Memory Failure α} (hf : onObjects.Governs (f ()))
    (call : Call) (m : Memory) : Entered call m ((enter call >>= f) m) := by
  -- a refused call ends with its entry; any other one goes on behind it
  by_cases h : m.refuses = some call
  · have henter := enter_of_refused h
    rw [Action.bind_of_error (congrArg Outcome.result henter), henter]
    exact ⟨rfl, rfl, rfl, rfl⟩
  · have henter := enter_of_allowed h
    rw [Action.bind_of_ok (congrArg Outcome.result henter), henter]
    obtain ⟨hevents, hcalls, hdepth, hrefuses⟩ := hf { m with calls := m.calls ++ [call] }
    exact ⟨hcalls, hdepth, hrefuses, hevents⟩

/-- **Every call is recorded** under its name, and beyond its objects it changes nothing. -/
theorem perform_entered {call : Gl.Call Nat Nat α} (h : call.isChunk = false) (m : Memory) :
    Entered (nameOf call) m (gl.perform call m) := by
  cases call with
  | createShader stage =>
    have hadd : onObjects.Governs (Action.modify fun m =>
        { m with shaders := m.shaders ++ [{ stage }] } : Action Memory Failure Unit) :=
      Conduct.governs_modify fun _ => ⟨rfl, rfl, rfl, rfl⟩
    refine entered_bind (Conduct.governs_get.bind fun before => ?_) _ m
    exact hadd.bind fun _ => Conduct.governs_pure before.shaders.length
  | createProgram =>
    have hadd : onObjects.Governs (Action.modify fun m =>
        { m with programs := m.programs ++ [{}] } : Action Memory Failure Unit) :=
      Conduct.governs_modify fun _ => ⟨rfl, rfl, rfl, rfl⟩
    refine entered_bind (Conduct.governs_get.bind fun before => ?_) _ m
    exact hadd.bind fun _ => Conduct.governs_pure before.programs.length
  | shaderSource shader source =>
    exact entered_bind ((governs_shader _).bind fun _ => governs_setShader _ _) _ m
  | compileShader shader =>
    exact entered_bind ((governs_shader _).bind fun _ => governs_setShader _ _) _ m
  | attachShader program shader =>
    exact entered_bind ((governs_program _).bind fun _ => governs_setProgram _ _) _ m
  | linkProgram program =>
    -- the attached shaders are all looked up before the program is set
    exact entered_bind ((governs_program _).bind fun _ =>
      (governs_mapM governs_shader _).bind fun _ => Conduct.governs_get.bind fun _ =>
        governs_setProgram _ _) _ m
  | shaderParameter shader name =>
    refine entered_bind ?_ _ m
    split
    · exact (governs_shader _).bind fun _ => Conduct.governs_pure _
    · exact Conduct.governs_pure _
  | programParameter program name =>
    refine entered_bind ?_ _ m
    split
    · exact (governs_program _).bind fun _ => Conduct.governs_pure _
    · exact Conduct.governs_pure _
  | shaderInfoLog shader =>
    exact entered_bind ((governs_shader _).bind fun _ => Conduct.governs_pure _) _ m
  | programInfoLog program =>
    -- the settings are read only if there is a failure to explain
    refine entered_bind ((governs_program _).bind fun p => ?_) _ m
    cases p.linked with
    | true => exact Conduct.governs_pure _
    | false => exact Conduct.governs_get.bind fun _ => Conduct.governs_pure _
  | deleteShader shader =>
    exact entered_bind ((governs_shader _).bind fun _ => governs_setShader _ _) _ m
  | beginChunk => cases h
  | endChunk => cases h

/-! ### Closing a chunk -/

/-- Closing a chunk is recorded, and reports nothing, however it goes. -/
theorem endChunk_entered (m : Memory) :
    (endChunk m).state.calls = m.calls ++ [.endChunk] ∧
      (endChunk m).state.refuses = m.refuses ∧ (endChunk m).events = [] := by
  unfold endChunk
  by_cases h : m.refuses = some .endChunk
  · have henter := enter_of_refused h
    rw [Action.bind_of_error (congrArg Outcome.result henter), henter]
    exact ⟨rfl, rfl, rfl⟩
  · have henter := enter_of_allowed h
    rw [Action.bind_of_ok (congrArg Outcome.result henter), henter, Action.get_bind_apply]
    -- the three cases of the depth differ in the number of chunks and of flushes only
    cases m.depth with
    | zero => exact ⟨rfl, rfl, rfl⟩
    | succ n => cases n <;> exact ⟨rfl, rfl, rfl⟩

/-- Unless it is refused, closing an open chunk leads down by one. -/
theorem depth_endChunk {m : Memory} (h : m.refuses ≠ some .endChunk) {n : Nat}
    (hdepth : m.depth = n + 1) : (endChunk m).state.depth = n := by
  have henter := enter_of_allowed h
  unfold endChunk
  rw [Action.bind_of_ok (congrArg Outcome.result henter), henter, Action.get_bind_apply]
  simp only [hdepth]
  cases n <;> rfl

/-! ### Scripts -/

/-- A call that is none for a chunk, with whatever it delivers. -/
abbrev Inner : Type 1 := { call : (delivers : Type) × Gl.Call Nat Nat delivers //
  call.2.isChunk = false }

/-- Makes a call for what it does. -/
def Inner.perform (i : Inner) : Action Memory Failure Unit := do
  let _ ← gl.perform i.1.2

/-- The name under which a deed is recorded. -/
def nameOfDeed : Script.Deed Inner Unit Failure → Call
  | .opened => .beginChunk
  | .called i _ => nameOf i.1.2
  | .closed _ => .endChunk

/-- What an inner call delivers does not change what it records. -/
theorem Inner.perform_entered (i : Inner) (m : Memory) :
    Entered (nameOf i.1.2) m (i.perform m) := by
  have hcall := Memory.perform_entered i.2 m
  unfold Inner.perform
  cases hr : (gl.perform i.1.2 m).result with
  | error e =>
    rw [Action.bind_of_error hr]
    exact ⟨hcall.calls, hcall.depth, hcall.refuses, hcall.events⟩
  | ok a =>
    rw [Action.bind_of_ok hr]
    exact ⟨hcall.calls, hcall.depth, hcall.refuses, by rw [hcall.events]; rfl⟩

/-- The device in memory never reports that a chunk was dropped. -/
theorem quiet : Script.Quiet gl Inner.perform where
  calls i m := by rw [(i.perform_entered m).events]; rfl
  closing m := by
    obtain ⟨-, -, hevents⟩ := endChunk_entered m
    show (endChunk m).events.filter Event.isDrop = []
    rw [hevents]
    rfl

/-- **The record tells what was done.** -/
theorem calls_path {ds : List (Script.Deed Inner Unit Failure)} {m m' : Memory}
    (h : Path (Script.Deed.Does gl Inner.perform) ds m m') :
    m'.calls = m.calls ++ ds.map nameOfDeed := by
  -- on the deeds; a deed adds one name, and where it leads is where the others begin
  induction ds generalizing m with
  | nil =>
    obtain rfl : m = m' := h
    exact (List.append_nil _).symm
  | cons d rest ih =>
    obtain ⟨next, hd, hrest⟩ := h
    have hnext : next.calls = m.calls ++ [nameOfDeed d] := by
      cases d with
      | opened => obtain rfl := hd; rfl
      | called i r => obtain ⟨-, rfl⟩ := hd; exact (i.perform_entered m).calls
      | closed r => obtain ⟨-, rfl⟩ := hd; exact (endChunk_entered m).1
    rw [ih hrest, hnext, List.append_assoc, List.map_cons, List.singleton_append]

/-- Balanced deeds leave as many chunks open as before, if closing is not refused. -/
theorem depth_balanced {ds : List (Script.Deed Inner Unit Failure)}
    (hbalanced : Script.Deed.Balanced ds) {m m' : Memory}
    (hpath : Path (Script.Deed.Does gl Inner.perform) ds m m')
    (h : m.refuses ≠ some .endChunk) : m'.depth = m.depth := by
  refine (hbalanced.keeps (P := fun n m => m.depth = n ∧ m.refuses ≠ some .endChunk)
    ?_ ?_ ?_ hpath ⟨rfl, h⟩).1
  · -- opening a chunk is never refused, and leads up by one
    rintro n s t rfl ⟨hdepth, hrefuses⟩
    exact ⟨congrArg (· + 1) hdepth, hrefuses⟩
  · -- a call that is none for a chunk keeps the depth
    rintro i r n s t ⟨-, rfl⟩ ⟨hdepth, hrefuses⟩
    have hcall := i.perform_entered s
    exact ⟨hcall.depth.trans hdepth, by rwa [hcall.refuses]⟩
  · rintro r n s t ⟨-, rfl⟩ ⟨hdepth, hrefuses⟩
    obtain ⟨-, hkept, -⟩ := endChunk_entered s
    refine ⟨depth_endChunk hrefuses hdepth, ?_⟩
    show (endChunk s).state.refuses ≠ _
    rwa [hkept]

end GlBridge.Memory
