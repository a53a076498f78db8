import GlBridge.Proofs.Device.Course

/-!
# Devices under watch

A device need not keep a record of its calls. `Gl.watched` is any device together with such
a record: every call is noted when it was made, with its result, in whatever form a proof asks
for. Watching changes nothing (`Gl.watched_matches`), so what the record of a watched run says is
true of the plain one.

A `Gl.Entry` is the plainest form of note: the call with its arguments and what came of it. Whatever
is told of the deeds of a run is then said of its record (`Gl.tells_watched`).
-/

namespace GlBridge

variable {σ δ ε α Shader Program : Type}

/-- A state with a record of what was done to it. -/
structure Watched (σ δ : Type) where
  /-- the state of the device itself -/
  inner : σ
  /-- the notes so far, in order -/
  record : List δ := []

namespace Action

/-- The same action, noted in the record by its result. -/
def watched (x : Action σ ε α) (note : Except ε α → List δ) : Action (Watched σ δ) ε α := fun w =>
  let out := x w.inner
  ⟨out.result, ⟨out.state, w.record ++ note out.result⟩, out.events⟩

end Action

/-- A state under watch corresponds to the same state without it. -/
def Watched.watching : Correspondence (Watched σ δ) σ where
  relates _ w s := w.inner = s

/-- Chunks do not matter to it. -/
theorem Watched.flat : (Watched.watching (σ := σ) (δ := δ)).Flat := fun _ _ _ _ h => h

/-- An action under watch does what it does without. -/
theorem Action.watched_matches (x : Action σ ε α) (note : Except ε α → List δ) :
    Watched.watching.Matches (x.watched note) x := by
  refine Correspondence.matches_of_agree (fun _ => trivial) ?_
  rintro level w s rfl
  exact ⟨rfl, rfl, rfl⟩

namespace Gl

/-- The same device, with a record in which each call is noted by its result. -/
def watched (gl : Gl σ Shader Program ε)
    (note : {α : Type} → Call Shader Program α → Except ε α → List δ) :
    Gl (Watched σ δ) Shader Program ε where
  createShader stage := (gl.createShader stage).watched (note (.createShader stage))
  createProgram := gl.createProgram.watched (note .createProgram)
  shaderSource shader source :=
    (gl.shaderSource shader source).watched (note (.shaderSource shader source))
  compileShader shader := (gl.compileShader shader).watched (note (.compileShader shader))
  attachShader program shader :=
    (gl.attachShader program shader).watched (note (.attachShader program shader))
  linkProgram program := (gl.linkProgram program).watched (note (.linkProgram program))
  shaderParameter shader name :=
    (gl.shaderParameter shader name).watched (note (.shaderParameter shader name))
  programParameter program name :=
    (gl.programParameter program name).watched (note (.programParameter program name))
  shaderInfoLog shader := (gl.shaderInfoLog shader).watched (note (.shaderInfoLog shader))
  programInfoLog program := (gl.programInfoLog program).watched (note (.programInfoLog program))
  deleteShader shader := (gl.deleteShader shader).watched (note (.deleteShader shader))
  beginChunk w := ⟨gl.beginChunk w.inner, w.record ++ note .beginChunk (.ok ())⟩
  endChunk := gl.endChunk.watched (note .endChunk)
  describeShader := gl.describeShader
  describeProgram := gl.describeProgram
  describeError := gl.describeError

/-- **Watching changes nothing.** -/
theorem watched_matches (gl : Gl σ Shader Program ε)
    (note : {α : Type} → Call Shader Program α → Except ε α → List δ) :
    (gl.watched note).Matches Watched.watching gl where
  createShader _ := Action.watched_matches _ _
  createProgram := Action.watched_matches _ _
  shaderSource _ _ := Action.watched_matches _ _
  compileShader _ := Action.watched_matches _ _
  attachShader _ _ := Action.watched_matches _ _
  linkProgram _ := Action.watched_matches _ _
  shaderParameter _ _ := Action.watched_matches _ _
  programParameter _ _ := Action.watched_matches _ _
  shaderInfoLog _ := Action.watched_matches _ _
  programInfoLog _ := Action.watched_matches _ _
  deleteShader _ := Action.watched_matches _ _
  beginChunk level := by
    -- opening a chunk is a change of the state here, and watched like any other action
    have hopen : Watched.watching.Matches
        (Action.modify (gl.watched note).beginChunk : Action (Watched σ δ) ε Unit)
        (Action.modify gl.beginChunk) :=
      Action.watched_matches (Action.modify gl.beginChunk) (note .beginChunk)
    exact hopen.from_flat Watched.flat level (level + 1)
  endChunk level := (Action.watched_matches _ _).from_flat Watched.flat (level + 1) level
  describeShader := rfl
  describeProgram := rfl
  describeError := rfl

/-! ### The record of calls -/

/-- A call in a record, with what came of it. -/
inductive Entry (Shader Program ε : Type) : Type where
  | createShader (stage : Stage) (result : Except ε Shader)
  | createProgram (result : Except ε Program)
  | shaderSource (shader : Shader) (source : String) (result : Except ε Unit)
  | compileShader (shader : Shader) (result : Except ε Unit)
  | attachShader (program : Program) (shader : Shader) (result : Except ε Unit)
  | linkProgram (program : Program) (result : Except ε Unit)
  | shaderParameter (shader : Shader) (name : UInt32) (result : Except ε Bool)
  | programParameter (program : Program) (name : UInt32) (result : Except ε Bool)
  | shaderInfoLog (shader : Shader) (result : Except ε String)
  | programInfoLog (program : Program) (result : Except ε String)
  | deleteShader (shader : Shader) (result : Except ε Unit)
  | beginChunk
  | endChunk (result : Except ε Unit)

namespace Entry

/-- The entry of a call. Opening a chunk has no result worth a note. -/
@[simp] def ofCall : {α : Type} → Call Shader Program α → Except ε α → Entry Shader Program ε
  | _, .createShader stage, r => .createShader stage r
  | _, .createProgram, r => .createProgram r
  | _, .shaderSource shader source, r => .shaderSource shader source r
  | _, .compileShader shader, r => .compileShader shader r
  | _, .attachShader program shader, r => .attachShader program shader r
  | _, .linkProgram program, r => .linkProgram program r
  | _, .shaderParameter shader name, r => .shaderParameter shader name r
  | _, .programParameter program name, r => .programParameter program name r
  | _, .shaderInfoLog shader, r => .shaderInfoLog shader r
  | _, .programInfoLog program, r => .programInfoLog program r
  | _, .deleteShader shader, r => .deleteShader shader r
  | _, .beginChunk, _ => .beginChunk
  | _, .endChunk, r => .endChunk r

/-- The entry of a deed. -/
@[simp] def ofDeed (d : Deed Shader Program ε) : Entry Shader Program ε := ofCall d.call d.result

end Entry

/-- To make a call on a device under watch is to make it and note it. -/
theorem perform_watched (gl : Gl σ Shader Program ε)
    (note : {α : Type} → Call Shader Program α → Except ε α → List δ)
    (call : Call Shader Program α) :
    (gl.watched note).perform call = (gl.perform call).watched (note call) := by
  cases call <;> rfl

/-- The same device with a record of all its calls. -/
def recorded (gl : Gl σ Shader Program ε) :
    Gl (Watched σ (Entry Shader Program ε)) Shader Program ε :=
  gl.watched fun call r => [.ofCall call r]

variable {gl : Gl σ Shader Program ε} {hs : List (Happening (Deed Shader Program ε))}
  {w w' : Watched σ (Entry Shader Program ε) × List Event}

/-- The record grows by what is done. -/
theorem record_path (hpath : Path (Happening.Leads gl.recorded.Reports) hs w w') :
    w'.1.record = w.1.record ++ (hs.filterMap Happening.deed?).map Entry.ofDeed := by
  induction hs generalizing w with
  | nil =>
    obtain rfl : w = w' := hpath
    exact (List.append_nil _).symm
  | cons happening rest ih =>
    obtain ⟨m, hm, hrest⟩ := hpath
    cases happening with
    | did d reports =>
      -- the call was made on the device under watch, which noted it
      obtain ⟨⟨⟨hresult, hstate⟩, -⟩, -⟩ := hm
      unfold recorded at hresult hstate
      rw [perform_watched] at hresult hstate
      have hrecord : m.1.record = w.1.record ++ [Entry.ofDeed d] := by
        rw [← hstate]
        exact congrArg (fun r => w.1.record ++ [Entry.ofCall d.call r]) hresult
      rw [ih hrest, hrecord, List.append_assoc]
      rfl
    | told e =>
      -- a report is not a call, so it is not in the record
      obtain rfl := hm
      exact ih (w := (w.1, w.2 ++ [e])) hrest

/-- What happens under watch happens without. -/
theorem inner_path (hpath : Path (Happening.Leads gl.recorded.Reports) hs w w') :
    Path (Happening.Leads gl.Reports) hs (w.1.inner, w.2) (w'.1.inner, w'.2) := by
  induction hs generalizing w with
  | nil =>
    obtain rfl : w = w' := hpath
    rfl
  | cons happening rest ih =>
    obtain ⟨m, hm, hrest⟩ := hpath
    refine ⟨(m.1.inner, m.2), ?_, ih hrest⟩
    cases happening with
    | did d reports =>
      -- the same call on the device itself, by `perform_watched`
      obtain ⟨⟨⟨hresult, hstate⟩, hreports⟩, hlog⟩ := hm
      unfold recorded at hresult hstate hreports
      rw [perform_watched] at hresult hstate hreports
      exact ⟨⟨⟨hresult, congrArg Watched.inner hstate⟩, hreports⟩, hlog⟩
    | told e =>
      obtain rfl := hm
      rfl

/-- The deeds of a run lead where the run leads. -/
theorem does_path {s t : σ × List Event} (h : Path (Happening.Leads gl.Reports) hs s t) :
    Path gl.Does (hs.filterMap Happening.deed?) s.1 t.1 :=
  does_of_reports (Happening.deeds_path h)

/-- **What is told of a run is said of its record.** Let `x` be a program on the device with a
record and `y` the same on the plain one. They run alike. The deeds of the run are those in the
record, they make up its log together with the reports in between, and they are as `Q` has them. -/
theorem tells_watched {φ : Type} {x : Action (Watched σ (Entry Shader Program ε)) φ α}
    {y : Action σ φ α} {Q : List (Deed Shader Program ε) → List Event → Except φ α → Prop}
    (hxy : Watched.watching.Matches x y) (hx : Action.Tells gl.recorded.Reports x Q) (s : σ) :
    let seen := x ⟨s, []⟩
    y s = ⟨seen.result, seen.state.inner, seen.events⟩ ∧
      ∃ hs, Path (Happening.Leads gl.Reports) hs (s, []) ((y s).state, (y s).events) ∧
        seen.state.record = (hs.filterMap Happening.deed?).map Entry.ofDeed ∧
        Q (hs.filterMap Happening.deed?) (hs.filterMap Happening.told?) (y s).result := by
  intro seen
  have hagree := (hxy 0 ⟨s, []⟩ s trivial).2 rfl
  have hsame : y s = ⟨seen.result, seen.state.inner, seen.events⟩ := by
    rw [show seen.result = (y s).result from hagree.result,
      show seen.events = (y s).events from hagree.events_eq fun _ => rfl,
      show seen.state.inner = (y s).state from hagree.state]
  -- run the watched program with empty hands; its path is both the record and the path of `y`
  obtain ⟨hs, hpath, hQ⟩ := hx (⟨s, []⟩, [])
  refine ⟨hsame, hs, ?_, record_path hpath, ?_⟩
  · rw [hsame]
    exact inner_path hpath
  · rw [hsame]
    exact hQ

end Gl

end GlBridge
