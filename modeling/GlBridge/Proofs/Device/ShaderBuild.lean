import GlBridge.Proofs.Device.Script

/-!
# Building a shader on a device that may fail

Building one shader takes up to eight calls, and the device may fail in each of them. Main statement:
`makeShader_builds`. Over any device, whatever it does, `ShaderBuild` holds of the calls that a build
makes and of what comes of it.

* A shader is deleted once if its status was read as false, and otherwise never.
* The chunk is closed once, before the status is asked for.
* The first failure is the result. At most one can follow it, that of closing the chunk on the way
  out or of deleting a rejected shader, and it is only reported.

The proof reads all this off the course of the build (`Gl.ShaderCourse`): the calls are those of the
record (`Gl.tells_watched`), so each clause is a look at the places where a build can end.
-/

namespace GlBridge

namespace Gl

variable {σ Shader Program ε : Type}

/-! ### Reading a record -/

namespace Entry

/-- The failure of a call, if it failed. -/
@[simp] def failure? : Entry Shader Program ε → Option ε
  | .createShader _ (.error e) | .createProgram (.error e) | .shaderSource _ _ (.error e)
  | .compileShader _ (.error e) | .attachShader _ _ (.error e) | .linkProgram _ (.error e)
  | .shaderParameter _ _ (.error e) | .programParameter _ _ (.error e)
  | .shaderInfoLog _ (.error e) | .programInfoLog _ (.error e) | .deleteShader _ (.error e)
  | .endChunk (.error e) => some e
  | _ => none

/-- The call opens or closes a chunk. -/
@[simp] def isChunk : Entry Shader Program ε → Bool
  | .beginChunk | .endChunk _ => true
  | _ => false

/-- The call hands over a source or compiles it. -/
@[simp] def isUpload : Entry Shader Program ε → Bool
  | .shaderSource _ _ _ | .compileShader _ _ => true
  | _ => false

/-- The call deletes a shader. -/
@[simp] def isDeletion : Entry Shader Program ε → Bool
  | .deleteShader _ _ => true
  | _ => false

/-- What is done in a chunk, with its opening and its closing. -/
def inChunk (body : List (Entry Shader Program ε)) (closing : Except ε Unit) :
    List (Entry Shader Program ε) :=
  .beginChunk :: (body ++ [.endChunk closing])

/-- A chunk in the record is the record of a chunk. -/
theorem map_inChunk (ds : List (Deed Shader Program ε)) (closing : Except ε Unit) :
    (Gl.inChunk ds closing).map ofDeed = inChunk (ds.map ofDeed) closing := by
  rw [Gl.inChunk, List.map_cons, List.map_append]
  rfl

end Entry

/-- The first failure among calls. -/
def firstFailure (es : List (Entry Shader Program ε)) : Option ε :=
  (es.filterMap Entry.failure?).head?

/-- Calls that did not fail can be left out in front. -/
theorem firstFailure_append {es : List (Entry Shader Program ε)}
    (h : ∀ e ∈ es, e.failure? = none) (es' : List (Entry Shader Program ε)) :
    firstFailure (es ++ es') = firstFailure es' := by
  unfold firstFailure
  rw [List.filterMap_append, List.filterMap_eq_nil_iff.2 h, List.nil_append]

/-! ### What is to be said of a build -/

/-- The calls of a build that delivers a shader. -/
def acceptance (source : String) (stage : Stage) (shader : Shader) :
    List (Entry Shader Program ε) :=
  .createShader stage (.ok shader) ::
    (Entry.inChunk [.shaderSource shader source (.ok ()), .compileShader shader (.ok ())] (.ok ()) ++
      [.shaderParameter shader compileStatus (.ok true)])

/-- The calls of a build that gives its shader up. -/
def refusal (source : String) (stage : Stage) (shader : Shader) (log : Except ε String)
    (deletion : Except ε Unit) : List (Entry Shader Program ε) :=
  .createShader stage (.ok shader) ::
    (Entry.inChunk [.shaderSource shader source (.ok ()), .compileShader shader (.ok ())] (.ok ()) ++
      [.shaderParameter shader compileStatus (.ok false), .shaderInfoLog shader log,
        .deleteShader shader deletion])

/-- **How a shader is built**, by the calls that were made and their result. -/
structure ShaderBuild (source : String) (stage : Stage) (es : List (Entry Shader Program ε))
    (r : Except (ShaderError ε) Shader) : Prop where
  /-- If the shader is created one chunk is opened, and it is closed before the status is asked for.
  Otherwise nothing else is done. -/
  shape : (∃ e, es = [.createShader stage (.error e)]) ∨
    ∃ shader body closing after,
      es = .createShader stage (.ok shader) :: (Entry.inChunk body closing ++ after) ∧
        (∀ e ∈ body, e.isUpload = true) ∧ ∀ e ∈ after, e.isChunk = false
  /-- A shader is deleted if and only if its status was read as false, -/
  deletes : ∀ shader, (∃ result, .deleteShader shader result ∈ es) ↔
    .shaderParameter shader compileStatus (.ok false) ∈ es
  /-- at most once, -/
  once : (es.filter Entry.isDeletion).length ≤ 1
  /-- and only the shader that was created. -/
  own : ∀ shader result, .deleteShader shader result ∈ es →
    es.head? = some (.createShader stage (.ok shader))
  /-- The build delivers the shader if and only if all went well, -/
  accepted : ∀ shader, r = .ok shader ↔
    .createShader stage (.ok shader) ∈ es ∧ .shaderSource shader source (.ok ()) ∈ es ∧
      .compileShader shader (.ok ()) ∈ es ∧ .endChunk (.ok ()) ∈ es ∧
      .shaderParameter shader compileStatus (.ok true) ∈ es
  /-- and then nothing else was called. -/
  calls : ∀ shader, r = .ok shader → es = acceptance source stage shader
  /-- It fails for the source if and only if the log of the rejected shader could be read and the
  shader be deleted. -/
  rejected : ∀ stage' log, r = .error (.compilation stage' log) ↔
    stage' = stage ∧ ∃ shader, .shaderParameter shader compileStatus (.ok false) ∈ es ∧
      .shaderInfoLog shader (.ok log) ∈ es ∧ .deleteShader shader (.ok ()) ∈ es
  /-- And it fails for the device if and only if a call failed, with the first failure. -/
  failed : ∀ e, r = .error (.context e) ↔ firstFailure es = some e
  /-- It does not fail in any other way. -/
  exhaustive : ∀ log, r ≠ .error (.link log)

/-! ### Courses in a record -/

section Courses

variable {shader : Shader} {source : String} {stage : Stage} {ds : List (Deed Shader Program ε)}

/-- A chunk with an upload in it. -/
theorem UploadCourse.entries {r : Except ε Unit} (h : UploadCourse shader source ds r) :
    ∃ body closing, ds.map Entry.ofDeed = Entry.inChunk body closing ∧
      ∀ e ∈ body, e.isUpload = true := by
  cases h <;>
    exact ⟨_, _, Entry.map_inChunk _ _, by simp [Entry.ofDeed, Entry.ofCall, Entry.isUpload]⟩

/-- If the upload went well, its record is known. -/
theorem UploadCourse.entries_of_ok (h : UploadCourse shader source ds (.ok ())) :
    ds.map Entry.ofDeed = Entry.inChunk
      [.shaderSource shader source (.ok ()), .compileShader shader (.ok ())] (.ok ()) := by
  cases h with
  | uploaded => rfl

/-- The chunk of an upload in the record of a build. -/
theorem UploadCourse.shape {u : Except ε Unit} (h : UploadCourse shader source ds u)
    (stage : Stage) (rest : List (Deed Shader Program ε))
    (hrest : ∀ e ∈ rest.map Entry.ofDeed, e.isChunk = false) :
    ∃ shader' body closing after,
      (⟨.createShader stage, .ok shader⟩ :: (ds ++ rest)).map Entry.ofDeed =
          .createShader stage (.ok shader') :: (Entry.inChunk body closing ++ after) ∧
        (∀ e ∈ body, e.isUpload = true) ∧ ∀ e ∈ after, e.isChunk = false := by
  -- the record of the upload is the first chunk, and behind it none is opened
  obtain ⟨body, closing, hupload, hbody⟩ := h.entries
  refine ⟨shader, body, closing, rest.map Entry.ofDeed, ?_, hbody, hrest⟩
  rw [List.map_cons, List.map_append, hupload]
  rfl

/-! ### Courses of a build

Where a course gets as far as asking for the status its upload went well, and so the record is known
but for the shader. -/

variable {r : Except (ShaderError ε) Shader}

/-- The chunk is opened behind the creation and closed once, wherever the build ends. -/
theorem ShaderCourse.shape (h : ShaderCourse source stage ds r) :
    (∃ e, ds.map Entry.ofDeed = [.createShader stage (.error e)]) ∨
      ∃ shader body closing after,
        ds.map Entry.ofDeed = .createShader stage (.ok shader) ::
            (Entry.inChunk body closing ++ after) ∧
          (∀ e ∈ body, e.isUpload = true) ∧ ∀ e ∈ after, e.isChunk = false := by
  cases h with
  | notCreated e => exact .inl ⟨e, rfl⟩
  | notUploaded h =>
    -- nothing is done behind the chunk
    have hshape := h.shape stage [] (List.forall_mem_nil _)
    rw [List.append_nil] at hshape
    exact .inr hshape
  | noStatus h e => exact .inr (h.shape stage _ (by simp))
  | accepted h => exact .inr (h.shape stage _ (by simp))
  | rejected h hreject => cases hreject <;> exact .inr (h.shape stage _ (by simp))

/-- Deletion and a status of false go together, one way of ending after the other. -/
theorem ShaderCourse.deletes (h : ShaderCourse source stage ds r) (shader : Shader) :
    (∃ result, .deleteShader shader result ∈ ds.map Entry.ofDeed) ↔
      .shaderParameter shader compileStatus (.ok false) ∈ ds.map Entry.ofDeed := by
  cases h with
  | notCreated e => simp
  | notUploaded h => cases h <;> simp [inChunk]
  | noStatus h e => simp [h.entries_of_ok, Entry.inChunk]
  | accepted h => simp [h.entries_of_ok, Entry.inChunk]
  | rejected h hreject => cases hreject <;> simp [h.entries_of_ok, Entry.inChunk]

/-- If a shader is deleted then this is the last thing done. -/
theorem ShaderCourse.entries_of_deletion (h : ShaderCourse source stage ds r) {shader : Shader}
    {deletion : Except ε Unit} (hdelete : .deleteShader shader deletion ∈ ds.map Entry.ofDeed) :
    ∃ log, ds.map Entry.ofDeed = refusal source stage shader log deletion := by
  cases h with
  | notCreated e => simp at hdelete
  | notUploaded h => cases h <;> simp [inChunk] at hdelete
  | noStatus h e => simp [h.entries_of_ok, Entry.inChunk] at hdelete
  | accepted h => simp [h.entries_of_ok, Entry.inChunk] at hdelete
  | rejected h hreject =>
    cases hreject <;>
    · -- the record is known now, and there is one deletion in it
      simp only [List.map_cons, List.map_append, h.entries_of_ok] at hdelete ⊢
      obtain ⟨rfl, rfl⟩ : shader = _ ∧ deletion = _ := by simpa [Entry.inChunk] using hdelete
      exact ⟨_, rfl⟩

/-- Since the record is known where anything is deleted, its deletions can be counted. -/
theorem ShaderCourse.deletes_once (h : ShaderCourse source stage ds r) :
    ((ds.map Entry.ofDeed).filter Entry.isDeletion).length ≤ 1 := by
  by_cases hdeletion : ∃ e ∈ ds.map Entry.ofDeed, e.isDeletion = true
  · obtain ⟨e, he, hdelete⟩ := hdeletion
    cases e with
    | deleteShader shader deletion =>
      -- the whole record is that of a refusal
      obtain ⟨log, heq⟩ := h.entries_of_deletion he
      rw [heq]
      exact Nat.le_refl 1
    | _ => cases hdelete
  · rw [List.filter_eq_nil_iff.2 fun e he hdelete => hdeletion ⟨e, he, hdelete⟩]
    exact Nat.zero_le 1

/-- The record of a build that delivers is known but for the handle, ... -/
theorem ShaderCourse.entries_of_ok {shader : Shader} (h : ShaderCourse source stage ds (.ok shader)) :
    ds.map Entry.ofDeed = acceptance source stage shader := by
  cases h with
  | accepted h => simp [h.entries_of_ok, acceptance]
  | rejected _ hreject => cases hreject

/-- ... and one in which the status was read as true delivers. -/
theorem ShaderCourse.ok_of_status (h : ShaderCourse source stage ds r) {shader : Shader}
    (hstatus : .shaderParameter shader compileStatus (.ok true) ∈ ds.map Entry.ofDeed) :
    r = .ok shader := by
  cases h with
  | notCreated e => simp at hstatus
  | notUploaded h => cases h <;> simp [inChunk] at hstatus
  | noStatus h e => simp [h.entries_of_ok, Entry.inChunk] at hstatus
  | accepted h =>
    simp [h.entries_of_ok, Entry.inChunk] at hstatus
    rw [hstatus]
  | rejected h hreject => cases hreject <;> simp [h.entries_of_ok, Entry.inChunk] at hstatus

/-- A failure of the device is passed on, and it is the first one. -/
theorem ShaderCourse.failed (h : ShaderCourse source stage ds r) (e : ε) :
    r = .error (.context e) ↔ firstFailure (ds.map Entry.ofDeed) = some e := by
  -- in every course the failures are at most two, and the result names the first of them
  unfold firstFailure
  cases h with
  | notCreated e => simp
  | notUploaded h => cases h <;> simp [inChunk, List.findSome?_cons]
  | noStatus h e => simp [h.entries_of_ok, Entry.inChunk, List.findSome?_cons]
  | accepted h => simp [h.entries_of_ok, Entry.inChunk, List.findSome?_cons]
  | rejected h hreject =>
    cases hreject <;> simp [h.entries_of_ok, Entry.inChunk, List.findSome?_cons]

/-- A shader that does not compile is reported as such if its log could be read and it could be
deleted. -/
theorem ShaderCourse.rejected_iff (h : ShaderCourse source stage ds r) (stage' : Stage) (log : String) :
    r = .error (.compilation stage' log) ↔
      stage' = stage ∧ ∃ shader,
        .shaderParameter shader compileStatus (.ok false) ∈ ds.map Entry.ofDeed ∧
        .shaderInfoLog shader (.ok log) ∈ ds.map Entry.ofDeed ∧
        .deleteShader shader (.ok ()) ∈ ds.map Entry.ofDeed := by
  cases h with
  | notCreated e => simp
  | notUploaded h => cases h <;> simp [inChunk]
  | noStatus h e => simp [h.entries_of_ok, Entry.inChunk]
  | accepted h => simp [h.entries_of_ok, Entry.inChunk]
  | rejected h hreject =>
    cases hreject <;> simp [h.entries_of_ok, Entry.inChunk, eq_comm (a := stage'), eq_comm (a := log)]

/-- No link is involved in making a shader. -/
theorem ShaderCourse.not_link (h : ShaderCourse source stage ds r) (log : String) :
    r ≠ .error (.link log) := by
  cases h with
  | rejected h hreject => cases hreject <;> simp
  | _ => simp

/-- **A build goes as its course says.** -/
theorem ShaderCourse.builds (h : ShaderCourse source stage ds r) :
    ShaderBuild source stage (ds.map Entry.ofDeed) r where
  shape := h.shape
  deletes := h.deletes
  once := h.deletes_once
  own shader result hdelete := by
    obtain ⟨log, heq⟩ := h.entries_of_deletion hdelete
    rw [heq]
    rfl
  accepted shader := by
    constructor
    · rintro rfl
      simp [h.entries_of_ok, acceptance, Entry.inChunk]
    · rintro ⟨-, -, -, -, hstatus⟩
      exact h.ok_of_status hstatus
  calls := by
    rintro shader rfl
    exact h.entries_of_ok
  rejected := h.rejected_iff
  failed := h.failed
  exhaustive := h.not_link

end Courses

/-! ### Main statement -/

/-- A report of a failure that came second is a warning. -/
theorem level_suppressed (gl : Gl σ Shader Program ε) (stage : Stage)
    {d : Deed Shader Program ε} {event : Event} (h : gl.suppressed stage d = some event) :
    event.level = .warn := by
  unfold suppressed at h
  split at h
  · cases h
    rfl
  · cases h
    rfl
  · cases h

end Gl

/-- **How a shader is built, on any device.** Keep a record of the calls that building a shader makes
on any device, in any state. The record changes nothing, and by it the build goes as it should
(`Gl.ShaderBuild`): a shader is deleted exactly if its status was read as false, the chunk is closed
once and in time, and the result is the first failure if there is one. The log of the build is what
the calls report themselves and in between what the build reports, namely how it went, or, if the
device failed, a warning of every failure behind the first. -/
theorem makeShader_builds {σ Shader Program ε : Type} (gl : Gl σ Shader Program ε)
    (source : String) (stage : Stage) (s : σ) :
    let out := gl.makeShader source stage s
    let seen := gl.recorded.makeShader source stage ⟨s, []⟩
    out = ⟨seen.result, seen.state.inner, seen.events⟩ ∧
      Gl.ShaderBuild source stage seen.state.record out.result ∧
      ∃ hs, Path (Happening.Leads gl.Reports) hs (s, []) (out.state, out.events) ∧
        out.events = hs.flatMap Happening.events ∧
        let ds := hs.filterMap Happening.deed?
        seen.state.record = ds.map Gl.Entry.ofDeed ∧
          hs.filterMap Happening.told? = gl.shaderReports stage ds out.result ∧
          ∀ e ∈ (Gl.behindFailure ds).filterMap (gl.suppressed stage), e.level = .warn := by
  intro out seen
  have hmatches : Watched.watching.Matches (gl.recorded.makeShader source stage)
      (gl.makeShader source stage) :=
    (gl.watched_matches _).makeShader source stage
  obtain ⟨hsame, hs, hpath, hrecord, hcourse, hreports⟩ :=
    Gl.tells_watched hmatches (gl.recorded.makeShader_tells source stage) s
  refine ⟨hsame, ?_, hs, hpath, ?_, hrecord, hreports, ?_⟩
  · -- the record is that of the course
    rw [show seen.state.record = _ from hrecord]
    exact hcourse.builds
  · exact Happening.log_path hpath
  · intro e he
    obtain ⟨d, -, hd⟩ := List.mem_filterMap.1 he
    exact gl.level_suppressed stage hd

end GlBridge
