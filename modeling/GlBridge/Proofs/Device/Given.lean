import GlBridge.Proofs.Device.Watched

/-!
# Handles and where they come from

A device gives out handles and takes them back as arguments. `Gl.Given` is what a caller was given
so far: the shaders and programs that were created for it, and the number of chunks it has
open. Deeds are admitted (`Gl.Given.Admits`) if each of them refers only to handles that were given
out by deeds before it, and closes a chunk only where one is open.

The build of a program is admitted on every device, whichever of its calls fail
(`Gl.ProgramCourse.admitted`). This says nothing of what a device does with a handle that it gave
out. On the device in memory it means that every look-up succeeds.

The second part is about deletion: a build deletes at most one shader, as the last thing it does,
behind the answer that this shader did not compile (`Gl.ProgramCourse.deletion`).
-/

namespace GlBridge

namespace Gl

variable {σ Shader Program ε α : Type}

/-! ### What a call refers to -/

/-- The shaders that a call refers to. -/
@[simp] def Call.shaders : {α : Type} → Call Shader Program α → List Shader
  | _, .shaderSource shader _ => [shader]
  | _, .compileShader shader => [shader]
  | _, .attachShader _ shader => [shader]
  | _, .shaderParameter shader _ => [shader]
  | _, .shaderInfoLog shader => [shader]
  | _, .deleteShader shader => [shader]
  | _, _ => []

/-- The programs that a call refers to. -/
@[simp] def Call.programs : {α : Type} → Call Shader Program α → List Program
  | _, .attachShader program _ => [program]
  | _, .linkProgram program => [program]
  | _, .programParameter program _ => [program]
  | _, .programInfoLog program => [program]
  | _, _ => []

/-- What a caller was given so far: the objects, and the chunks that it has open. -/
structure Given (Shader Program : Type) where
  shaders : List Shader := []
  programs : List Program := []
  level : Nat := 0

namespace Given

/-- The call refers to what was given only, and closes no chunk but an open one. -/
def Allows (g : Given Shader Program) (call : Call Shader Program α) : Prop :=
  (∀ shader ∈ call.shaders, shader ∈ g.shaders) ∧
    (∀ program ∈ call.programs, program ∈ g.programs) ∧
    match call with
    | .endChunk => 0 < g.level
    | _ => True

/-- With one more shader. -/
@[simp] def withShader (g : Given Shader Program) (shader : Shader) : Given Shader Program :=
  { g with shaders := g.shaders ++ [shader] }

/-- What is given behind a call, by its result. A chunk counts as closed however closing it went. -/
@[simp] def behind (g : Given Shader Program) :
    {α : Type} → Call Shader Program α → Except ε α → Given Shader Program
  | _, .createShader _, .ok shader => g.withShader shader
  | _, .createProgram, .ok program => { g with programs := g.programs ++ [program] }
  | _, .beginChunk, _ => { g with level := g.level + 1 }
  | _, .endChunk, _ => { g with level := g.level - 1 }
  | _, _, _ => g

/-- What is given behind a deed. -/
@[simp] def after (g : Given Shader Program) (d : Deed Shader Program ε) : Given Shader Program :=
  g.behind d.call d.result

/-- Each of the deeds keeps to what was given before it. -/
def Admits : Given Shader Program → List (Deed Shader Program ε) → Prop
  | _, [] => True
  | g, d :: ds => g.Allows d.call ∧ (g.after d).Admits ds

@[simp] theorem admits_nil (g : Given Shader Program) :
    g.Admits ([] : List (Deed Shader Program ε)) := trivial

@[simp] theorem admits_cons (g : Given Shader Program) (d : Deed Shader Program ε)
    (ds : List (Deed Shader Program ε)) :
    g.Admits (d :: ds) ↔ g.Allows d.call ∧ (g.after d).Admits ds := Iff.rfl

/-- What comes second keeps to what is given behind what comes first. -/
theorem admits_append {g : Given Shader Program} {ds es : List (Deed Shader Program ε)} :
    g.Admits (ds ++ es) ↔ g.Admits ds ∧ (ds.foldl after g).Admits es := by
  induction ds generalizing g with
  | nil => exact ⟨fun h => ⟨trivial, h⟩, And.right⟩
  | cons d rest ih =>
    rw [List.cons_append, admits_cons, admits_cons, List.foldl_cons, ih, and_assoc]

/-- The same with the number of open chunks, where it is known what is given in between. -/
theorem admits_behind {g g' : Given Shader Program} {ds es : List (Deed Shader Program ε)} {n : Nat}
    (hds : g.Admits ds) (hafter : ds.foldl after g = g')
    (hes : g'.Admits es ∧ (es.foldl after g').level = n) :
    g.Admits (ds ++ es) ∧ ((ds ++ es).foldl after g).level = n := by
  rw [admits_append, List.foldl_append, hafter]
  exact ⟨⟨hds, hes.1⟩, hes.2⟩

end Given

/-! ### Builds keep to what they were given -/

section Courses

variable {source vertexSource fragmentSource : String} {stage : Stage}
  {shader vertex fragment : Shader} {program : Program} {ds : List (Deed Shader Program ε)}
  {g : Given Shader Program}

/-- An upload refers to its shader only, and nothing new is given behind it. -/
theorem UploadCourse.admitted {r : Except ε Unit} (h : UploadCourse shader source ds r)
    (hshader : shader ∈ g.shaders) : g.Admits ds ∧ ds.foldl Given.after g = g := by
  cases h <;> simp [inChunk, Given.Allows, hshader]

/-- And neither is behind a shader that was given up. -/
theorem RejectCourse.admitted {r : Except (ShaderError ε) Shader}
    (h : RejectCourse shader stage ds r) (hshader : shader ∈ g.shaders) :
    g.Admits ds ∧ ds.foldl Given.after g = g := by
  cases h <;> simp [Given.Allows, hshader]

/-- The build of a shader needs nothing to be given: it creates what it refers to. It closes its
chunks. -/
theorem ShaderCourse.admitted {r : Except (ShaderError ε) Shader}
    (h : ShaderCourse source stage ds r) (g : Given Shader Program) :
    g.Admits ds ∧ (ds.foldl Given.after g).level = g.level := by
  have hnew : ∀ shader, shader ∈ (g.withShader shader).shaders :=
    fun shader => List.mem_append_right _ List.mem_cons_self
  -- behind the upload of a new shader, that shader is what is given
  have hbehind : ∀ {made : Shader} {upload rest : List (Deed Shader Program ε)} {u : Except ε Unit},
      UploadCourse made source upload u →
        (g.withShader made).Admits rest ∧
          (rest.foldl Given.after (g.withShader made)).level = g.level →
        g.Admits (⟨.createShader stage, .ok made⟩ :: (upload ++ rest)) ∧
          ((⟨.createShader stage, .ok made⟩ :: (upload ++ rest)).foldl Given.after g).level =
            g.level := by
    intro made upload rest u h hrest
    obtain ⟨hupload, hafter⟩ := h.admitted (hnew made)
    obtain ⟨hbehind, hlevel⟩ := Given.admits_behind hupload hafter hrest
    exact ⟨⟨by simp [Given.Allows], hbehind⟩, hlevel⟩
  cases h with
  | notCreated e => simp [Given.Allows]
  | @notUploaded _ upload _ h =>
    rw [← List.append_nil upload]
    exact hbehind h ⟨trivial, rfl⟩
  | noStatus h e => exact hbehind h (by simp [Given.Allows])
  | accepted h => exact hbehind h (by simp [Given.Allows])
  | rejected h hreject =>
    -- giving up the shader leaves what is given as it was behind its creation
    obtain ⟨hgiven, hend⟩ := hreject.admitted (hnew _)
    refine hbehind h ⟨⟨by simp [Given.Allows], hgiven⟩, ?_⟩
    rw [List.foldl_cons]
    exact (congrArg Given.level hend).trans rfl

/-- A shader that was delivered is given from then on. -/
theorem ShaderCourse.after_of_ok (h : ShaderCourse source stage ds (.ok shader))
    (g : Given Shader Program) :
    ds.foldl Given.after g = g.withShader shader := by
  cases h with
  | accepted h =>
    have hshader : shader ∈ (g.withShader shader).shaders :=
      List.mem_append_right _ List.mem_cons_self
    rw [List.foldl_cons, List.foldl_append, Given.after, Given.behind, (h.admitted hshader).2]
    rfl
  | rejected _ hreject => cases hreject

/-- Linking refers to three handles, and needs all of them. -/
theorem LinkingCourse.admitted {r : Except ε Unit} (h : LinkingCourse program vertex fragment ds r)
    (hprogram : program ∈ g.programs) (hvertex : vertex ∈ g.shaders)
    (hfragment : fragment ∈ g.shaders) : g.Admits ds ∧ ds.foldl Given.after g = g := by
  cases h <;> simp [inChunk, Given.Allows, hprogram, hvertex, hfragment]

/-- So does the rest of a build, which asks about the same program. -/
theorem JoinCourse.admitted {r : Except (ShaderError ε) (LinkedProgram Shader Program)}
    (h : JoinCourse program vertex fragment ds r) (hprogram : program ∈ g.programs)
    (hvertex : vertex ∈ g.shaders) (hfragment : fragment ∈ g.shaders) :
    g.Admits ds ∧ ds.foldl Given.after g = g := by
  -- the questions behind the linking are about the same program
  have hbehind : ∀ {linking rest : List (Deed Shader Program ε)} {u : Except ε Unit},
      LinkingCourse program vertex fragment linking u →
        g.Admits rest ∧ rest.foldl Given.after g = g →
          g.Admits (linking ++ rest) ∧ (linking ++ rest).foldl Given.after g = g := by
    intro linking rest u h hrest
    obtain ⟨hlinking, hafter⟩ := h.admitted hprogram hvertex hfragment
    rw [Given.admits_append, List.foldl_append, hafter]
    exact ⟨⟨hlinking, hrest.1⟩, hrest.2⟩
  cases h with
  | notLinked h => exact h.admitted hprogram hvertex hfragment
  | noStatus h e => exact hbehind h (by simp [Given.Allows, hprogram])
  | linked h => exact hbehind h (by simp [Given.Allows, hprogram])
  | rejected h log => exact hbehind h (by simp [Given.Allows, hprogram])
  | unread h e => exact hbehind h (by simp [Given.Allows, hprogram])

/-- **The build of a program keeps to what it was given**: it refers only to what was created for
it, closes only the chunks that it opened, and closes them all. -/
theorem ProgramCourse.admitted {r : Except (ShaderError ε) (LinkedProgram Shader Program)}
    (h : ProgramCourse vertexSource fragmentSource ds r) :
    (Given.mk [] [] 0).Admits ds ∧ (ds.foldl Given.after (Given.mk [] [] 0)).level = 0 := by
  have hcreated : ∀ program, ((⟨.createProgram, .ok program⟩ : Deed Shader Program ε) :: []).foldl
      Given.after (Given.mk [] [] 0) = Given.mk [] [program] 0 := fun _ => rfl
  cases h with
  | notCreated e => simp [Given.Allows]
  | @noVertex program _ _ h =>
    exact Given.admits_behind (by simp [Given.Allows]) (hcreated program) (h.admitted _)
  | @noFragment program vertex _ _ _ hvertex hfragment =>
    refine Given.admits_behind (by simp [Given.Allows]) (hcreated program) ?_
    exact Given.admits_behind (hvertex.admitted _).1 (hvertex.after_of_ok _) (hfragment.admitted _)
  | @joined program vertex fragment _ _ _ _ hvertex hfragment hjoin =>
    -- the parts one after the other, each with what was created before it
    obtain ⟨hjoined, hend⟩ := hjoin.admitted (g := Given.mk [vertex, fragment] [program] 0)
      (by simp) (by simp) (by simp)
    refine Given.admits_behind (by simp [Given.Allows]) (hcreated program) ?_
    refine Given.admits_behind (hvertex.admitted _).1 (hvertex.after_of_ok _) ?_
    refine Given.admits_behind (hfragment.admitted _).1 (hfragment.after_of_ok _) ?_
    exact ⟨hjoined, congrArg Given.level hend⟩

end Courses

/-! ### Deletion -/

/-- The deed is the deletion of a shader. -/
@[simp] def Deed.isDeletion : Deed Shader Program ε → Bool
  | ⟨.deleteShader _, _⟩ => true
  | _ => false

/-- The end of a build that gives a shader up. -/
def givingUp (shader : Shader) (log : Except ε String) (deletion : Except ε Unit) :
    List (Deed Shader Program ε) :=
  [⟨.shaderParameter shader compileStatus, .ok false⟩, ⟨.shaderInfoLog shader, log⟩,
    ⟨.deleteShader shader, deletion⟩]

/-- Deeds delete a shader at most once, at their end and after it was found not to compile. -/
def DeletesLast (ds : List (Deed Shader Program ε)) : Prop :=
  (∀ d ∈ ds, d.isDeletion = false) ∨ ∃ front shader log deletion,
    ds = front ++ givingUp shader log deletion ∧ ∀ d ∈ front, d.isDeletion = false

/-- What deletes nothing can be done in front. -/
theorem DeletesLast.append {ds es : List (Deed Shader Program ε)}
    (hds : ∀ d ∈ ds, d.isDeletion = false) (hes : DeletesLast es) : DeletesLast (ds ++ es) := by
  rcases hes with hnone | ⟨front, shader, log, deletion, rfl, hfront⟩
  · exact .inl fun d hd => (List.mem_append.1 hd).elim (hds d) (hnone d)
  · refine .inr ⟨ds ++ front, shader, log, deletion, (List.append_assoc ..).symm, fun d hd => ?_⟩
    exact (List.mem_append.1 hd).elim (hds d) (hfront d)

section Deletion

variable {source vertexSource fragmentSource : String} {stage : Stage}
  {shader vertex fragment : Shader} {program : Program} {ds : List (Deed Shader Program ε)}

/-- Nothing is deleted while a shader is made, ... -/
theorem UploadCourse.not_deletion {r : Except ε Unit} (h : UploadCourse shader source ds r) :
    ∀ d ∈ ds, d.isDeletion = false := by
  cases h <;> simp [inChunk]

/-- ... and nothing behind the shaders of a program. -/
theorem JoinCourse.not_deletion {r : Except (ShaderError ε) (LinkedProgram Shader Program)}
    (h : JoinCourse program vertex fragment ds r) : ∀ d ∈ ds, d.isDeletion = false := by
  have hlinking : ∀ {linking : List (Deed Shader Program ε)} {u : Except ε Unit},
      LinkingCourse program vertex fragment linking u → ∀ d ∈ linking, d.isDeletion = false := by
    intro linking u h
    cases h <;> simp [inChunk]
  have hbehind : ∀ {linking rest : List (Deed Shader Program ε)} {u : Except ε Unit},
      LinkingCourse program vertex fragment linking u → (∀ d ∈ rest, d.isDeletion = false) →
        ∀ d ∈ linking ++ rest, d.isDeletion = false :=
    fun h hrest d hd => (List.mem_append.1 hd).elim (hlinking h d) (hrest d)
  cases h with
  | notLinked h => exact hlinking h
  | noStatus h e => exact hbehind h (by simp)
  | linked h => exact hbehind h (by simp)
  | rejected h log => exact hbehind h (by simp)
  | unread h e => exact hbehind h (by simp)

/-- A shader that was delivered was not deleted. -/
theorem ShaderCourse.not_deletion (h : ShaderCourse source stage ds (.ok shader)) :
    ∀ d ∈ ds, d.isDeletion = false := by
  cases h with
  | accepted h =>
    intro d hd
    simp only [List.mem_cons, List.mem_append, List.not_mem_nil, or_false] at hd
    rcases hd with rfl | hd | rfl
    · rfl
    · exact h.not_deletion d hd
    · rfl
  | rejected _ hreject => cases hreject

/-- The build of a shader deletes that shader or nothing. -/
theorem ShaderCourse.deletion {r : Except (ShaderError ε) Shader}
    (h : ShaderCourse source stage ds r) : DeletesLast ds := by
  -- the creation and the upload delete nothing
  have hfront : ∀ {made : Shader} {upload : List (Deed Shader Program ε)} {u : Except ε Unit},
      UploadCourse made source upload u →
        ∀ d ∈ ⟨.createShader stage, .ok made⟩ :: upload, d.isDeletion = false := by
    intro made upload u h d hd
    rcases List.mem_cons.1 hd with rfl | hd
    · rfl
    · exact h.not_deletion d hd
  cases h with
  | notCreated e => exact .inl (by simp)
  | notUploaded h => exact .inl (hfront h)
  | noStatus h e => exact .append (hfront h) (.inl (by simp))
  | accepted h => exact .append (hfront h) (.inl (by simp))
  | rejected h hreject =>
    refine .append (hfront h) (.inr ⟨[], ?_⟩)
    -- the shader is deleted behind its log, however each of the two went
    cases hreject with
    | deleted log => exact ⟨_, _, _, rfl, List.forall_mem_nil _⟩
    | kept log e => exact ⟨_, _, _, rfl, List.forall_mem_nil _⟩
    | unread e deletion => exact ⟨_, _, _, rfl, List.forall_mem_nil _⟩

/-- **A build deletes at most one shader**, at its end and after it was found not to compile. -/
theorem ProgramCourse.deletion {r : Except (ShaderError ε) (LinkedProgram Shader Program)}
    (h : ProgramCourse vertexSource fragmentSource ds r) : DeletesLast ds := by
  have hcreated : ∀ program : Program,
      ∀ d ∈ [(⟨.createProgram, .ok program⟩ : Deed Shader Program ε)], d.isDeletion = false := by
    simp
  cases h with
  | notCreated e => exact .inl (by simp)
  | noVertex h => exact .append (hcreated _) h.deletion
  | noFragment hvertex hfragment =>
    exact .append (hcreated _) (.append hvertex.not_deletion hfragment.deletion)
  | joined hvertex hfragment hjoin =>
    -- only the first part in which a shader is given up can delete one, and here there is none
    exact .append (hcreated _) (.append hvertex.not_deletion
      (.append hfragment.not_deletion (.inl hjoin.not_deletion)))

end Deletion

end Gl

end GlBridge
