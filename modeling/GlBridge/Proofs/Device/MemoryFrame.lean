import GlBridge.Proofs.Device.MemoryEffect

/-!
# What a user of the device in memory cannot touch

Whoever uses the device in memory and keeps to what it was given leaves everything alone that was
there before (`Memory.Since`): the objects of before stay as they were and where they were, what is
created stands behind them, and chunks that were open stay open. Conversely nothing is missing that
such a user refers to, so a call fails only by being refused.

`Memory.Since.deed` is the step, for one call and whatever comes of it; `Memory.Since.run` follows a
run along its deeds. What is deleted is followed apart (`Memory.Undeleted`), since of all the calls
only a deletion deletes.
-/

namespace GlBridge.Memory

variable {α : Type} {m s t : Memory} {g : Gl.Given Nat Nat}

/-! ### Lists of objects -/

/-- Changing an object leaves the ones before it alone. -/
theorem modify_append {l new : List α} {i : Nat} (h : l.length ≤ i) (f : α → α) :
    (l ++ new).modify i f = l ++ new.modify (i - l.length) f := by
  induction l generalizing i with
  | nil => rfl
  | cons a rest ih =>
    -- the place is behind the first object, so it is one less in the rest
    obtain ⟨n, rfl⟩ := Nat.exists_eq_add_of_le' (Nat.le_trans (Nat.succ_le_succ (Nat.zero_le _)) h)
    have hrest : rest.length ≤ n := Nat.le_of_succ_le_succ h
    rw [List.cons_append, List.modify_succ_cons, ih hrest, List.length_cons,
      Nat.add_sub_add_right, List.cons_append]

/-- What holds of all objects still does if the change keeps it. -/
theorem forall_mem_modify {P : α → Prop} {l : List α} {f : α → α} (h : ∀ a ∈ l, P a)
    (hf : ∀ a, P a → P (f a)) (i : Nat) : ∀ a ∈ l.modify i f, P a := by
  intro a ha
  obtain ⟨j, hj⟩ := List.mem_iff_getElem?.1 ha
  rw [List.getElem?_modify] at hj
  cases hb : l[j]? with
  | none =>
    rw [hb] at hj
    cases hj
  | some b =>
    rw [hb] at hj
    have hPb : P b := h b (List.mem_of_getElem? hb)
    obtain rfl := Option.some.inj hj
    dsimp only
    split
    · exact hf b hPb
    · exact hPb

/-! ### The frame -/

/-- The device `m` after a use that was given `g`. -/
structure Since (m : Memory) (g : Gl.Given Nat Nat) (s : Memory) : Prop where
  /-- the objects of before are the first ones -/
  shaders : m.shaders <+: s.shaders
  /-- and so are its programs -/
  programs : m.programs <+: s.programs
  /-- what was given is none of them, and is there -/
  newShaders : ∀ i ∈ g.shaders, m.shaders.length ≤ i ∧ i < s.shaders.length
  /-- the same of programs -/
  newPrograms : ∀ i ∈ g.programs, m.programs.length ≤ i ∧ i < s.programs.length
  /-- and so is what was attached to it -/
  attached : ∀ i ∈ g.programs, ∀ p, s.programs[i]? = some p → ∀ shader ∈ p.attached,
    shader < s.shaders.length
  /-- at least the chunks are open that were opened in between, -/
  level : g.level ≤ s.depth
  /-- and just these and the ones of before unless closing is refused -/
  balance : m.refuses ≠ some .endChunk → s.depth = m.depth + g.level
  /-- no call changes the settings -/
  refuses : s.refuses = m.refuses

namespace Since

/-- Before anything is given, nothing has changed. -/
theorem start (m : Memory) : m.Since ⟨[], [], 0⟩ m where
  shaders := List.prefix_rfl
  programs := List.prefix_rfl
  newShaders := List.forall_mem_nil _
  newPrograms := List.forall_mem_nil _
  attached := List.forall_mem_nil _
  level := Nat.zero_le _
  balance _ := rfl
  refuses := rfl

/-- The record is no part of it. -/
theorem entered (h : m.Since g s) (call : Call) : m.Since g (s.entered call) :=
  ⟨h.shaders, h.programs, h.newShaders, h.newPrograms, h.attached, h.level, h.balance, h.refuses⟩

/-- **Whoever keeps to what was given refers to what is there.** -/
theorem knows (h : m.Since g s) {call : Gl.Call Nat Nat α} (hallows : g.Allows call) :
    s.Knows call where
  shaders i hi := (h.newShaders i (hallows.1 i hi)).2
  programs i hi := (h.newPrograms i (hallows.2.1 i hi)).2
  attached i hi := h.attached i (hallows.2.1 i hi)
  level hname := by
    cases call with
    | endChunk => exact Nat.lt_of_lt_of_le hallows.2.2 h.level
    | _ => cases hname

/-- A change of a shader that was given. -/
theorem modifyShader (h : m.Since g s) {i : Nat} (hi : i ∈ g.shaders) (f : Shader → Shader) :
    m.Since g { s with shaders := s.shaders.modify i f } := by
  obtain ⟨new, hnew⟩ := h.shaders
  have hlength : (s.shaders.modify i f).length = s.shaders.length := List.length_modify ..
  refine ⟨?_, h.programs, ?_, h.newPrograms, ?_, h.level, h.balance, h.refuses⟩
  · -- the changed shader is behind those of before, so their prefix stays
    rw [← hnew, modify_append (h.newShaders i hi).1]
    exact List.prefix_append _ _
  · intro j hj
    exact hlength.symm ▸ h.newShaders j hj
  · intro j hj p hp shader hshader
    exact hlength.symm ▸ h.attached j hj p hp shader hshader

/-- A change of a program that was given; what it attaches must be there. -/
theorem modifyProgram (h : m.Since g s) {i : Nat} (hi : i ∈ g.programs) {f : Program → Program}
    (hf : ∀ p, ∀ shader ∈ (f p).attached, shader ∈ p.attached ∨ shader < s.shaders.length) :
    m.Since g { s with programs := s.programs.modify i f } := by
  obtain ⟨new, hnew⟩ := h.programs
  have hlength : (s.programs.modify i f).length = s.programs.length := List.length_modify ..
  refine ⟨h.shaders, ?_, h.newShaders, ?_, ?_, h.level, h.balance, h.refuses⟩
  · rw [← hnew, modify_append (h.newPrograms i hi).1]
    exact List.prefix_append _ _
  · intro j hj
    exact hlength.symm ▸ h.newPrograms j hj
  · intro j hj p hp shader hshader
    change (s.programs.modify i f)[j]? = some p at hp
    rw [List.getElem?_modify] at hp
    cases hq : s.programs[j]? with
    | none =>
      rw [hq] at hp
      cases hp
    | some q =>
      -- the program is the changed one or was there as it is
      rw [hq] at hp
      obtain rfl := Option.some.inj hp
      dsimp only at hshader
      split at hshader
      · exact (hf q shader hshader).elim (h.attached j hj q hq shader) id
      · exact h.attached j hj q hq shader hshader

/-- A new shader stands behind all others, and its handle is given from then on. -/
theorem addShader (h : m.Since g s) (a : Shader) :
    m.Since (g.withShader s.shaders.length) { s with shaders := s.shaders ++ [a] } := by
  have hlength : (s.shaders ++ [a]).length = s.shaders.length + 1 := List.length_append
  refine ⟨h.shaders.trans (List.prefix_append _ _), h.programs, ?_, h.newPrograms, ?_, h.level,
    h.balance, h.refuses⟩
  · intro i hi
    rw [hlength]
    rcases List.mem_append.1 hi with hi | hi
    · exact ⟨(h.newShaders i hi).1, Nat.lt_succ_of_lt (h.newShaders i hi).2⟩
    · obtain rfl := List.mem_singleton.1 hi
      exact ⟨h.shaders.length_le, Nat.lt_succ_self _⟩
  · intro i hi p hp shader hshader
    rw [hlength]
    exact Nat.lt_succ_of_lt (h.attached i hi p hp shader hshader)

/-- So does a new program, to which nothing is attached yet. -/
theorem addProgram (h : m.Since g s) :
    m.Since { g with programs := g.programs ++ [s.programs.length] }
      { s with programs := s.programs ++ [{}] } := by
  have hlength : (s.programs ++ [({} : Program)]).length = s.programs.length + 1 :=
    List.length_append
  refine ⟨h.shaders, h.programs.trans (List.prefix_append _ _), h.newShaders, ?_, ?_, h.level,
    h.balance, h.refuses⟩
  · intro i hi
    rw [hlength]
    rcases List.mem_append.1 hi with hi | hi
    · exact ⟨(h.newPrograms i hi).1, Nat.lt_succ_of_lt (h.newPrograms i hi).2⟩
    · obtain rfl := List.mem_singleton.1 hi
      exact ⟨h.programs.length_le, Nat.lt_succ_self _⟩
  · intro i hi p hp shader hshader
    rcases List.mem_append.1 hi with hi | hi
    · refine h.attached i hi p ?_ shader hshader
      rwa [List.getElem?_append_left (h.newPrograms i hi).2] at hp
    · -- nothing is attached to a new program
      obtain rfl := List.mem_singleton.1 hi
      rw [List.getElem?_concat_length] at hp
      obtain rfl := Option.some.inj hp
      cases hshader

/-- **A call leaves the frame in place**, with what it delivers given from then on. -/
theorem effect (h : m.Since g s) {call : Gl.Call Nat Nat α} (hallows : g.Allows call) :
    m.Since (g.behind call (.ok (s.answer call) : Except Failure α)) (Memory.effect call s) := by
  cases call with
  | createShader stage => exact h.addShader _
  | createProgram => exact h.addProgram
  | shaderSource i source => exact h.modifyShader (hallows.1 i List.mem_cons_self) _
  | compileShader i => exact h.modifyShader (hallows.1 i List.mem_cons_self) _
  | deleteShader i => exact h.modifyShader (hallows.1 i List.mem_cons_self) _
  | attachShader i shader =>
    -- what is attached was given, so it is there
    have hshader : shader < s.shaders.length :=
      (h.newShaders shader (hallows.1 shader List.mem_cons_self)).2
    refine h.modifyProgram (hallows.2.1 i List.mem_cons_self) fun p j hj => ?_
    rcases List.mem_append.1 hj with hj | hj
    · exact .inl hj
    · exact .inr (List.mem_singleton.1 hj ▸ hshader)
  | linkProgram i =>
    exact h.modifyProgram (hallows.2.1 i List.mem_cons_self) fun p j hj => .inl hj
  | shaderParameter i name => exact h
  | programParameter i name => exact h
  | shaderInfoLog i => exact h
  | programInfoLog i => exact h
  | beginChunk =>
    exact ⟨h.shaders, h.programs, h.newShaders, h.newPrograms, h.attached,
      Nat.succ_le_succ h.level, fun hr => congrArg (· + 1) (h.balance hr), h.refuses⟩
  | endChunk =>
    -- the chunk was opened in between, so one is open to be closed
    have hopen : 0 < g.level := hallows.2.2
    refine ⟨h.shaders, h.programs, h.newShaders, h.newPrograms, h.attached,
      Nat.sub_le_sub_right h.level 1, fun hr => ?_, h.refuses⟩
    have hdepth := h.balance hr
    show s.depth - 1 = m.depth + (g.level - 1)
    omega

/-- So does a call that is refused. If it was to close a chunk, the chunk is left open. -/
theorem declined (h : m.Since g s) {call : Gl.Call Nat Nat α} (hdeclines : s.Declines call)
    (e : Failure) : m.Since (g.behind call (.error e)) s := by
  cases call with
  | beginChunk => exact absurd rfl hdeclines.2
  | endChunk =>
    refine ⟨h.shaders, h.programs, h.newShaders, h.newPrograms, h.attached,
      Nat.le_trans (Nat.sub_le _ _) h.level, fun hr => ?_, h.refuses⟩
    -- `balance` asks for nothing where closing is refused
    exact absurd (h.refuses.symm.trans hdeclines.1) hr
  | _ => exact h

end Since

/-! ### Deeds -/

/-- What can come of a call. -/
theorem does_cases {d : Gl.Deed Nat Nat Failure} (hknows : s.Knows d.call) (hd : gl.Does d s t) :
    (s.Declines d.call ∧ d.result = .error (.refused (nameOf d.call)) ∧
        t = s.entered (nameOf d.call)) ∨
      (¬s.Declines d.call ∧ d.result = .ok (s.answer d.call) ∧
        t = effect d.call (s.entered (nameOf d.call))) := by
  obtain ⟨hresult, hstate⟩ := hd
  by_cases hdeclines : s.Declines d.call
  · rw [perform_of_declined hdeclines] at hresult hstate
    exact .inl ⟨hdeclines, hresult.symm, hstate.symm⟩
  · rw [perform_of_known hdeclines hknows] at hresult hstate
    exact .inr ⟨hdeclines, hresult.symm, hstate.symm⟩

/-- The deed failed because it was refused, or it was not refused and did not fail. -/
def Fares (s : Memory) (d : Gl.Deed Nat Nat Failure) : Prop :=
  (s.Declines d.call ∧ d.result = .error (.refused (nameOf d.call))) ∨
    (¬s.Declines d.call ∧ d.Succeeded)

/-- **One deed**: it leaves the frame in place, and fails only if it is refused. -/
theorem Since.deed (h : m.Since g s) {d : Gl.Deed Nat Nat Failure} (hallows : g.Allows d.call)
    (hd : gl.Does d s t) : m.Since (g.after d) t ∧ m.Fares d := by
  have hsame : m.Declines d.call ↔ s.Declines d.call := by
    unfold Declines
    rw [h.refuses]
  unfold Fares Gl.Given.after
  rw [hsame]
  rcases does_cases (h.knows hallows) hd with ⟨hdeclines, hresult, rfl⟩ | ⟨hdeclines, hresult, rfl⟩
  · rw [hresult]
    exact ⟨(h.declined hdeclines _).entered _, .inl ⟨hdeclines, rfl⟩⟩
  · rw [hresult]
    exact ⟨(h.entered _).effect hallows, .inr ⟨hdeclines, _, hresult⟩⟩

/-- **A run** that keeps to what it is given: at its end the frame is in place, and no call of it
failed but those that are refused. -/
theorem Since.run {ds : List (Gl.Deed Nat Nat Failure)} (h : m.Since g s) (hadmits : g.Admits ds)
    (hpath : Path gl.Does ds s t) :
    m.Since (ds.foldl Gl.Given.after g) t ∧ ∀ d ∈ ds, m.Fares d := by
  -- on the deeds, with the frame `Since` carried from each to the next
  induction ds generalizing g s with
  | nil =>
    obtain rfl : s = t := hpath
    exact ⟨h, List.forall_mem_nil _⟩
  | cons d rest ih =>
    obtain ⟨next, hd, hrest⟩ := hpath
    obtain ⟨hnext, hfares⟩ := h.deed hadmits.1 hd
    obtain ⟨hend, hall⟩ := ih hnext hadmits.2 hrest
    exact ⟨hend, List.forall_mem_cons.2 ⟨hfares, hall⟩⟩

/-! ### Deletion -/

/-- None of the shaders behind those of `m` was deleted. -/
def Undeleted (m s : Memory) : Prop :=
  ∃ new, s.shaders = m.shaders ++ new ∧ ∀ a ∈ new, a.deleted = 0

/-- A change of a new shader that does not delete it. -/
theorem Undeleted.modify (h : m.Undeleted s) {i : Nat} (hi : m.shaders.length ≤ i)
    {f : Shader → Shader} (hf : ∀ a, (f a).deleted = a.deleted) :
    m.Undeleted { s with shaders := s.shaders.modify i f } := by
  obtain ⟨new, hnew, hdeleted⟩ := h
  refine ⟨new.modify (i - m.shaders.length) f, ?_, ?_⟩
  · rw [hnew, modify_append hi]
  · exact forall_mem_modify hdeleted (fun a ha => (hf a).trans ha) _

/-- Of all calls only a deletion deletes. -/
theorem Undeleted.effect (hundeleted : m.Undeleted s) (h : m.Since g s)
    {call : Gl.Call Nat Nat α} (hallows : g.Allows call) (hkeeps : nameOf call ≠ .deleteShader) :
    m.Undeleted (Memory.effect call s) := by
  cases call with
  | createShader stage =>
    obtain ⟨new, hnew, hdeleted⟩ := hundeleted
    refine ⟨new ++ [{ stage := stage }], ?_, ?_⟩
    · exact (congrArg (· ++ [{ stage := stage }]) hnew).trans (List.append_assoc ..)
    · intro a ha
      rcases List.mem_append.1 ha with ha | ha
      · exact hdeleted a ha
      · rw [List.mem_singleton.1 ha]
  | shaderSource i source =>
    exact hundeleted.modify (h.newShaders i (hallows.1 i List.mem_cons_self)).1 fun _ => rfl
  | compileShader i =>
    exact hundeleted.modify (h.newShaders i (hallows.1 i List.mem_cons_self)).1 fun _ => rfl
  | deleteShader i => exact absurd rfl hkeeps
  | _ => exact hundeleted

/-- A run without a deletion leaves the new shaders undeleted. -/
theorem Undeleted.run {ds : List (Gl.Deed Nat Nat Failure)} (hundeleted : m.Undeleted s)
    (h : m.Since g s) (hadmits : g.Admits ds) (hkeeps : ∀ d ∈ ds, d.isDeletion = false)
    (hpath : Path gl.Does ds s t) : m.Undeleted t := by
  induction ds generalizing g s with
  | nil =>
    obtain rfl : s = t := hpath
    exact hundeleted
  | cons d rest ih =>
    obtain ⟨next, hd, hrest⟩ := hpath
    -- a refused deed only adds to the record, and of the others none is a deletion
    have hnext : m.Undeleted next := by
      rcases does_cases (h.knows hadmits.1) hd with ⟨-, -, rfl⟩ | ⟨-, -, rfl⟩
      · exact hundeleted
      · have hentered : m.Undeleted (s.entered (nameOf d.call)) := hundeleted
        refine hentered.effect (h.entered _) hadmits.1 fun hname => ?_
        obtain ⟨call, result⟩ := d
        cases call with
        | deleteShader i => exact Bool.noConfusion (hkeeps _ List.mem_cons_self)
        | _ => cases hname
    exact ih hnext (h.deed hadmits.1 hd).1 hadmits.2
      (fun e he => hkeeps e (List.mem_cons_of_mem d he)) hrest

/-- What became of the shaders that were created: at most one of them was deleted, once, and it did
not compile. -/
def AtMostOneDeleted (new : List Shader) : Prop :=
  (∀ a ∈ new, a.deleted ≠ 0 → a.deleted = 1 ∧ a.compiled = false) ∧
    new.countP (fun a => a.deleted ≠ 0) ≤ 1

/-- Where none was deleted, at most one was. -/
theorem atMostOneDeleted_of_undeleted {new : List Shader} (h : ∀ a ∈ new, a.deleted = 0) :
    AtMostOneDeleted new := by
  refine ⟨fun a ha hne => absurd (h a ha) hne, ?_⟩
  rw [List.countP_eq_zero.2 fun a ha => by simp [h a ha]]
  exact Nat.zero_le 1

/-- Deleting one shader of several that were not deleted. -/
theorem atMostOneDeleted_modify {new : List Shader} (h : ∀ a ∈ new, a.deleted = 0) {i : Nat}
    (hi : i < new.length) (hcompiled : new[i].compiled = false) :
    AtMostOneDeleted (new.modify i fun a => { a with deleted := a.deleted + 1 }) := by
  -- the list around the shader that is changed
  obtain ⟨front, a, back, rfl, hlength, hmodify⟩ :=
    List.exists_of_modify (fun a : Shader => { a with deleted := a.deleted + 1 }) hi
  have ha : a.deleted = 0 := h a (by simp)
  have hfront : ∀ b ∈ front, b.deleted = 0 := fun b hb => h b (by simp [hb])
  have hback : ∀ b ∈ back, b.deleted = 0 := fun b hb => h b (by simp [hb])
  have hsame : a.compiled = false := by
    subst hlength
    simpa using hcompiled
  rw [hmodify]
  refine ⟨fun b hb hne => ?_, ?_⟩
  · rcases List.mem_append.1 hb with hb | hb
    · exact absurd (hfront b hb) hne
    rcases List.mem_cons.1 hb with rfl | hb
    · exact ⟨congrArg (· + 1) ha, hsame⟩
    · exact absurd (hback b hb) hne
  · -- the others count for nothing, whatever the changed one counts for
    have hnone : ∀ l : List Shader, (∀ b ∈ l, b.deleted = 0) →
        l.countP (fun b => b.deleted ≠ 0) = 0 := fun l hl =>
      List.countP_eq_zero.2 fun b hb => by simp [hl b hb]
    rw [List.countP_append, hnone front hfront, List.countP_cons, hnone back hback]
    split <;> simp

/-- Asking for a status or a log leaves the shaders alone. -/
theorem shaders_of_question {d : Gl.Deed Nat Nat Failure} (hknows : s.Knows d.call)
    (hd : gl.Does d s t) (hsame : (effect d.call s).shaders = s.shaders) :
    t.shaders = s.shaders := by
  rcases does_cases hknows hd with ⟨-, -, rfl⟩ | ⟨-, -, rfl⟩
  · rfl
  · obtain ⟨call, result⟩ := d
    cases call <;> exact hsame

/-- The end of a build that gives a shader up: the shader did not compile, and it is deleted unless
this is refused. -/
theorem shaders_of_givingUp {i : Nat} {log : Except Failure String} {deletion : Except Failure Unit}
    (h : m.Since g s) (hadmits : g.Admits (Gl.givingUp i log deletion))
    (hpath : Path gl.Does (Gl.givingUp i log deletion) s t) :
    s.compiledAt i = false ∧ (t.shaders = s.shaders ∨
      t.shaders = s.shaders.modify i fun a => { a with deleted := a.deleted + 1 }) := by
  obtain ⟨s₁, hstatus, s₂, hlog, s₃, hdelete, rfl⟩ := hpath
  obtain ⟨hfirst, hsecond, hthird, -⟩ := hadmits
  have hsince₁ := (h.deed hfirst hstatus).1
  have hsince₂ := (hsince₁.deed hsecond hlog).1
  have hkept : s₂.shaders = s.shaders :=
    (shaders_of_question (hsince₁.knows hsecond) hlog rfl).trans
      (shaders_of_question (h.knows hfirst) hstatus rfl)
  constructor
  · -- the status was read as false, and it is that of the shader
    rcases does_cases (h.knows hfirst) hstatus with ⟨-, hresult, -⟩ | ⟨-, hresult, -⟩
    · cases hresult
    · have hanswer : (compileStatus = compileStatus && s.compiledAt i) = false :=
        (Except.ok.inj hresult).symm
      simpa using hanswer
  · -- the two questions left the shaders alone, so only the deletion can have changed them
    rw [← hkept]
    rcases does_cases (hsince₂.knows hthird) hdelete with ⟨-, -, rfl⟩ | ⟨-, -, rfl⟩
    · exact .inl rfl
    · exact .inr rfl

/-- **At most one shader is deleted** in a run that deletes as a build does. -/
theorem Undeleted.atMostOne {ds : List (Gl.Deed Nat Nat Failure)} (hundeleted : m.Undeleted s)
    (h : m.Since g s) (hadmits : g.Admits ds) (hdeletes : Gl.DeletesLast ds)
    (hpath : Path gl.Does ds s t) :
    ∃ new, t.shaders = m.shaders ++ new ∧ AtMostOneDeleted new := by
  rcases hdeletes with hkeeps | ⟨front, i, log, deletion, rfl, hkeeps⟩
  · obtain ⟨new, hnew, hdeleted⟩ := hundeleted.run h hadmits hkeeps hpath
    exact ⟨new, hnew, atMostOneDeleted_of_undeleted hdeleted⟩
  -- up to the last three deeds nothing is deleted
  obtain ⟨s', hfront, hback⟩ := hpath.split
  obtain ⟨hfirst, hlast⟩ := Gl.Given.admits_append.1 hadmits
  obtain ⟨hsince, -⟩ := h.run hfirst hfront
  obtain ⟨new, hnew, hdeleted⟩ := hundeleted.run h hfirst hkeeps hfront
  obtain ⟨hcompiled, hsame | hmodify⟩ := shaders_of_givingUp hsince hlast hback
  · exact ⟨new, hsame.trans hnew, atMostOneDeleted_of_undeleted hdeleted⟩
  -- the shader that is deleted is one of the new ones
  obtain ⟨hbehind, hthere⟩ := hsince.newShaders i (hlast.1.1 i List.mem_cons_self)
  have hi : i - m.shaders.length < new.length := by
    rw [hnew, List.length_append] at hthere
    omega
  have hnewAt : new[i - m.shaders.length].compiled = false := by
    rw [compiledAt_of_lt hthere] at hcompiled
    simpa only [hnew, List.getElem_append_right hbehind] using hcompiled
  have hend := hmodify.trans (hnew ▸ modify_append hbehind _)
  exact ⟨_, hend, atMostOneDeleted_modify hdeleted hi hnewAt⟩

end GlBridge.Memory
