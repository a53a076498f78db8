import GlBridge.Proofs.Studio.Uploads

/-!
# The demonstration is safe with any executor

The executor answers what it likes, or not at all. `demo_is_safe` says what holds of the
demonstration all the same: each call that it issues is permitted at its place
(`Issued.Permitted`), nothing stays behind in the queue, each matrix goes out alone with its bytes,
and success means that nothing failed and everything was done (`Issued.Accomplished`).

The history of the run is cut where its course is: the building of the program (`Gl.Built` is what
is known behind it), the deletion of the shaders, the use of the program and the uploads. Each
stretch is permitted by what was found out in those before it, and what was found out stays as it
is because no later stretch asks again.
-/

namespace GlBridge

variable {σ : Type}

/-! ### The program -/

namespace Gl

variable {vertexSource fragmentSource : String} {l : LinkedProgram Handle Handle}
  {ds : List (Deed Handle Handle RemoteError)} {es front back : List Issued}

/-- What is known when a program was built: each object is what the executor answered, and all
that was asked about them was answered well. -/
structure Built (l : LinkedProgram Handle Handle) (es : List Issued) : Prop where
  names : Issued.Within ("createProgram" :: (makingNames ++ joiningNames)) es
  program : Issued.select "createProgram" es =
    [⟨.query "createProgram" [], some (.ok (.queryReply l.program.argument))⟩]
  shaders : Issued.select "createShader" es =
    [⟨.query "createShader" [.word Stage.vertex.glEnum],
        some (.ok (.queryReply l.vertex.argument))⟩,
      ⟨.query "createShader" [.word Stage.fragment.glEnum],
        some (.ok (.queryReply l.fragment.argument))⟩]
  compiled : Issued.verdicts "getShaderParameter" es = [some true, some true]
  linked : Issued.verdicts "getProgramParameter" es = [some true]

/-- **The building is permitted.** Where it fails, nothing may follow: it may have ended in the
deletion of a shader that did not compile. -/
theorem ProgramCourse.permitted {r : Except (ShaderError RemoteError) (LinkedProgram Handle Handle)}
    (h : ProgramCourse vertexSource fragmentSource ds r)
    (hs : Performed.ShownBy (ds.map .ofDeed) es) (hback : ∀ e, r = .error e → back = []) :
    Issued.PermittedBetween [] es back := by
  have hcreated : ∀ {r : Except RemoteError Handle} {cs : List Issued},
      (Performed.ofDeed ⟨.createProgram, r⟩).Shows cs → Issued.Within ["createProgram"] cs :=
    fun h => Deed.within_of_shows h
  cases h with
  | notCreated e => exact Issued.permittedBetween_of_free (hcreated hs.single) (by decide)
  | noVertex h =>
    obtain rfl := hback _ rfl
    cases hs with
    | cons hcreate hvertex =>
      refine .append (Issued.permittedBetween_of_free (hcreated hcreate) (by decide)) ?_
      exact h.permitted_of_error hvertex ((hcreated hcreate).select_eq_nil (by decide))
  | noFragment hvertex hfragment =>
    obtain rfl := hback _ rfl
    rw [List.map_cons, List.map_append] at hs
    cases hs with
    | cons hcreate hrest =>
      obtain ⟨vs, fs, rfl, hvs, hfs⟩ := hrest.split
      have hmaking := (hvertex.shown_of_ok hvs).1
      refine .append (Issued.permittedBetween_of_free (hcreated hcreate) (by decide)) ?_
      refine .append (Issued.permittedBetween_of_free hmaking (by decide)) ?_
      -- no shader was deleted so far
      refine hfragment.permitted_of_error hfs ?_
      rw [List.nil_append, Issued.select_append, hmaking.select_eq_nil (by decide),
        (hcreated hcreate).select_eq_nil (by decide)]
      rfl
  | joined hvertex hfragment hjoin =>
    rw [List.map_cons, List.map_append, List.map_append] at hs
    cases hs with
    | cons hcreate hrest =>
      obtain ⟨vs, rest, rfl, hvs, hrest⟩ := hrest.split
      obtain ⟨fs, js, rfl, hfs, hjs⟩ := hrest.split
      obtain ⟨hmakingVertex, -, hvertexCompiled⟩ := hvertex.shown_of_ok hvs
      obtain ⟨hmakingFragment, -, hfragmentCompiled⟩ := hfragment.shown_of_ok hfs
      refine .append (Issued.permittedBetween_of_free (hcreated hcreate) (by decide)) ?_
      refine .append (Issued.permittedBetween_of_free hmakingVertex (by decide)) ?_
      refine .append (Issued.permittedBetween_of_free hmakingFragment (by decide)) ?_
      refine Issued.permittedBetween_of_compiled (hjoin.within hjs) ?_
      rw [List.nil_append, Issued.verdicts_append, Issued.verdicts_append, hvertexCompiled,
        hfragmentCompiled, (hcreated hcreate).verdicts_eq_nil (by decide)]
      rfl

theorem ProgramCourse.built (h : ProgramCourse vertexSource fragmentSource ds (.ok l))
    (hs : Performed.ShownBy (ds.map .ofDeed) es) : Built l es := by
  cases h with
  | joined hvertex hfragment hjoin =>
    rw [List.map_cons, List.map_append, List.map_append] at hs
    cases hs with
    | cons hcreate hrest =>
      obtain ⟨vs, rest, rfl, hvs, hrest⟩ := hrest.split
      obtain ⟨fs, js, rfl, hfs, hjs⟩ := hrest.split
      obtain ⟨hmakingVertex, hvertexCreated, hvertexCompiled⟩ := hvertex.shown_of_ok hvs
      obtain ⟨hmakingFragment, hfragmentCreated, hfragmentCompiled⟩ := hfragment.shown_of_ok hfs
      obtain ⟨rfl, hlinked⟩ := hjoin.shown_of_ok hjs
      have hjoining := hjoin.within hjs
      obtain ⟨reply, rfl, hcreated⟩ := hcreate
      obtain ⟨v, rfl, rfl⟩ := hcreated (.handle _) rfl
      refine ⟨?_, ?_, ?_, ?_, ?_⟩
      · refine Issued.Within.append (fun e he => ?_) ?_
        · obtain rfl := List.mem_singleton.1 he
          exact List.mem_cons_self
        · refine (hmakingVertex.mono (by decide)).append ?_
          exact (hmakingFragment.mono (by decide)).append (hjoining.mono (by decide))
      -- in each of the rest, one or two of the four parts count
      · rw [Issued.select_append, Issued.select_append, Issued.select_append,
          hmakingVertex.select_eq_nil (by decide), hmakingFragment.select_eq_nil (by decide),
          hjoining.select_eq_nil (by decide)]
        rfl
      · rw [Issued.select_append, Issued.select_append, Issued.select_append, hvertexCreated,
          hfragmentCreated, hjoining.select_eq_nil (by decide)]
        rfl
      · rw [Issued.verdicts_append, Issued.verdicts_append, Issued.verdicts_append,
          hvertexCompiled, hfragmentCompiled, hjoining.verdicts_eq_nil (by decide)]
        rfl
      · rw [Issued.verdicts_append, Issued.verdicts_append, Issued.verdicts_append, hlinked,
          hmakingVertex.verdicts_eq_nil (by decide), hmakingFragment.verdicts_eq_nil (by decide)]
        rfl

/-- No call of a builder is an upload of a matrix. -/
theorem select_matrix_eq_nil (hs : Performed.ShownBy (ds.map .ofDeed) es) :
    Issued.select "uniformMatrix4fv" es = [] := by
  have hwithin : Issued.Within (ds.map fun d => d.call.name) es :=
    within_of_shownBy hs fun d hd => List.mem_map_of_mem hd
  refine hwithin.select_eq_nil fun hmem => ?_
  obtain ⟨d, -, hname⟩ := List.mem_map.1 hmem
  obtain ⟨call, r⟩ := d
  cases call <;> simp [Call.name] at hname

end Gl

/-! ### The course of the demonstration -/

/-- Using a program is one call. -/
theorem shows_of_use {program : Handle} {r : Except RemoteError Answer} {es : List Issued}
    (h : Performed.Shows ⟨.useProgram program, r⟩ es) :
    es = [⟨.exec "useProgram" [program.argument], none⟩] := h

/-- Its name is among those for a linked program. -/
theorem within_of_use {program : Handle} {r : Except RemoteError Answer} {es : List Issued}
    (h : Performed.Shows ⟨.useProgram program, r⟩ es) : Issued.Within usingNames es := by
  rw [shows_of_use h]
  intro e he
  obtain rfl := List.mem_singleton.1 he
  exact List.mem_cons_of_mem _ List.mem_cons_self

/-- Deeds that succeeded are operations that succeeded. -/
theorem succeeded_of_mem_ofDeed {deeds : List (Gl.Deed Handle Handle RemoteError)}
    (h : ∀ d ∈ deeds, d.Succeeded) {d : Performed} (hd : d ∈ deeds.map .ofDeed) :
    ∃ a, d.result = .ok a := by
  obtain ⟨deed, hdeed, rfl⟩ := List.mem_map.1 hd
  obtain ⟨a, ha⟩ := h deed hdeed
  exact ⟨deed.call.answer a, congrArg (Except.map deed.call.answer) ha⟩

/-- What was done when the demonstration succeeds. -/
structure Issued.Accomplished (l : LinkedProgram Handle Handle) (es : List Issued) : Prop where
  program : select "createProgram" es =
    [⟨.query "createProgram" [], some (.ok (.queryReply l.program.argument))⟩]
  shaders : select "createShader" es =
    [⟨.query "createShader" [.word Stage.vertex.glEnum],
        some (.ok (.queryReply l.vertex.argument))⟩,
      ⟨.query "createShader" [.word Stage.fragment.glEnum],
        some (.ok (.queryReply l.fragment.argument))⟩]
  compiled : verdicts "getShaderParameter" es = [some true, some true]
  linked : verdicts "getProgramParameter" es = [some true]
  /-- the vertex shader was deleted first -/
  deleted : select "deleteShader" es =
    [⟨.exec "deleteShader" [l.vertex.argument], none⟩,
      ⟨.exec "deleteShader" [l.fragment.argument], none⟩]
  used : select "useProgram" es = [⟨.exec "useProgram" [l.program.argument], none⟩]
  asked : (select "getUniformLocation" es).map Issued.call =
    Studio.uniforms.map fun u => .query "getUniformLocation" [l.program.argument, .string u.1]

namespace DemoCourse

variable {vertex fragment : String} {ds : List Performed} {r : Except Studio.DemoError Unit}
  {es : List Issued}

/-- **Every course of the demonstration is permitted.** -/
theorem permitted (h : DemoCourse vertex fragment ds r) (hs : Performed.ShownBy ds es) :
    Issued.PermittedBetween [] es [] := by
  cases h with
  | notBuilt h => exact h.permitted hs fun e he => rfl
  | notReleased h hrelease =>
    obtain ⟨bs, rs, rfl, hbs, hrs⟩ := hs.split
    have hbuilt := h.built hbs
    exact .append (h.permitted hbs fun e he => nomatch he) (hrelease.permitted hrs hbuilt.linked)
  | notUsed h hrelease e =>
    -- the release asks nothing about the program, so it is still the one that was found to be
    -- linked
    obtain ⟨bs, rest, rfl, hbs, hrest⟩ := hs.split
    obtain ⟨rs, us, rfl, hrs, hus⟩ := hrest.split
    have hbuilt := h.built hbs
    have hreleased : Issued.verdicts "getProgramParameter" (bs ++ rs) = [some true] :=
      ((hrelease.within hrs).verdicts_append (by decide) bs).trans hbuilt.linked
    refine .append (h.permitted hbs fun e he => nomatch he) ?_
    refine .append (hrelease.permitted hrs hbuilt.linked) ?_
    exact Issued.permittedBetween_of_linked (within_of_use hus.single) hreleased
  | used h hrelease huploads =>
    obtain ⟨bs, rest, rfl, hbs, hrest⟩ := hs.split
    obtain ⟨rs, rest, rfl, hrs, hrest⟩ := hrest.split
    cases hrest with
    | cons hus hups =>
      rename_i us ups
      have hbuilt := h.built hbs
      -- nobody asks about the program any more
      have hreleased : Issued.verdicts "getProgramParameter" (bs ++ rs) = [some true] :=
        ((hrelease.within hrs).verdicts_append (by decide) bs).trans hbuilt.linked
      have hused : Issued.verdicts "getProgramParameter" (bs ++ rs ++ us) = [some true] :=
        ((within_of_use hus).verdicts_append (by decide) (bs ++ rs)).trans hreleased
      refine .append (h.permitted hbs fun e he => nomatch he) ?_
      refine .append (hrelease.permitted hrs hbuilt.linked) ?_
      refine .append (Issued.permittedBetween_of_linked (within_of_use hus) hreleased) ?_
      exact huploads.permitted hups hused

/-- **A demonstration that succeeds did everything**, and no operation of it failed. -/
theorem accomplished (h : DemoCourse vertex fragment ds r) (hr : r = .ok ())
    (hs : Performed.ShownBy ds es) :
    (∃ l, Issued.Accomplished l es) ∧ ∀ d ∈ ds, ∃ a, d.result = .ok a := by
  cases h with
  | notBuilt h => cases hr
  | notReleased h hreleased => cases hr
  | notUsed h hreleased e => cases hr
  | used h hreleased huploads =>
    rename_i l uploads r
    have hr : r = .ok () := by
      cases r with
      | error e => cases hr
      | ok u => rfl
    obtain ⟨bs, rest, rfl, hbs, hrest⟩ := hs.split
    obtain ⟨rs, rest, rfl, hrs, hrest⟩ := hrest.split
    cases hrest with
    | cons hus hups =>
      have hbuilt := h.built hbs
      have huploading := huploads.within hups
      rw [shows_of_use hus, hreleased.shown_of_ok hrs]
      refine ⟨⟨l, ?_, ?_, ?_, ?_, ?_, ?_, ?_⟩, fun d hd => ?_⟩
      · rw [Issued.select_append, Issued.select_append, Issued.select_append, hbuilt.program,
          huploading.select_eq_nil (by decide)]
        rfl
      · rw [Issued.select_append, Issued.select_append, Issued.select_append, hbuilt.shaders,
          huploading.select_eq_nil (by decide)]
        rfl
      · rw [Issued.verdicts_append, Issued.verdicts_append, Issued.verdicts_append,
          hbuilt.compiled, huploading.verdicts_eq_nil (by decide)]
        rfl
      · rw [Issued.verdicts_append, Issued.verdicts_append, Issued.verdicts_append,
          hbuilt.linked, huploading.verdicts_eq_nil (by decide)]
        rfl
      -- what follows was not called before
      · rw [Issued.select_append, Issued.select_append, Issued.select_append,
          hbuilt.names.select_eq_nil (by decide), huploading.select_eq_nil (by decide)]
        rfl
      · rw [Issued.select_append, Issued.select_append, Issued.select_append,
          hbuilt.names.select_eq_nil (by decide), huploading.select_eq_nil (by decide)]
        rfl
      · rw [Issued.select_append, Issued.select_append, Issued.select_append,
          hbuilt.names.select_eq_nil (by decide)]
        exact huploads.asked_of_ok hr hups
      · simp only [List.mem_append, List.mem_cons] at hd
        rcases hd with hd | hd | rfl | hd
        · exact succeeded_of_mem_ofDeed h.succeeded hd
        · exact succeeded_of_mem_ofDeed hreleased.succeeded hd
        · exact ⟨_, rfl⟩
        · exact huploads.succeeded hr d hd

/-- The demonstration falls into a part without matrices and uploads. -/
theorem split (h : DemoCourse vertex fragment ds r) :
    ∃ front uploads, ds = front ++ uploads ∧
      (∀ es, Performed.ShownBy front es → Issued.select "uniformMatrix4fv" es = []) ∧
      ∀ d ∈ uploads, d.operation.IsUpload := by
  have hnone : ∀ d ∈ ([] : List Performed), d.operation.IsUpload :=
    fun d hd => absurd hd List.not_mem_nil
  have hused : ∀ {p r es}, Performed.Shows ⟨.useProgram p, r⟩ es →
      Issued.select "uniformMatrix4fv" es = [] := fun h => by
    rw [shows_of_use h]
    rfl
  have happend : ∀ {es fs : List Issued}, Issued.select "uniformMatrix4fv" es = [] →
      Issued.select "uniformMatrix4fv" fs = [] →
      Issued.select "uniformMatrix4fv" (es ++ fs) = [] := fun h h' => by
    rw [Issued.select_append, h, h']
    rfl
  cases h with
  | notBuilt h =>
    exact ⟨_, [], (List.append_nil _).symm, fun es hs => Gl.select_matrix_eq_nil hs, hnone⟩
  | notReleased h hreleased =>
    refine ⟨_, [], (List.append_nil _).symm, fun es hs => ?_, hnone⟩
    rw [← List.map_append] at hs
    exact Gl.select_matrix_eq_nil hs
  | notUsed h hreleased e =>
    refine ⟨_, [], (List.append_nil _).symm, fun es hs => ?_, hnone⟩
    rw [← List.append_assoc, ← List.map_append] at hs
    obtain ⟨fs, gs, rfl, hfs, hgs⟩ := hs.split
    exact happend (Gl.select_matrix_eq_nil hfs) (hused hgs.single)
  | used h hreleased huploads =>
    rename_i building releasing l uploads r
    refine ⟨(building ++ releasing).map .ofDeed ++ [⟨.useProgram l.program, .ok .done⟩], uploads,
      ?_, fun es hs => ?_, huploads.isUpload⟩
    · rw [List.map_append, List.append_assoc, List.append_assoc]
      rfl
    · obtain ⟨fs, gs, rfl, hfs, hgs⟩ := hs.split
      exact happend (Gl.select_matrix_eq_nil hfs) (hused hgs.single)

end DemoCourse

/-! ### The whole run -/

namespace Context

variable {tr : Transport σ} {c c' : Context (Observed σ)}

/-- The demonstration sends each matrix alone, since no chunk is open when it comes to them. -/
theorem resting_of_demo {vertex fragment : String} {ds : List Performed}
    {r : Except Studio.DemoError Unit} (h : DemoCourse vertex fragment ds r)
    (hpath : Path (Performed.Does tr.observed) ds c c') (hstart : c.history = [])
    (hsettled : c.Settled) (hdepth : c'.depth = 0) : c'.Resting := by
  obtain ⟨front, uploads, rfl, hfront, huploads⟩ := h.split
  -- `m` is where the uploads begin
  obtain ⟨m, hlead, hrest⟩ := hpath.split
  have hm : m.Settled := hlead.preserves (fun d _ s t hdoes hs =>
    hdoes.2 ▸ Operation.settled_perform tr.observed d.operation hs) hsettled
  -- uploads do not change the depth, and so it was the last one before them
  have hsame : c'.depth = m.depth := by
    refine hrest.preserves (P := fun s => s.depth = m.depth) (fun d hd s t hdoes hs => ?_) rfl
    obtain ⟨operation, r⟩ := d
    obtain ⟨-, rfl⟩ := hdoes
    cases huploads _ hd with
    | location program name => exact (Operation.depth_perform _ rfl s).trans hs
    | matrix location m => exact (Operation.depth_perform _ rfl s).trans hs
  have hresting : m.Resting := by
    refine ⟨hsame.symm.trans hdepth, hm, alone_of_history ?_⟩
    obtain ⟨es, hes, hshown⟩ := history_path hlead
    rw [hes, hstart]
    exact hfront es hshown
  exact hresting.uploads huploads hrest

end Context

/-- **The demonstration is safe with any executor.** Take any two sources and a new context over
any transport, with replies of any kind and a failure at any use. All calls that the demonstration
issues are handed over, and each is permitted by those before it and their answers. Each matrix is
handed over in a message of its own, with its 64 bytes as the only buffer. If the demonstration
succeeds, then no use of the transport failed, both shaders were found to compile and the program
to be linked, the two shaders were deleted in their order, and the program was used and asked
for each uniform. -/
theorem demo_is_safe (tr : Transport σ) (config : Config) (t : σ) (vertex fragment : String) :
    let run := Studio.run tr vertex fragment (Context.start config t)
    let observed :=
      Studio.run tr.observed vertex fragment (Context.start config t).underObservation
    let issued := observed.state.transport.exchanges.flatMap Exchange.issued
    run.state.pending = [] ∧
      (∀ before e after, issued = before ++ e :: after → Issued.Permitted before e after) ∧
      (∀ x ∈ observed.state.transport.exchanges, x.SendsMatrixAlone) ∧
      (run.result = .ok () →
        (∀ x ∈ observed.state.transport.exchanges, x.Succeeded) ∧
          ∃ l, Issued.Accomplished l issued) := by
  intro run observed issued
  let c := (Context.start config t).underObservation
  -- observed or not, the demonstration comes out the same
  obtain ⟨-, hagree⟩ := tr.observed_matches.lift.demo vertex fragment 0 c
    (Context.start config t) trivial
  obtain ⟨plain, -, hstate⟩ := (hagree ⟨t, rfl, rfl⟩).state
  have hresult : observed.result = run.result := (hagree ⟨t, rfl, rfl⟩).result
  obtain ⟨ds, hpath, hcourse⟩ := Studio.run_follows tr.observed vertex fragment c
  have hdepth : observed.state.depth = 0 :=
    ((Context.depth_matches tr.observed).demo vertex fragment).keeps 0 rfl
  have hresting : observed.state.Resting :=
    Context.resting_of_demo hcourse hpath rfl (Context.settled_start config _) hdepth
  -- nothing is held at the end, so the history is what was handed over
  obtain ⟨es, hes, hshown⟩ := Context.history_path hpath
  have hissued : issued = es := by
    have hhistory : observed.state.history = es := hes
    rw [← hhistory, Context.history, hresting.pending_eq_nil]
    exact (List.append_nil _).symm
  refine ⟨?_, ?_, hresting.alone, fun hok => ?_⟩
  · have hpending : run.state.pending = observed.state.pending := congrArg Context.pending hstate
    rw [hpending, hresting.pending_eq_nil]
  · rw [hissued]
    intro before e after heq
    have hpermitted := hcourse.permitted hshown before e after heq
    rwa [List.nil_append, List.append_nil] at hpermitted
  · obtain ⟨haccomplished, hoperations⟩ := hcourse.accomplished (hresult.trans hok) hshown
    rw [hissued]
    refine ⟨?_, haccomplished⟩
    -- each operation succeeded, and so each kept the record clean
    exact hpath.preserves (P := Context.Clean) (fun d hd s t hdoes hs => by
      obtain ⟨a, ha⟩ := hoperations d hd
      exact hs.performed hdoes ha) fun x hx => absurd hx List.not_mem_nil

/-- With an executor that answers everything, the demonstration succeeds. -/
example : (Studio.run DryRun.transport "void main" "void main"
    (Context.start {} DryRun.start)).result = .ok () := by
  rfl

end GlBridge
