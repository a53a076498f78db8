import GlBridge.Proofs.Remote.History

/-!
# When a call is permitted

`Issued.Permitted` is the order that a program owes an executor: shaders are joined once both were
found to compile, a program is used once it was found to be linked, and shaders are deleted when
they are no longer needed. It speaks about a call among those before it and those after it, so
what is shown of a stretch of calls (`Issued.PermittedBetween`) holds of it between any others
that leave the verdicts as they are.

The second half looks at the stretches that the shader builders issue, each for every course that
its builder can take: which names occur in it, and what was found out when it succeeded.
-/

namespace GlBridge

/-! ### The names of parts -/

/-- The calls by which a shader gets its source. -/
def uploadNames : List String := ["", "shaderSource", "compileShader"]

/-- The calls by which a shader is made, as long as it compiles. -/
def makingNames : List String := "createShader" :: "getShaderParameter" :: uploadNames

/-- The calls by which shaders become a program. -/
def linkingNames : List String := ["", "attachShader", "linkProgram"]

/-- The calls that there are once both shaders were made. -/
def joiningNames : List String := "getProgramParameter" :: "getProgramInfoLog" :: linkingNames

/-- The calls that there are once the program is linked, the matrices apart. -/
def usingNames : List String := ["deleteShader", "useProgram", "getUniformLocation"]

/-! ### What is permitted when -/

namespace Issued

/-- The calls of one name. -/
def select (op : String) (l : List Issued) : List Issued := l.filter fun e => e.call.op = op

/-- The answer as a truth value. -/
def verdict (e : Issued) : Option Bool :=
  match e.answer with
  | some (.ok (.queryReply v)) => v.truth.toOption
  | _ => none

/-- How the calls of one name were answered, as truth values. -/
def verdicts (op : String) (l : List Issued) : List (Option Bool) := (select op l).map verdict

/-- The call may be issued behind those before it and in front of those after it. -/
structure Permitted (before : List Issued) (e : Issued) (after : List Issued) : Prop where
  /-- shaders are joined once both were found to compile -/
  joins : e.call.op = "attachShader" ∨ e.call.op = "linkProgram" →
    verdicts "getShaderParameter" before = [some true, some true]
  /-- a program is used once it was found to be linked -/
  uses : e.call.op = "useProgram" ∨ e.call.op = "getUniformLocation" ∨
      e.call.op = "uniformMatrix4fv" →
    verdicts "getProgramParameter" before = [some true]
  /-- and a shader is deleted then, or if that very shader did not compile, and then as the last
  thing and for the only time -/
  deletes : e.call.op = "deleteShader" →
    verdicts "getProgramParameter" before = [some true] ∨
      after = [] ∧ select "deleteShader" before = [] ∧
        ∃ status ∈ before, status.call.op = "getShaderParameter" ∧
          status.call.args.head? = e.call.args.head? ∧ status.verdict = some false
  /-- a matrix goes to the location that the call just before was answered with -/
  uploads : e.call.op = "uniformMatrix4fv" →
    ∃ earlier location key, before = earlier ++ [location] ∧
      location.call.op = "getUniformLocation" ∧
      location.answer = some (.ok (.queryReply (.string key))) ∧
      e.call.args.head? = some (.string key)

/-- The names that are permitted at any time. -/
def IsFree (op : String) : Prop :=
  op ∉ ["attachShader", "linkProgram", "useProgram", "getUniformLocation", "uniformMatrix4fv",
    "deleteShader"]

instance : DecidablePred IsFree := fun op => inferInstanceAs (Decidable (op ∉ _))

/-- A call of such a name is permitted wherever it stands. -/
theorem permitted_of_free {e : Issued} (h : IsFree e.call.op) (before after : List Issued) :
    Permitted before e after := by
  simp only [IsFree, List.mem_cons, List.not_mem_nil, or_false, not_or] at h
  obtain ⟨hattach, hlink, huse, hlocation, hmatrix, hdelete⟩ := h
  exact ⟨fun h => absurd h (not_or.2 ⟨hattach, hlink⟩),
    fun h => absurd h (not_or.2 ⟨huse, not_or.2 ⟨hlocation, hmatrix⟩⟩),
    fun h => absurd h hdelete, fun h => absurd h hmatrix⟩

/-! ### Names and verdicts of parts -/

/-- Every call has one of these names. -/
def Within (ops : List String) (l : List Issued) : Prop := ∀ e ∈ l, e.call.op ∈ ops

variable {ops : List String} {op : String} {l l' : List Issued}

@[simp] theorem select_append : select op (l ++ l') = select op l ++ select op l' :=
  List.filter_append ..

@[simp] theorem verdicts_append : verdicts op (l ++ l') = verdicts op l ++ verdicts op l' := by
  rw [verdicts, select_append, List.map_append]
  rfl

/-- There are no calls of a name that does not occur. -/
theorem Within.select_eq_nil (h : Within ops l) (hop : op ∉ ops) : select op l = [] := by
  refine List.filter_eq_nil_iff.2 fun e he heq => hop ?_
  rw [← of_decide_eq_true heq]
  exact h e he

/-- Calls of other names give no verdicts. -/
theorem Within.verdicts_eq_nil (h : Within ops l) (hop : op ∉ ops) : verdicts op l = [] := by
  rw [verdicts, h.select_eq_nil hop]
  rfl

/-- Calls of other names leave the verdicts as they are. -/
theorem Within.verdicts_append (h : Within ops l') (hop : op ∉ ops) (l : List Issued) :
    verdicts op (l ++ l') = verdicts op l := by
  rw [Issued.verdicts_append, h.verdicts_eq_nil hop, List.append_nil]

theorem Within.append (h : Within ops l) (h' : Within ops l') : Within ops (l ++ l') := by
  intro e he
  rcases List.mem_append.1 he with he | he
  · exact h e he
  · exact h' e he

theorem Within.mono (h : Within ops l) {ops' : List String} (hops : ∀ op ∈ ops, op ∈ ops') :
    Within ops' l :=
  fun e he => hops _ (h e he)

/-! ### Stretches of calls -/

/-- These calls may be issued in order, behind `front` and in front of `back`. -/
def PermittedBetween (front l back : List Issued) : Prop :=
  ∀ before e after, l = before ++ e :: after → Permitted (front ++ before) e (after ++ back)

variable {front back : List Issued}

/-- **Stretches are put together**: each may count on what stands before it and behind it. -/
theorem PermittedBetween.append (h : PermittedBetween front l (l' ++ back))
    (h' : PermittedBetween (front ++ l) l' back) : PermittedBetween front (l ++ l') back := by
  intro before e after heq
  -- the call is in the second part, or in the first
  rcases List.append_eq_append_iff.1 heq with ⟨mid, rfl, hmid⟩ | ⟨mid, rfl, hmid⟩
  · rw [← List.append_assoc]
    exact h' mid e after hmid
  · cases mid with
    | nil =>
      -- nothing of the first part is left behind the cut, so the call is the first of the second
      rw [List.append_nil] at h'
      have hfirst := h' [] e after hmid.symm
      rwa [List.append_nil] at hfirst
    | cons e' mid =>
      obtain ⟨rfl, rfl⟩ := List.cons.inj hmid
      have hinside := h before e mid rfl
      rw [← List.append_assoc] at hinside
      exact hinside

theorem permittedBetween_nil : PermittedBetween front [] back :=
  fun before _ _ heq => absurd heq (by simp)

/-- A stretch of one call is permitted if the call is. -/
theorem permittedBetween_single {e : Issued} (h : Permitted front e back) :
    PermittedBetween front [e] back := by
  intro before e' after heq
  obtain ⟨rfl, hrest⟩ | ⟨mid, rfl, hmid⟩ := List.cons_eq_append_iff.1 heq
  · obtain ⟨rfl, rfl⟩ := List.cons.inj hrest
    rwa [List.append_nil]
  · exact absurd hmid (by simp)

/-- A stretch of calls that are permitted at any time is permitted anywhere. -/
theorem permittedBetween_of_free (h : Within ops l) (hops : ∀ op ∈ ops, IsFree op) :
    PermittedBetween front l back := by
  rintro before e after rfl
  exact permitted_of_free (hops _ (h e (by simp))) _ _

/-- Once both shaders were found to compile, they may be joined. -/
theorem permittedBetween_of_compiled (h : Within joiningNames l)
    (hfront : verdicts "getShaderParameter" front = [some true, some true]) :
    PermittedBetween front l back := by
  rintro before e after rfl
  have hbefore : Within joiningNames before := fun e' he' => h e' (List.mem_append_left _ he')
  have hop : e.call.op ∈ joiningNames := h e (by simp)
  refine ⟨fun _ => ?_, fun huse => ?_, fun hdelete => ?_, fun hmatrix => ?_⟩
  · rw [hbefore.verdicts_append (by decide)]
    exact hfront
  -- none of the other names occurs when shaders are joined
  · rcases huse with huse | huse | huse
    all_goals exact absurd (huse ▸ hop) (by decide)
  · exact absurd (hdelete ▸ hop) (by decide)
  · exact absurd (hmatrix ▸ hop) (by decide)

/-- Once the program was found to be linked, it may be used and its shaders deleted. -/
theorem permittedBetween_of_linked (h : Within usingNames l)
    (hfront : verdicts "getProgramParameter" front = [some true]) :
    PermittedBetween front l back := by
  rintro before e after rfl
  have hbefore : Within usingNames before := fun e' he' => h e' (List.mem_append_left _ he')
  have hlinked : verdicts "getProgramParameter" (front ++ before) = [some true] := by
    rw [hbefore.verdicts_append (by decide)]
    exact hfront
  have hop : e.call.op ∈ usingNames := h e (by simp)
  refine ⟨fun hjoin => ?_, fun _ => hlinked, fun _ => .inl hlinked, fun hmatrix => ?_⟩
  · rcases hjoin with hjoin | hjoin
    all_goals exact absurd (hjoin ▸ hop) (by decide)
  · exact absurd (hmatrix ▸ hop) (by decide)

end Issued

/-! ### The calls of the builders -/

namespace Gl

/-- The name under which a call of the device is sent, if it is sent. -/
def Call.name {α : Type} : Call Handle Handle α → String
  | .createShader _ => "createShader"
  | .createProgram => "createProgram"
  | .shaderSource _ _ => "shaderSource"
  | .compileShader _ => "compileShader"
  | .attachShader _ _ => "attachShader"
  | .linkProgram _ => "linkProgram"
  | .shaderParameter _ _ => "getShaderParameter"
  | .programParameter _ _ => "getProgramParameter"
  | .shaderInfoLog _ => "getShaderInfoLog"
  | .programInfoLog _ => "getProgramInfoLog"
  | .deleteShader _ => "deleteShader"
  | .beginChunk => ""
  | .endChunk => ""

/-- A deed shows calls of its own name only. -/
theorem Deed.within_of_shows {d : Deed Handle Handle RemoteError} {es : List Issued}
    (h : (Performed.ofDeed d).Shows es) : Issued.Within [d.call.name] es := by
  intro e he
  obtain ⟨p, hp, hname⟩ := h.name he
  obtain ⟨call, r⟩ := d
  rw [List.mem_singleton]
  cases call with
  | shaderSource shader source =>
    -- a source that is refused shows nothing
    obtain ⟨-, rfl⟩ := Operation.shaderSource_of_ok hp
    exact (Option.some.inj hname).symm
  | beginChunk => cases hp; cases hname
  | endChunk => cases hp; cases hname
  | _ => cases hp; exact (Option.some.inj hname).symm

/-- The names that deeds show are among their own. -/
theorem within_of_shownBy {ds : List (Deed Handle Handle RemoteError)} {es : List Issued}
    (h : Performed.ShownBy (ds.map .ofDeed) es) {ops : List String}
    (hops : ∀ d ∈ ds, d.call.name ∈ ops) : Issued.Within ops es := by
  induction ds generalizing es with
  | nil =>
    cases h with
    | nil => exact fun e he => absurd he List.not_mem_nil
  | cons d rest ih =>
    cases h with
    | cons hd hrest =>
      refine Issued.Within.append ?_ (ih hrest fun d' hd' => hops d' (List.mem_cons_of_mem d hd'))
      refine (Deed.within_of_shows hd).mono fun op hop => ?_
      rw [List.mem_singleton.1 hop]
      exact hops d List.mem_cons_self

/-! ### One shader -/

/-- The upload of a source has the names of an upload, wherever it ends. -/
theorem UploadCourse.names {shader : Handle} {source : String}
    {ds : List (Deed Handle Handle RemoteError)} {r : Except RemoteError Unit}
    (h : UploadCourse shader source ds r) : ∀ d ∈ ds, d.call.name ∈ uploadNames := by
  cases h <;> simp [inChunk, Call.name, uploadNames]

/-- A status that was read is the verdict of its entry. -/
theorem verdict_of_status {call : Instruction} {reply : Except RemoteError Reply}
    {r : Except RemoteError Bool} {b : Bool} (hr : r = .ok b)
    (h : ∀ a, r.map Answer.status = .ok a → ∃ v, reply = .ok (.queryReply v) ∧ a.ReadFrom v) :
    (Issued.mk call (some reply)).verdict = some b := by
  subst hr
  obtain ⟨v, rfl, hv⟩ := h (.status b) rfl
  -- the status was read from the value in the entry, as the verdict is
  have htruth : v.truth = .ok b := hv
  simp only [Issued.verdict, htruth]
  rfl

/-- **A shader that was accepted** was created once and found to compile once. -/
theorem ShaderCourse.shown_of_ok {source : String} {stage : Stage} {shader : Handle}
    {ds : List (Deed Handle Handle RemoteError)} {es : List Issued}
    (h : ShaderCourse source stage ds (.ok shader))
    (hs : Performed.ShownBy (ds.map .ofDeed) es) :
    Issued.Within makingNames es ∧
      Issued.select "createShader" es =
        [⟨.query "createShader" [.word stage.glEnum], some (.ok (.queryReply shader.argument))⟩] ∧
      Issued.verdicts "getShaderParameter" es = [some true] := by
  cases h with
  | rejected _ hreject => cases hreject
  | accepted hupload =>
    rw [List.map_cons, List.map_append] at hs
    cases hs with
    | cons hcreate hs =>
      obtain ⟨up, last, rfl, hup, hlast⟩ := hs.split
      obtain ⟨created, rfl, hcreated⟩ := hcreate
      obtain ⟨status, rfl, hstatus⟩ := hlast.single
      obtain ⟨v, rfl, rfl⟩ := hcreated (.handle shader) rfl
      -- the upload in the middle neither creates a shader nor asks about one
      have hwithin : Issued.Within uploadNames up := within_of_shownBy hup hupload.names
      refine ⟨?_, ?_, ?_⟩
      · intro e he
        simp only [List.mem_append, List.mem_cons, List.not_mem_nil, or_false] at he
        rcases he with rfl | he | rfl
        · exact List.mem_cons_self
        · exact List.mem_cons_of_mem _ (List.mem_cons_of_mem _ (hwithin e he))
        · exact List.mem_cons_of_mem _ List.mem_cons_self
      · rw [Issued.select_append, Issued.select_append, hwithin.select_eq_nil (by decide)]
        rfl
      · rw [Issued.verdicts_append, Issued.verdicts_append, hwithin.verdicts_eq_nil (by decide)]
        exact congrArg (fun b => [b]) (verdict_of_status rfl hstatus)

/-- Whether or not the log could be read, the shader is deleted after it. -/
theorem RejectCourse.shown {shader : Handle} {stage : Stage}
    {r : Except (ShaderError RemoteError) Handle}
    {ds : List (Deed Handle Handle RemoteError)} {es : List Issued}
    (h : RejectCourse shader stage ds r) (hs : Performed.ShownBy (ds.map .ofDeed) es) :
    ∃ log, log.call.op = "getShaderInfoLog" ∧
      es = [log, ⟨.exec "deleteShader" [shader.argument], none⟩] := by
  have hboth : ∀ reading deletion, Performed.ShownBy
      ([⟨.shaderInfoLog shader, reading⟩, ⟨.deleteShader shader, deletion⟩].map .ofDeed) es →
      ∃ log, log.call.op = "getShaderInfoLog" ∧
        es = [log, ⟨.exec "deleteShader" [shader.argument], none⟩] := by
    intro reading deletion hshown
    cases hshown with
    | cons hlog hdelete =>
      obtain ⟨reply, rfl, -⟩ := hlog
      have hdelete : _ = [Issued.mk (.exec "deleteShader" [shader.argument]) none] :=
        hdelete.single
      exact ⟨_, rfl, congrArg (_ :: ·) hdelete⟩
  cases h with
  | deleted log => exact hboth _ _ hs
  | kept log e => exact hboth _ _ hs
  | unread e deletion => exact hboth _ _ hs

/-- The last calls for a shader that does not compile: its status, its log and its deletion. -/
structure Rejection (earlier : List Issued) (status log deletion : Issued) : Prop where
  making : Issued.Within makingNames earlier
  asked : status.call.op = "getShaderParameter"
  refused : status.verdict = some false
  logged : log.call.op = "getShaderInfoLog"
  deleted : deletion.call.op = "deleteShader"
  same : status.call.args.head? = deletion.call.args.head?

/-- **A shader that was rejected may be deleted**, if no shader was deleted before. -/
theorem Rejection.permitted {front earlier : List Issued} {status log deletion : Issued}
    (h : Rejection earlier status log deletion)
    (hfront : Issued.select "deleteShader" front = []) :
    Issued.PermittedBetween front (earlier ++ [status, log, deletion]) [] := by
  -- up to the log no shader is deleted
  have hlead : Issued.Within ("getShaderInfoLog" :: makingNames) (earlier ++ [status, log]) := by
    refine Issued.Within.append (h.making.mono fun op => List.mem_cons_of_mem _) ?_
    intro e he
    simp only [List.mem_cons, List.not_mem_nil, or_false] at he
    rcases he with rfl | rfl
    · rw [h.asked]
      decide
    · rw [h.logged]
      decide
  have hsplit : earlier ++ [status, log, deletion] = earlier ++ [status, log] ++ [deletion] := by
    rw [List.append_assoc]
    rfl
  have hdeletion : Issued.Permitted (front ++ (earlier ++ [status, log])) deletion [] := by
    -- this is the deletion of that very shader, and the first one
    refine ⟨fun hjoin => ?_, fun huse => ?_, fun _ => .inr ⟨rfl, ?_, ?_⟩, fun hmatrix => ?_⟩
    · rw [h.deleted] at hjoin
      exact absurd hjoin (by decide)
    · rw [h.deleted] at huse
      exact absurd huse (by decide)
    · rw [Issued.select_append, hfront, hlead.select_eq_nil (by decide)]
      rfl
    · exact ⟨status, by simp, h.asked, h.same, h.refused⟩
    · rw [h.deleted] at hmatrix
      exact absurd hmatrix (by decide)
  rw [hsplit]
  exact .append (Issued.permittedBetween_of_free hlead (by decide))
    (Issued.permittedBetween_single hdeletion)

/-- A course that fails is permitted, whether or not it comes to a deletion. -/
theorem ShaderCourse.permitted_of_error {source : String} {stage : Stage}
    {e : ShaderError RemoteError} {ds : List (Deed Handle Handle RemoteError)}
    {front es : List Issued} (h : ShaderCourse source stage ds (.error e))
    (hs : Performed.ShownBy (ds.map .ofDeed) es)
    (hfront : Issued.select "deleteShader" front = []) : Issued.PermittedBetween front es [] := by
  -- up to the status, only names of the making occur
  have hmaking : ∀ {shader upload r}, UploadCourse shader source upload r →
      ∀ d ∈ (⟨.createShader stage, .ok shader⟩ :: upload : List (Deed Handle Handle RemoteError)),
        d.call.name ∈ makingNames := by
    intro shader upload r h d hd
    rcases List.mem_cons.1 hd with rfl | hd
    · exact List.mem_cons_self
    · exact List.mem_cons_of_mem _ (List.mem_cons_of_mem _ (h.names d hd))
  have hfree : (∀ d ∈ ds, d.call.name ∈ makingNames) → Issued.PermittedBetween front es [] :=
    fun hnames => Issued.permittedBetween_of_free (within_of_shownBy hs hnames) (by decide)
  cases h with
  | notCreated e =>
    refine hfree fun d hd => ?_
    rw [List.mem_singleton.1 hd]
    exact List.mem_cons_self
  | notUploaded h => exact hfree (hmaking h)
  | noStatus h e =>
    refine hfree fun d hd => ?_
    rw [← List.cons_append] at hd
    rcases List.mem_append.1 hd with hd | hd
    · exact hmaking h d hd
    · rw [List.mem_singleton.1 hd]
      exact List.mem_cons_of_mem _ List.mem_cons_self
  | rejected h hreject =>
    -- the last three calls are those of a rejection
    rw [← List.cons_append, List.map_append] at hs
    obtain ⟨earlier, back, rfl, hearlier, hback⟩ := hs.split
    cases hback with
    | cons hstatus hback =>
      obtain ⟨reply, rfl, hstatus⟩ := hstatus
      obtain ⟨log, hlog, rfl⟩ := hreject.shown hback
      refine Rejection.permitted ?_ hfront
      exact ⟨within_of_shownBy hearlier (hmaking h), rfl, verdict_of_status rfl hstatus, hlog, rfl,
        rfl⟩

/-! ### The program -/

/-- Linking has the names of linking, wherever it ends. -/
theorem LinkingCourse.names {program vertex fragment : Handle}
    {ds : List (Deed Handle Handle RemoteError)} {r : Except RemoteError Unit}
    (h : LinkingCourse program vertex fragment ds r) : ∀ d ∈ ds, d.call.name ∈ linkingNames := by
  cases h <;> simp [inChunk, Call.name, linkingNames]

/-- Joining has the names of joining, wherever it ends. -/
theorem JoinCourse.within {program vertex fragment : Handle}
    {r : Except (ShaderError RemoteError) (LinkedProgram Handle Handle)}
    {ds : List (Deed Handle Handle RemoteError)} {es : List Issued}
    (h : JoinCourse program vertex fragment ds r)
    (hs : Performed.ShownBy (ds.map .ofDeed) es) : Issued.Within joiningNames es := by
  have hlinking : ∀ {linking r}, LinkingCourse program vertex fragment linking r →
      ∀ d ∈ linking, (d : Deed Handle Handle RemoteError).call.name ∈ joiningNames :=
    fun h d hd => List.mem_cons_of_mem _ (List.mem_cons_of_mem _ (h.names d hd))
  refine within_of_shownBy hs fun d hd => ?_
  cases h with
  | notLinked h => exact hlinking h d hd
  | noStatus h e =>
    rcases List.mem_append.1 hd with hd | hd
    · exact hlinking h d hd
    · rw [List.mem_singleton.1 hd]
      exact List.mem_cons_self
  | linked h =>
    rcases List.mem_append.1 hd with hd | hd
    · exact hlinking h d hd
    · rw [List.mem_singleton.1 hd]
      exact List.mem_cons_self
  | rejected h log =>
    simp only [List.mem_append, List.mem_cons, List.not_mem_nil, or_false] at hd
    rcases hd with hd | rfl | rfl
    · exact hlinking h d hd
    · exact List.mem_cons_self
    · exact List.mem_cons_of_mem _ List.mem_cons_self
  | unread h e =>
    simp only [List.mem_append, List.mem_cons, List.not_mem_nil, or_false] at hd
    rcases hd with hd | rfl | rfl
    · exact hlinking h d hd
    · exact List.mem_cons_self
    · exact List.mem_cons_of_mem _ List.mem_cons_self

/-- A program that is delivered was found to be linked, with the shaders that were joined. -/
theorem JoinCourse.shown_of_ok {program vertex fragment : Handle} {l : LinkedProgram Handle Handle}
    {ds : List (Deed Handle Handle RemoteError)} {es : List Issued}
    (h : JoinCourse program vertex fragment ds (.ok l))
    (hs : Performed.ShownBy (ds.map .ofDeed) es) :
    l = ⟨program, vertex, fragment⟩ ∧ Issued.verdicts "getProgramParameter" es = [some true] := by
  cases h with
  | linked h =>
    rw [List.map_append] at hs
    obtain ⟨front, back, rfl, hfront, hback⟩ := hs.split
    obtain ⟨reply, rfl, hstatus⟩ := hback.single
    have hwithin : Issued.Within linkingNames front := within_of_shownBy hfront h.names
    refine ⟨rfl, ?_⟩
    rw [Issued.verdicts_append, hwithin.verdicts_eq_nil (by decide)]
    exact congrArg (fun b => [b]) (verdict_of_status rfl hstatus)

/-! ### Accepted shaders -/

/-- All that is released are shaders. -/
theorem ReleaseCourse.within {l : LinkedProgram Handle Handle} {r : Except RemoteError Handle}
    {ds : List (Deed Handle Handle RemoteError)} {es : List Issued} (h : ReleaseCourse l ds r)
    (hs : Performed.ShownBy (ds.map .ofDeed) es) : Issued.Within ["deleteShader"] es := by
  refine within_of_shownBy hs ?_
  cases h <;> simp [Call.name]

/-- **Accepted shaders may be deleted**, as the program was found to be linked. -/
theorem ReleaseCourse.permitted {l : LinkedProgram Handle Handle} {r : Except RemoteError Handle}
    {ds : List (Deed Handle Handle RemoteError)} {front es back : List Issued}
    (h : ReleaseCourse l ds r) (hs : Performed.ShownBy (ds.map .ofDeed) es)
    (hfront : Issued.verdicts "getProgramParameter" front = [some true]) :
    Issued.PermittedBetween front es back :=
  Issued.permittedBetween_of_linked ((h.within hs).mono (by decide)) hfront

/-- If the release succeeds, each of the two shaders was deleted once. -/
theorem ReleaseCourse.shown_of_ok {l : LinkedProgram Handle Handle} {program : Handle}
    {ds : List (Deed Handle Handle RemoteError)} {es : List Issued}
    (h : ReleaseCourse l ds (.ok program)) (hs : Performed.ShownBy (ds.map .ofDeed) es) :
    es = [⟨.exec "deleteShader" [l.vertex.argument], none⟩,
      ⟨.exec "deleteShader" [l.fragment.argument], none⟩] := by
  cases h with
  | released =>
    cases hs with
    | cons hvertex hrest =>
      have hvertex : _ = [Issued.mk (.exec "deleteShader" [l.vertex.argument]) none] := hvertex
      have hfragment : _ = [Issued.mk (.exec "deleteShader" [l.fragment.argument]) none] :=
        hrest.single
      rw [hvertex, hfragment]
      rfl

end Gl

end GlBridge
