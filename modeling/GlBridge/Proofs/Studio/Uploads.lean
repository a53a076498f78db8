import GlBridge.Proofs.Remote.Depth
import GlBridge.Proofs.Remote.Meaning
import GlBridge.Proofs.Studio.Permission

/-!
# The uploads of matrices

What an upload to a uniform issues: it asks for the location, and only when there is one it sends
the matrix there (`UniformCourse.permitted`). Behind the last chunk nothing is held, and so each
matrix goes out in a message of its own, with its bytes and nothing else
(`Exchange.SendsMatrixAlone`, `Context.Resting.upload`).
-/

namespace GlBridge

variable {σ : Type}

/-! ### Where matrices go -/

/-- The calls of an upload. -/
def uploadingNames : List String := ["getUniformLocation", "uniformMatrix4fv"]

/-- The question for a location shows a call of that name, or nothing if it is refused. -/
theorem within_of_location {program : Handle} {name : String} {r : Except RemoteError Answer}
    {es : List Issued} (h : Performed.Shows ⟨.getUniformLocation program name, r⟩ es) :
    Issued.Within ["getUniformLocation"] es := by
  intro e he
  obtain ⟨p, hp, hname⟩ := h.name he
  obtain ⟨-, rfl⟩ := Operation.getUniformLocation_of_ok hp
  exact List.mem_singleton.2 (Option.some.inj hname).symm

/-- An answer to the question for a location is the answer in the entry. -/
theorem shows_of_location {program : Handle} {name : String} {location : Option Handle}
    {es : List Issued}
    (h : Performed.Shows ⟨.getUniformLocation program name, .ok (.location location)⟩ es) :
    ∃ v, (Answer.location location).ReadFrom v ∧
      es = [⟨.query "getUniformLocation" [program.argument, .string name],
        some (.ok (.queryReply v))⟩] := by
  unfold Performed.Shows at h
  cases hname : isReference name with
  | true =>
    -- a name that is refused is not answered
    rw [Operation.primitive_getUniformLocation, if_pos hname] at h
    cases h.2
  | false =>
    rw [Operation.primitive_getUniformLocation, if_neg (Bool.eq_false_iff.1 hname)] at h
    obtain ⟨reply, rfl, hreply⟩ := h
    obtain ⟨v, rfl, hv⟩ := hreply _ rfl
    exact ⟨v, hv, rfl⟩

/-- A matrix is one call, and its arguments do not depend on the matrix. -/
theorem shows_of_matrix {location : Handle} {m : Mat4 Single} {r : Except RemoteError Answer}
    {es : List Issued} (h : Performed.Shows ⟨.uniformMatrix location m, r⟩ es) :
    es = [⟨.exec "uniformMatrix4fv"
      [location.argument, .bool false, ElementType.float32.argument], none⟩] := h

namespace UniformCourse

variable {program : Handle} {name : String} {m : Mat4 Single} {ds : List Performed}
  {r : Except RemoteError Unit} {es front back : List Issued}

/-- An upload asks for a location and sends a matrix, and does nothing else. -/
theorem within (h : UniformCourse program name m ds r) (hs : Performed.ShownBy ds es) :
    Issued.Within uploadingNames es := by
  have hmono : ∀ op ∈ ["getUniformLocation"], op ∈ uploadingNames := by decide
  cases h with
  | unlocated e => exact (within_of_location hs.single).mono hmono
  | inactive => exact (within_of_location hs.single).mono hmono
  | located location r =>
    cases hs with
    | cons hlocation hmatrix =>
      refine ((within_of_location hlocation).mono hmono).append ?_
      rw [shows_of_matrix hmatrix.single]
      intro e he
      obtain rfl := List.mem_singleton.1 he
      exact List.mem_cons_of_mem _ List.mem_cons_self

/-- A matrix goes to the location that was asked for just before; where there is none, no matrix
is sent. -/
theorem permitted (h : UniformCourse program name m ds r) (hs : Performed.ShownBy ds es)
    (hfront : Issued.verdicts "getProgramParameter" front = [some true]) :
    Issued.PermittedBetween front es back := by
  have hasked : ∀ {r es back}, Performed.Shows ⟨.getUniformLocation program name, r⟩ es →
      Issued.PermittedBetween front es back := fun hshows =>
    Issued.permittedBetween_of_linked ((within_of_location hshows).mono (by decide)) hfront
  cases h with
  | unlocated e => exact hasked hs.single
  | inactive => exact hasked hs.single
  | located location r =>
    cases hs with
    | cons hlocation hmatrix =>
      rw [shows_of_matrix hmatrix.single]
      refine (hasked hlocation).append (Issued.permittedBetween_single ?_)
      refine ⟨fun hjoin => ?_, fun _ => ?_, fun hdelete => ?_, fun _ => ?_⟩
      · exact absurd hjoin (by simp [Instruction.exec])
      · exact ((within_of_location hlocation).verdicts_append (by decide) front).trans hfront
      · exact absurd hdelete (by simp [Instruction.exec])
      · obtain ⟨v, rfl, rfl⟩ := shows_of_location hlocation
        exact ⟨front, _, location.key, rfl, rfl, rfl, rfl⟩

/-- An upload that succeeds has asked for its uniform. -/
theorem asked_of_ok (h : UniformCourse program name m ds (.ok ())) (hs : Performed.ShownBy ds es) :
    (Issued.select "getUniformLocation" es).map Issued.call =
      [.query "getUniformLocation" [program.argument, .string name]] := by
  cases h with
  | inactive =>
    obtain ⟨v, -, rfl⟩ := shows_of_location hs.single
    rfl
  | located location =>
    cases hs with
    | cons hlocation hmatrix =>
      obtain ⟨v, -, rfl⟩ := shows_of_location hlocation
      rw [shows_of_matrix hmatrix.single]
      rfl

/-- No operation of an upload that succeeds has failed. -/
theorem succeeded (h : UniformCourse program name m ds (.ok ())) :
    ∀ d ∈ ds, ∃ a, d.result = .ok a := by
  cases h with
  | inactive => simp
  | located location => simp [Except.map]

end UniformCourse

namespace UniformsCourse

variable {program : Handle} {us : List (String × Mat4 Single)} {ds : List Performed}
  {r : Except RemoteError Unit} {es front back : List Issued}

/-- Uploads ask for locations and send matrices, and do nothing else. -/
theorem within (h : UniformsCourse program us ds r) (hs : Performed.ShownBy ds es) :
    Issued.Within uploadingNames es := by
  induction h generalizing es with
  | nil => cases hs with
    | nil => exact fun e he => absurd he List.not_mem_nil
  | stopped h => exact h.within hs
  | cons h _ ih =>
    obtain ⟨fs, gs, rfl, hfs, hgs⟩ := hs.split
    exact (h.within hfs).append (ih hgs)

/-- **Uploads are permitted once the program was found to be linked**, as many as there are. -/
theorem permitted (h : UniformsCourse program us ds r) (hs : Performed.ShownBy ds es)
    (hfront : Issued.verdicts "getProgramParameter" front = [some true]) :
    Issued.PermittedBetween front es back := by
  induction h generalizing es front with
  | nil => cases hs with
    | nil => exact Issued.permittedBetween_nil
  | stopped h => exact h.permitted hs hfront
  | cons h _ ih =>
    obtain ⟨fs, gs, rfl, hfs, hgs⟩ := hs.split
    -- the uploads so far do not ask about the program again
    have hnext : Issued.verdicts "getProgramParameter" (front ++ fs) = [some true] :=
      ((h.within hfs).verdicts_append (by decide) front).trans hfront
    exact (h.permitted hfs hfront).append (ih hgs hnext)

/-- If all uploads succeed, each uniform was asked for once, in their order. -/
theorem asked_of_ok (h : UniformsCourse program us ds r) (hr : r = .ok ())
    (hs : Performed.ShownBy ds es) :
    (Issued.select "getUniformLocation" es).map Issued.call =
      us.map fun u => .query "getUniformLocation" [program.argument, .string u.1] := by
  induction h generalizing es with
  | nil => cases hs with
    | nil => rfl
  | stopped h => cases hr
  | cons h _ ih =>
    obtain ⟨fs, gs, rfl, hfs, hgs⟩ := hs.split
    rw [Issued.select_append, List.map_append, h.asked_of_ok hfs, ih hr hgs]
    rfl

/-- No operation of uploads that succeed has failed. -/
theorem succeeded (h : UniformsCourse program us ds r) (hr : r = .ok ()) :
    ∀ d ∈ ds, ∃ a, d.result = .ok a := by
  induction h with
  | nil => exact fun d hd => absurd hd List.not_mem_nil
  | stopped h => cases hr
  | cons h _ ih =>
    intro d hd
    rcases List.mem_append.1 hd with hd | hd
    · exact h.succeeded d hd
    · exact ih hr d hd

end UniformsCourse

/-! ### Matrices are sent alone -/

/-- A matrix that was handed over went alone, with its 64 bytes. -/
def Exchange.SendsMatrixAlone (x : Exchange) : Prop :=
  ∀ i ∈ x.sent.message.calls, i.op = "uniformMatrix4fv" →
    x.sent.message.calls = [i] ∧ ∃ b, x.sent.buffers = [b] ∧ b.length = 64

/-- Every call of a message has its entry. -/
theorem Exchange.mem_issued {x : Exchange} {i : Instruction} (h : i ∈ x.sent.message.calls) :
    ∃ e ∈ x.issued, e.call = i := by
  cases x with
  | send s r => exact ⟨⟨i, none⟩, List.mem_map_of_mem h, rfl⟩
  | request s r =>
    obtain ⟨m, bs⟩ := s
    -- in a query only the last entry has an answer, and the calls are the same as without it
    have hall : ∀ (is : List Instruction), i ∈ is → ∃ e ∈ Issued.ofQuery r is, e.call = i := by
      intro is hi
      induction is using Issued.ofQuery.induct with
      | case1 => cases hi
      | case2 j => exact ⟨⟨j, some r⟩, List.mem_singleton.2 rfl, (List.mem_singleton.1 hi).symm⟩
      | case3 j rest hrest ih =>
        rw [Issued.ofQuery]
        · rcases List.mem_cons.1 hi with rfl | hi
          · exact ⟨⟨i, none⟩, List.mem_cons_self, rfl⟩
          · obtain ⟨e, he, hcall⟩ := ih hi
            exact ⟨e, List.mem_cons_of_mem _ he, hcall⟩
        · exact hrest
    exact hall _ h

namespace Context

variable {tr : Transport σ} {c c' : Context (Observed σ)}

/-- As long as the history has no matrix, none was sent. -/
theorem alone_of_history (h : Issued.select "uniformMatrix4fv" c.history = []) :
    ∀ x ∈ c.transport.exchanges, x.SendsMatrixAlone := by
  intro x hx i hi hop
  obtain ⟨e, he, rfl⟩ := x.mem_issued hi
  have hmem : e ∈ c.history := List.mem_append_left _ (List.mem_flatMap_of_mem hx he)
  have hselected : e ∈ Issued.select "uniformMatrix4fv" c.history :=
    List.mem_filter.2 ⟨hmem, decide_eq_true hop⟩
  rw [h] at hselected
  cases hselected

/-- Nothing is open and nothing held, and no matrix was sent otherwise than alone. -/
structure Resting (c : Context (Observed σ)) : Prop where
  outside : c.depth = 0
  settled : c.Settled
  alone : ∀ x ∈ c.transport.exchanges, x.SendsMatrixAlone

/-- No call is held. -/
theorem Resting.pending_eq_nil (h : c.Resting) : c.pending = [] := h.settled.idle h.outside

/-- No buffer is held. -/
theorem Resting.buffers_eq_nil (h : c.Resting) : c.buffers = [] := h.settled.bare h.pending_eq_nil

/-- Another exchange that sends no matrix otherwise than alone. -/
theorem Resting.alone_snoc (h : c.Resting) {x : Exchange} (hx : x.SendsMatrixAlone) :
    ∀ y ∈ c.transport.exchanges ++ [x], y.SendsMatrixAlone := by
  intro y hy
  rcases List.mem_append.1 hy with hy | hy
  · exact h.alone y hy
  · obtain rfl := List.mem_singleton.1 hy
    exact hx

/-- **A question for a location carries no matrix.** -/
theorem Resting.location (h : c.Resting) (program : Handle) (name : String) :
    ((Operation.getUniformLocation program name).perform tr.observed c).state.Resting := by
  refine ⟨(Operation.depth_perform _ rfl c).trans h.outside,
    Operation.settled_perform _ _ h.settled, ?_⟩
  cases hname : isReference name with
  | true =>
    -- nothing is sent for a name that is refused
    have hp := (Operation.primitive_getUniformLocation program name).trans (if_pos hname)
    rw [Operation.perform_of_error _ hp]
    exact h.alone
  | false =>
    have hp := (Operation.primitive_getUniformLocation program name).trans
      (if_neg (Bool.eq_false_iff.1 hname))
    rw [(Operation.perform_of_ok _ hp c).1, Primitive.perform, state_answering, query_apply,
      Transport.observed_request, h.pending_eq_nil]
    refine h.alone_snoc fun i hi hop => ?_
    -- the question is the only call of its message
    obtain rfl := List.mem_singleton.1 hi
    exact absurd hop (by simp [Instruction.query])

/-- **A matrix is sent alone**, with its 64 bytes. -/
theorem Resting.matrix (h : c.Resting) (location : Handle) (m : Mat4 Single) :
    ((Operation.uniformMatrix location m).perform tr.observed c).state.Resting := by
  refine ⟨(Operation.depth_perform _ rfl c).trans h.outside,
    Operation.settled_perform _ _ h.settled, ?_⟩
  have hp : (Operation.uniformMatrix location m).primitive? =
      .ok (.execWithBuffer "uniformMatrix4fv"
        [location.argument, .bool false, ElementType.float32.argument] m.bytes) := rfl
  rw [(Operation.perform_of_ok _ hp c).1, Primitive.perform, state_answering,
    execWithBuffer_apply, exec_sends _ (c.withBuffer m.bytes) _ _ h.outside,
    Transport.observed_send]
  refine h.alone_snoc fun i hi hop => ?_
  -- both queues were empty, so the message has this call and this buffer
  change i ∈ c.pending ++ [_] at hi
  show c.pending ++ [_] = [i] ∧ ∃ b, c.buffers ++ [m.bytes] = [b] ∧ b.length = 64
  rw [h.pending_eq_nil] at hi ⊢
  rw [h.buffers_eq_nil]
  obtain rfl := List.mem_singleton.1 hi
  exact ⟨rfl, m.bytes, rfl, m.length_bytes⟩

/-- **Uploads leave a resting context resting**, whatever comes of them. -/
theorem Resting.uploads (h : c.Resting) {ds : List Performed}
    (hds : ∀ d ∈ ds, d.operation.IsUpload) (hpath : Path (Performed.Does tr.observed) ds c c') :
    c'.Resting := by
  refine hpath.preserves (fun d hd s t hdoes hs => ?_) h
  obtain ⟨operation, r⟩ := d
  obtain ⟨-, rfl⟩ := hdoes
  cases hds _ hd with
  | location program name => exact hs.location program name
  | matrix location m => exact hs.matrix location m

end Context

end GlBridge
