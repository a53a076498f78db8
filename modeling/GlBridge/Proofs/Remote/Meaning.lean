import GlBridge.Proofs.Remote.Buffers
import GlBridge.Proofs.Remote.Course
import GlBridge.Remote.DryRun

/-!
# The executor reads back what was meant

On the wire a text can be three things: the name of an object, a demand for the next attached
buffer, or itself. Which of them, an executor tells by its first characters alone
(`Value.reading?`), and it takes the buffers of a message as its calls demand them
(`Sent.understood?`).

`Operation.intended?` says what a typed operation means: which call, with which objects, texts,
numbers and bytes. `understood_as_intended` says that an executor which reads every message so gets
exactly these calls, and no buffer is missing or left over. It holds since every argument of a
typed operation stays in its class whatever text the caller passes: handles begin as references
do, and literals do not, for those that would are refused.
-/

namespace GlBridge

variable {σ : Type}

/-! ### How an executor reads a message -/

/-- What an argument means. -/
inductive Meaning where
  /-- the object of that name -/
  | object (key : String)
  /-- the bytes of an attached buffer, as elements of some kind -/
  | buffer (kind : String) (bytes : Bytes)
  | itself (v : Value)

/-- A call as an executor understands it. -/
structure Understood where
  purpose : Purpose
  op : String
  args : List Meaning

/-- Reads an argument. A text that begins with `buffer` takes the first of the buffers left. -/
def Value.reading? (v : Value) (buffers : List Bytes) : Option (Meaning × List Bytes) :=
  match v.json with
  | .string s =>
    if Text.startsWith "key" s then some (.object s, buffers)
    else if Text.startsWith "buffer" s then
      match buffers with
      | [] => none
      | b :: rest => some (.buffer (String.ofList (s.toList.drop "buffer".length)) b, rest)
    else some (.itself v, buffers)
  | _ => some (.itself v, buffers)

/-- Reads arguments from left to right. -/
def Value.readings? : List Value → List Bytes → Option (List Meaning × List Bytes)
  | [], buffers => some ([], buffers)
  | v :: vs, buffers => do
    let (m, rest) ← v.reading? buffers
    let (ms, rest) ← readings? vs rest
    return (m :: ms, rest)

/-- Reads calls in their order. -/
def Instruction.understand? : List Instruction → List Bytes → Option (List Understood × List Bytes)
  | [], buffers => some ([], buffers)
  | i :: is, buffers => do
    let (args, rest) ← Value.readings? i.args buffers
    let (us, rest) ← understand? is rest
    return (⟨i.purpose, i.op, args⟩ :: us, rest)

/-- The calls of a message as an executor understands them, if they take its buffers exactly. -/
def Sent.understood? (s : Sent) : Option (List Understood) :=
  match Instruction.understand? s.message.calls s.buffers with
  | some (us, []) => some us
  | _ => none

/-! ### What is meant -/

/-- What a typed operation means. A text that would be taken for a reference is refused, so that
the operation means nothing. -/
def Operation.intended? : Operation → Option Understood
  | .primitive _ => none
  | .useProgram program => some ⟨.exec, "useProgram", [.object program.key]⟩
  | .getUniformLocation program name =>
    if isReference name then none
    else some ⟨.query, "getUniformLocation", [.object program.key, .itself (.string name)]⟩
  | .uniformMatrix location m =>
    some ⟨.exec, "uniformMatrix4fv",
      [.object location.key, .itself (.bool false), .buffer "float32" m.bytes]⟩
  | .createShader stage => some ⟨.query, "createShader", [.itself (.word stage.glEnum)]⟩
  | .createProgram => some ⟨.query, "createProgram", []⟩
  | .shaderSource shader source =>
    if isReference source then none
    else some ⟨.exec, "shaderSource", [.object shader.key, .itself (.string source)]⟩
  | .compileShader shader => some ⟨.exec, "compileShader", [.object shader.key]⟩
  | .attachShader program shader =>
    some ⟨.exec, "attachShader", [.object program.key, .object shader.key]⟩
  | .linkProgram program => some ⟨.exec, "linkProgram", [.object program.key]⟩
  | .shaderParameter shader name =>
    some ⟨.query, "getShaderParameter", [.object shader.key, .itself (.word name)]⟩
  | .programParameter program name =>
    some ⟨.query, "getProgramParameter", [.object program.key, .itself (.word name)]⟩
  | .shaderInfoLog shader => some ⟨.query, "getShaderInfoLog", [.object shader.key]⟩
  | .programInfoLog program => some ⟨.query, "getProgramInfoLog", [.object program.key]⟩
  | .deleteShader shader => some ⟨.exec, "deleteShader", [.object shader.key]⟩

/-- The operation passes no arguments of the caller's own making. -/
def Operation.isTyped : Operation → Bool
  | .primitive (.exec _ _) => false
  | .primitive (.execWithBuffer _ _ _) => false
  | .primitive (.query _ _) => false
  | .primitive (.orbitView _ _) => false
  | _ => true

/-- The step passes no arguments of the caller's own making; builders and the demonstration never
do. -/
def Step.isTyped : Step → Bool
  | .operation o => o.isTyped
  | _ => true

/-! ### Arguments -/

/-- A handle is read as the object of its key. -/
@[simp] theorem Handle.reading_argument (h : Handle) (buffers : List Bytes) :
    h.argument.reading? buffers = some (.object h.key, buffers) :=
  if_pos h.isKey

@[simp] theorem Value.reading_word (n : UInt32) (buffers : List Bytes) :
    (Value.word n).reading? buffers = some (.itself (.word n), buffers) := rfl

@[simp] theorem Value.reading_bool (b : Bool) (buffers : List Bytes) :
    (Value.bool b).reading? buffers = some (.itself (.bool b), buffers) := rfl

/-- A text that is no reference is itself. -/
theorem Value.reading_string {s : String} (h : isReference s = false) (buffers : List Bytes) :
    (Value.string s).reading? buffers = some (.itself (.string s), buffers) := by
  obtain ⟨hkey, hbuffer⟩ := Bool.or_eq_false_iff.1 h
  have hnotKey : ¬Text.startsWith "key" s = true := by
    rw [show Text.startsWith "key" s = false from hkey]
    exact Bool.false_ne_true
  have hnotBuffer : ¬Text.startsWith "buffer" s = true := by
    rw [show Text.startsWith "buffer" s = false from hbuffer]
    exact Bool.false_ne_true
  unfold reading?
  simp only [Value.string, if_neg hnotKey, if_neg hnotBuffer]

/-- The text for an element type takes the next buffer as elements of this type. -/
@[simp] theorem ElementType.reading_argument (t : ElementType) (b : Bytes) (rest : List Bytes) :
    t.argument.reading? (b :: rest) = some (.buffer t.name b, rest) := by
  cases t <;> rfl

@[simp] theorem Mat4.length_bytes (m : Mat4 Single) : m.bytes.length = 64 := rfl

/-- The one buffer that a typed operation means is a matrix. -/
theorem Operation.buffer_of_intended {o : Operation} {u : Understood}
    (h : o.intended? = some u) {kind : String} {b : Bytes} (hb : .buffer kind b ∈ u.args) :
    kind = "float32" ∧ b.length = 64 := by
  cases o with
  | uniformMatrix location m =>
    obtain rfl := Option.some.inj h
    simp only [List.mem_cons, Meaning.buffer.injEq, reduceCtorEq, false_or, List.not_mem_nil,
      or_false] at hb
    obtain ⟨rfl, rfl⟩ := hb
    exact ⟨rfl, m.length_bytes⟩
  -- primitives intend nothing, and the other operations pass no buffer
  | primitive p => cases h
  | getUniformLocation program name =>
    obtain ⟨-, h⟩ := Option.ite_none_left_eq_some.1 h
    obtain rfl := Option.some.inj h
    simp at hb
  | shaderSource shader source =>
    obtain ⟨-, h⟩ := Option.ite_none_left_eq_some.1 h
    obtain rfl := Option.some.inj h
    simp at hb
  | _ =>
    obtain rfl := Option.some.inj h
    simp at hb

/-! ### Loads that can be read -/

namespace Load

/-- The calls of a load. -/
def calls (l : Load) : List Instruction :=
  match l.item with
  | .call i => [i]
  | .message _ => []

/-- What a load means when its call is read with its own buffer. -/
def meaning? (l : Load) : Option Understood :=
  match Instruction.understand? l.calls l.buffer.toList with
  | some ([u], []) => some u
  | _ => none

/-- The load is read as what it means, and takes its own buffer, whatever buffers follow. -/
def IsClear (l : Load) : Prop :=
  ∀ rest, Instruction.understand? l.calls (l.buffer.toList ++ rest) =
    some (l.meaning?.toList, rest)

/-- A call is clear once its arguments are read so. -/
theorem of_readings {i : Instruction} {b : Option Bytes} {args : List Meaning}
    (h : ∀ rest, Value.readings? i.args (b.toList ++ rest) = some (args, rest)) :
    IsClear ⟨.call i, b⟩ ∧ meaning? ⟨.call i, b⟩ = some ⟨i.purpose, i.op, args⟩ := by
  have hread : ∀ rest, Instruction.understand? [i] (b.toList ++ rest) =
      some ([⟨i.purpose, i.op, args⟩], rest) := by
    intro rest
    simp [Instruction.understand?, h rest]
  have hmeaning : meaning? ⟨.call i, b⟩ = some ⟨i.purpose, i.op, args⟩ := by
    have hown := hread []
    rw [List.append_nil] at hown
    simp only [meaning?, calls, hown]
  refine ⟨fun rest => ?_, hmeaning⟩
  rw [hmeaning]
  exact hread rest

end Load

/-- Calls are read one after the other. -/
theorem Instruction.understand_append {is js : List Instruction} {bs rest : List Bytes}
    {us : List Understood} (h : understand? is bs = some (us, rest)) :
    understand? (is ++ js) bs =
      (understand? js rest).map fun next => (us ++ next.1, next.2) := by
  induction is generalizing bs us with
  | nil =>
    obtain ⟨rfl, rfl⟩ := Prod.mk.inj (Option.some.inj h)
    rw [List.nil_append]
    cases understand? js bs <;> rfl
  | cons i tail ih =>
    -- the first call leaves the buffers `mid`, and the rest of `is` leaves `last` of them for `js`
    obtain ⟨⟨args, mid⟩, hargs, h⟩ := Option.bind_eq_some_iff.1 h
    obtain ⟨⟨vs, last⟩, htail, h⟩ := Option.bind_eq_some_iff.1 h
    obtain ⟨rfl, rfl⟩ := Prod.mk.inj (Option.some.inj h)
    rw [List.cons_append, understand?, hargs, Option.bind_eq_bind, Option.bind_some]
    dsimp only
    rw [ih htail]
    cases understand? js last <;> rfl

/-- **A parcel of clear loads is read as what they mean**, and takes exactly its buffers. -/
theorem Instruction.understand_parcel {parcel : List Load} (h : ∀ l ∈ parcel, l.IsClear)
    (rest : List Bytes) :
    understand? (parcel.flatMap Load.calls) (parcel.filterMap Load.buffer ++ rest) =
      some (parcel.filterMap Load.meaning?, rest) := by
  induction parcel with
  | nil => rfl
  | cons l tail ih =>
    have hl : l.IsClear := h l List.mem_cons_self
    have htail := ih fun k hk => h k (List.mem_cons_of_mem l hk)
    have hbuffers : (l :: tail).filterMap Load.buffer ++ rest =
        l.buffer.toList ++ (tail.filterMap Load.buffer ++ rest) := by
      cases hb : l.buffer <;> simp [hb]
    have hmeanings : (l :: tail).filterMap Load.meaning? =
        l.meaning?.toList ++ tail.filterMap Load.meaning? := by
      cases hm : l.meaning? <;> simp [hm]
    rw [List.flatMap_cons, hbuffers, hmeanings, understand_append (hl _), htail]
    rfl

/-- The calls of a message are those of its pieces. -/
theorem Message.calls_of_items {m : Message} {parcel : List Load}
    (h : m.items = parcel.map Load.item) : m.calls = parcel.flatMap Load.calls := by
  have hcalls : parcel.flatMap Load.calls = (parcel.map Load.item).flatMap fun item =>
      Load.calls ⟨item, none⟩ := by
    rw [List.flatMap_map]
    rfl
  -- taking calls apart into loads and reading the loads again gives the calls back
  have hall : ∀ is : List Instruction,
      ((is.map Item.call).flatMap fun item => Load.calls ⟨item, none⟩) = is := by
    intro is
    rw [List.flatMap_map]
    exact List.flatMap_singleton' is
  rw [hcalls, ← h]
  cases m with
  | exec is => exact (hall is).symm
  | query is => exact (hall is).symm
  | _ => rfl

/-- **A message is understood as its parcel means**, if all of the parcel is clear. -/
theorem Exchange.Carries.understood {x : Exchange} {parcel : List Load} (hx : x.Carries parcel)
    (h : ∀ l ∈ parcel, l.IsClear) :
    x.sent.understood? = some (parcel.filterMap Load.meaning?) := by
  have hparcel := Instruction.understand_parcel h []
  rw [List.append_nil, ← hx.buffers, ← Message.calls_of_items hx.items] at hparcel
  unfold Sent.understood?
  rw [hparcel]

/-! ### Typed operations -/

namespace Operation

/-- Everything an operation issues can be read, and means what the operation intends. -/
def IsClear (tr : Transport σ) (c : Context σ) (o : Operation) : Prop :=
  (∀ l ∈ o.loads tr c, l.IsClear) ∧
    (o.loads tr c).filterMap Load.meaning? = o.intended?.toList

variable {tr : Transport σ} {c : Context σ} {o : Operation}

/-- An operation is clear if the one call that it issues is read as it intends. -/
theorem isClear_of_call {i : Instruction} {args : List Meaning}
    (hissues : o.issues tr c = [.call i])
    (hread : ∀ rest, Value.readings? i.args (o.buffer?.toList ++ rest) = some (args, rest))
    (hintended : o.intended? = some ⟨i.purpose, i.op, args⟩) : o.IsClear tr c := by
  obtain ⟨hclear, hmeaning⟩ := Load.of_readings hread
  have hloads : o.loads tr c = [⟨.call i, o.buffer?⟩] := by rw [loads, hissues]; rfl
  refine ⟨fun l hl => ?_, ?_⟩
  · rw [hloads, List.mem_singleton] at hl
    exact hl ▸ hclear
  · rw [hloads, hintended]
    simp [hmeaning]

/-- Messages without calls mean nothing to read, and neither does an operation that issues
nothing. -/
theorem isClear_of_quiet (hissues : ∀ item ∈ o.issues tr c, ∃ m, item = .message m)
    (hbuffer : o.buffer? = none) (hintended : o.intended? = none) : o.IsClear tr c := by
  -- all that is issued are messages, so every load is one without a buffer
  have hloads : ∀ l ∈ o.loads tr c, ∃ m, l = ⟨.message m, none⟩ := by
    intro l hl
    obtain ⟨item, hitem, rfl⟩ := List.mem_map.1 hl
    obtain ⟨m, rfl⟩ := hissues item hitem
    exact ⟨m, by rw [hbuffer]⟩
  refine ⟨fun l hl => ?_, ?_⟩
  · obtain ⟨m, rfl⟩ := hloads l hl
    exact fun rest => rfl
  · rw [hintended, Option.toList_none, List.filterMap_eq_nil_iff]
    intro l hl
    obtain ⟨m, rfl⟩ := hloads l hl
    rfl

/-- A refused operation issues nothing and means nothing. -/
theorem isClear_of_refused {v : Violation} (h : o.primitive? = .error v)
    (hintended : o.intended? = none) : o.IsClear tr c := by
  have hloads : o.loads tr c = [] := by
    unfold loads issues
    rw [h]
    rfl
  rw [IsClear, hloads, hintended]
  exact ⟨fun l hl => absurd hl List.not_mem_nil, rfl⟩

/-- An operation issues what its primitive issues. -/
theorem issues_of_ok {p : Primitive} (h : o.primitive? = .ok p) :
    o.issues tr c = p.issues tr c := by
  unfold issues
  rw [h]

/-- Behind a flush there is at most a message without calls. -/
theorem message_of_afterFlush {m : Message} {item : Item} (h : item ∈ c.afterFlush tr m) :
    ∃ m, item = .message m := by
  unfold Context.afterFlush at h
  split at h
  · exact ⟨m, List.mem_singleton.1 h⟩
  · cases h

/-- **A typed operation is clear.** -/
theorem isClear_of_typed (h : o.isTyped = true) : o.IsClear tr c := by
  cases o with
  | primitive p =>
    refine isClear_of_quiet ?_ ?_ rfl
    · cases p with
      | fetchConstants => exact fun item hitem => message_of_afterFlush hitem
      | fetchMethods => exact fun item hitem => message_of_afterFlush hitem
      | flush => exact fun item hitem => nomatch hitem
      | beginChunk => exact fun item hitem => nomatch hitem
      | endChunk => exact fun item hitem => nomatch hitem
      | _ => cases h
    · cases p with
      | execWithBuffer op args b => cases h
      | _ => rfl
  -- a text of the caller's is sent as itself, or the operation is refused
  | getUniformLocation program name =>
    cases hname : isReference name with
    | true =>
      have hp := (primitive_getUniformLocation program name).trans (if_pos hname)
      exact isClear_of_refused hp (if_pos hname)
    | false =>
      have hplain := Bool.eq_false_iff.1 hname
      have hp := (primitive_getUniformLocation program name).trans (if_neg hplain)
      refine isClear_of_call (issues_of_ok hp) (fun rest => ?_) (if_neg hplain)
      simp [Instruction.query, Value.readings?, Value.reading_string hname, buffer?]
  | shaderSource shader source =>
    cases hsource : isReference source with
    | true =>
      have hp := (primitive_shaderSource shader source).trans (if_pos hsource)
      exact isClear_of_refused hp (if_pos hsource)
    | false =>
      have hplain := Bool.eq_false_iff.1 hsource
      have hp := (primitive_shaderSource shader source).trans (if_neg hplain)
      refine isClear_of_call (issues_of_ok hp) (fun rest => ?_) (if_neg hplain)
      simp [Instruction.exec, Value.readings?, Value.reading_string hsource, buffer?]
  | uniformMatrix location m =>
    -- the third argument takes the buffer of the operation, and the buffers of later calls stay
    exact isClear_of_call rfl (fun rest => by
      simp [Instruction.exec, Value.readings?, buffer?, ElementType.name]) rfl
  -- every other argument is a handle or a number
  | _ =>
    exact isClear_of_call rfl (fun rest => by
      simp [Instruction.exec, Instruction.query, Value.readings?, buffer?]) rfl

end Operation

/-! ### Runs -/

namespace Context

variable {tr : Transport σ}

/-- A context whose loads can all be read, and what they mean. -/
def Speaks (c : Context (Observed σ)) (us : List Understood) : Prop :=
  ∃ loads, c.Stows loads ∧ (∀ l ∈ loads, l.IsClear) ∧ loads.filterMap Load.meaning? = us

/-- **A typed operation adds what it intends.** -/
theorem Speaks.performed {c c' : Context (Observed σ)} {us : List Understood}
    (h : c.Speaks us) {d : Performed} (hd : d.Does tr.observed c c')
    (htyped : d.operation.isTyped = true) :
    c'.Speaks (us ++ d.operation.intended?.toList) := by
  obtain ⟨loads, hstows, hclear, rfl⟩ := h
  have htypedClear : d.operation.IsClear tr.observed c := Operation.isClear_of_typed htyped
  obtain ⟨hmore, hmeaning⟩ := htypedClear
  obtain ⟨-, rfl⟩ := hd
  -- the loads grow by those of the operation, which are clear by themselves
  refine ⟨_, hstows.operation tr d.operation, fun l hl => ?_, ?_⟩
  · rcases List.mem_append.1 hl with hl | hl
    · exact hclear l hl
    · exact hmore l hl
  · rw [List.filterMap_append, hmeaning]

/-- Operations add what they intend, one after the other. -/
theorem Speaks.path {ds : List Performed} (htyped : ∀ d ∈ ds, d.operation.isTyped = true)
    {c c' : Context (Observed σ)} {us : List Understood} (h : c.Speaks us)
    (hpath : Path (Performed.Does tr.observed) ds c c') :
    c'.Speaks (us ++ ds.filterMap fun d => d.operation.intended?) := by
  induction ds generalizing c us with
  | nil =>
    obtain rfl : c = c' := hpath
    exact (List.append_nil us).symm ▸ h
  | cons d rest ih =>
    obtain ⟨m, hd, hrest⟩ := hpath
    have hnext := ih (fun e he => htyped e (List.mem_cons_of_mem d he))
      (h.performed hd (htyped d List.mem_cons_self)) hrest
    have hsplit : (d :: rest).filterMap (fun d => d.operation.intended?) =
        d.operation.intended?.toList ++ rest.filterMap fun d => d.operation.intended? := by
      cases hi : d.operation.intended? <;> simp [hi]
    rwa [hsplit, ← List.append_assoc]

end Context

/-! ### The operations of steps are typed -/

/-- Every call of a device is typed. -/
theorem Gl.Call.isTyped_operation {α : Type} (call : Call Handle Handle α) :
    call.operation.isTyped = true := by
  cases call <;> rfl

/-- The deeds of a device are typed operations. -/
theorem isTyped_of_mem_ofDeed {deeds : List (Gl.Deed Handle Handle RemoteError)} {d : Performed}
    (h : d ∈ deeds.map .ofDeed) : d.operation.isTyped = true := by
  obtain ⟨deed, -, rfl⟩ := List.mem_map.1 h
  exact deed.call.isTyped_operation

theorem Operation.IsUpload.isTyped {o : Operation} (h : o.IsUpload) : o.isTyped = true := by
  cases h <;> rfl

/-- **The demonstration is typed throughout**, wherever it ends. -/
theorem DemoCourse.isTyped {vertex fragment : String} {ds : List Performed}
    {r : Except Studio.DemoError Unit} (h : DemoCourse vertex fragment ds r) :
    ∀ d ∈ ds, d.operation.isTyped = true := by
  intro d hd
  cases h with
  | notBuilt h => exact isTyped_of_mem_ofDeed hd
  | notReleased h hrelease =>
    rcases List.mem_append.1 hd with hd | hd
    · exact isTyped_of_mem_ofDeed hd
    · exact isTyped_of_mem_ofDeed hd
  | notUsed h hrelease e =>
    simp only [List.mem_append, List.mem_singleton] at hd
    rcases hd with hd | hd | rfl
    · exact isTyped_of_mem_ofDeed hd
    · exact isTyped_of_mem_ofDeed hd
    · rfl
  | used h hrelease huploads =>
    simp only [List.mem_append, List.mem_cons] at hd
    rcases hd with hd | hd | rfl | hd
    · exact isTyped_of_mem_ofDeed hd
    · exact isTyped_of_mem_ofDeed hd
    · rfl
    · exact (huploads.isUpload d hd).isTyped

/-- A typed step comes down to typed operations. -/
theorem Step.Course.isTyped {s : Step} {ds : List Performed} {r : Except StepError StepAnswer}
    (h : s.Course ds r) (hs : s.isTyped = true) : ∀ d ∈ ds, d.operation.isTyped = true := by
  intro d hd
  cases h with
  | operation o r =>
    obtain rfl := List.mem_singleton.1 hd
    exact hs
  | shader h => exact isTyped_of_mem_ofDeed hd
  | program h => exact isTyped_of_mem_ofDeed hd
  | demo h => exact h.isTyped d hd

/-- Typed steps come down to typed operations. -/
theorem Step.Courses.isTyped {steps : List Step} {ds : List Performed}
    {rs : List (Except StepError StepAnswer)} (h : Courses steps ds rs)
    (hsteps : ∀ s ∈ steps, s.isTyped = true) : ∀ d ∈ ds, d.operation.isTyped = true := by
  induction h with
  | nil => exact fun d hd => absurd hd List.not_mem_nil
  | cons h _ ih =>
    intro d hd
    rcases List.mem_append.1 hd with hd | hd
    · exact h.isTyped (hsteps _ List.mem_cons_self) d hd
    · exact ih (fun s hs => hsteps s (List.mem_cons_of_mem _ hs)) d hd

/-! ### The whole run -/

/-- What is held is read as a message of it would be. -/
theorem Context.Stowed.understood {c : Context (Observed σ)} {parcels : List (List Load)}
    {held : List Load} (h : c.Stowed parcels held) (hclear : ∀ l ∈ held, l.IsClear) :
    Sent.understood? ⟨.exec c.pending, c.buffers⟩ = some (held.filterMap Load.meaning?) := by
  have hcarries : Exchange.Carries (.send ⟨.exec c.pending, c.buffers⟩ (.ok ())) held :=
    ⟨h.calls, h.buffers⟩
  exact hcarries.understood hclear

/-- Every message of the record is understood as its parcel means. -/
theorem understood_of_carried {xs : List Exchange} {parcels : List (List Load)}
    (h : List.Forall₂ Exchange.Carries xs parcels)
    (hclear : ∀ parcel ∈ parcels, ∀ l ∈ parcel, l.IsClear) :
    List.Forall₂ (fun x us => x.sent.understood? = some us) xs
      (parcels.map (List.filterMap Load.meaning?)) := by
  induction h with
  | nil => exact .nil
  | cons hx _ ih =>
    exact .cons (hx.understood (hclear _ List.mem_cons_self))
      (ih fun parcel hp => hclear parcel (List.mem_cons_of_mem _ hp))

/-- **The executor reads back what was meant.** Take any typed steps on a new context, over any
transport. They come down to operations, each step to those of its course. An executor that reads
the messages by the convention understands every one, with no buffer missing or left over, and
what it understands from all of them, followed by what the queue would be understood as, are the
calls that these operations intend: in order, with the objects, texts, numbers and bytes that were
passed. The only buffers among them are matrices, of 64 bytes each. -/
theorem understood_as_intended (tr : Transport σ) (config : Config) (t : σ) (steps : List Step)
    (h : ∀ s ∈ steps, s.isTyped = true) :
    ∃ (ds : List Performed) (messages : List (List Understood)) (held : List Understood),
      Path (Performed.Does tr.observed) ds (Context.start config t).underObservation
        (Step.session tr.observed steps (Context.start config t).underObservation).state ∧
      Step.Courses steps ds (Step.session tr steps (Context.start config t)).results ∧
      List.Forall₂ (fun x us => x.sent.understood? = some us)
        (Step.session tr.observed steps
          (Context.start config t).underObservation).state.transport.exchanges messages ∧
      Sent.understood? ⟨.exec (Step.session tr steps (Context.start config t)).state.pending,
        (Step.session tr steps (Context.start config t)).state.buffers⟩ = some held ∧
      (messages.flatten ++ held = ds.filterMap fun d => d.operation.intended?) ∧
      ∀ u ∈ messages.flatten, ∀ kind b, Meaning.buffer kind b ∈ u.args →
        kind = "float32" ∧ b.length = 64 := by
  let c := (Context.start config t).underObservation
  obtain ⟨hresults, hstate⟩ := Step.session_observed tr steps c
  obtain ⟨ds, hpath, hcourses⟩ := Step.session_follows tr.observed steps c
  -- nothing was said at the start, and the operations on the way add what they intend
  have hstart : c.Speaks [] :=
    ⟨[], Context.stows_start config t, fun l hl => absurd hl List.not_mem_nil, rfl⟩
  obtain ⟨loads, ⟨parcels, held, hstowed, rfl⟩, hclear, hmeaning⟩ :=
    hstart.path (hcourses.isTyped h) hpath
  have hparcels : ∀ parcel ∈ parcels, ∀ l ∈ parcel, l.IsClear := fun parcel hp l hl =>
    hclear l (List.mem_append_left _ (List.mem_flatten_of_mem hp hl))
  have hheld : ∀ l ∈ held, l.IsClear := fun l hl => hclear l (List.mem_append_right _ hl)
  rw [List.nil_append, List.filterMap_append, List.filterMap_flatten] at hmeaning
  refine ⟨ds, parcels.map (List.filterMap Load.meaning?), held.filterMap Load.meaning?, hpath,
    hresults ▸ hcourses, ?_, ?_, hmeaning, fun u hu kind b hb => ?_⟩
  · exact understood_of_carried hstowed.carried hparcels
  · -- what is held is the same with and without observation
    have hunderstood := hstowed.understood hheld
    have hplain : Step.session tr steps (Context.start config t) =
        Step.session tr steps c.unobserved := rfl
    rw [hplain, hstate]
    exact hunderstood
  · have hintended : u ∈ ds.filterMap fun d => d.operation.intended? :=
      hmeaning ▸ List.mem_append_left _ hu
    obtain ⟨d, -, hd⟩ := List.mem_filterMap.1 hintended
    exact d.operation.buffer_of_intended hd hb

/-- The demonstration inside a chunk that stays open, with a source that reads like a reference. -/
theorem understood_as_intended_dryRun :
    let steps : List Step := [.operation (.primitive .beginChunk),
      .makeShader "keyboard" .vertex, .demo "void main" "void main"]
    (∀ s ∈ steps, s.isTyped = true) ∧
      ∃ (ds : List Performed) (messages : List (List Understood)) (held : List Understood),
        Step.Courses steps ds
          (Step.session DryRun.transport steps (Context.start {} DryRun.start)).results ∧
        List.Forall₂ (fun x us => x.sent.understood? = some us)
          (Step.session DryRun.transport.observed steps
            (Context.start {} DryRun.start).underObservation).state.transport.exchanges messages ∧
        messages.flatten ++ held = ds.filterMap fun d => d.operation.intended? := by
  intro steps
  have htyped : ∀ s ∈ steps, s.isTyped = true := by decide
  obtain ⟨ds, messages, held, -, hcourses, hmessages, -, hmeaning, -⟩ :=
    understood_as_intended DryRun.transport {} DryRun.start steps htyped
  exact ⟨htyped, ds, messages, held, hcourses, hmessages, hmeaning⟩

end GlBridge
