import GlBridge.Proofs.Json.TreeText
import GlBridge.Proofs.Wire.Records
import GlBridge.Wire.Frame

/-!
# What is written on the wire is read back

Messages, replies and frame headers are read from their own text as what they are
(`Message.read_render`, `Reply.read_render`, `FrameHeader.read_render`), as long as they stay
within the depth that a reader allows. A reply has to have finite constants besides: a float that is
no number is written as `null` and lost.

Each statement about a text rests on one about the tree (`ofJson_toJson`), which has no
condition on depth.
-/

namespace GlBridge

/-! ### Sound trees -/

namespace Json

/-- Without a flaw, the depth decides on whether a tree is sound. -/
theorem isSound_of_isFlawless {j : Json} (h : j.isFlawless = true) (hdepth : j.depth ≤ depthLimit) :
    j.isSound = true := by
  rw [isSound, h, decide_eq_true hdepth]
  rfl

/-- A sound tree is read back. -/
theorem readSound_write {j : Json} (h : j.isFlawless = true) (hdepth : j.depth ≤ depthLimit) :
    readSound? j.write = some j := by
  -- the text is read as the tree, which passes the test
  rw [readSound?, read_write, Option.filter_some, if_pos (isSound_of_isFlawless h hdepth)]

end Json

/-! ### Instructions and commands -/

namespace Purpose

/-- A purpose is read from its word. -/
@[simp] theorem ofJson_tag (nested : Bool) (p : Purpose) :
    ofJson? nested (.string p.tag) = some p := by
  cases p <;> rfl

end Purpose

namespace Instruction

/-- An instruction is read back from its three fields. -/
@[simp] theorem ofJson_toJson (nested : Bool) (i : Instruction) :
    ofJson? nested i.toJson = some i := by
  have hfields : i.toJson.fields? fieldNames =
      some [.string i.purpose.tag, .string i.op, .ofValues i.args] :=
    Json.fields_object [("type", .string i.purpose.tag), ("op", .string i.op),
      ("args", .ofValues i.args)] (by simp)
  -- field by field: the word, the name, the arguments
  unfold ofJson?
  simp only [hfields, Purpose.ofJson_tag, Json.string?, Json.values_ofValues, Option.bind_eq_bind,
    Option.bind_some]
  rfl

/-- No flaw is written for an instruction. -/
theorem isFlawless_toJson (i : Instruction) : i.toJson.isFlawless = true := by
  simp only [toJson, Json.isFlawless, Json.membersFlawless, Json.isFlawless_ofValues, Bool.and_self]

/-- So are several of them, one by one. -/
@[simp] theorem listOfJson_listToJson (nested : Bool) (is : List Instruction) :
    listOfJson? nested (listToJson is) = some is := by
  rw [listOfJson?, listToJson, Json.items?, Option.bind_some]
  exact mapM_map_of_read fun i _ => i.ofJson_toJson nested

/-- Nor is there a flaw in a list of them. -/
theorem isFlawless_listToJson (is : List Instruction) : (listToJson is).isFlawless = true := by
  refine Json.itemsFlawless_iff.2 fun j hj => ?_
  obtain ⟨i, -, rfl⟩ := List.mem_map.1 hj
  exact i.isFlawless_toJson

end Instruction

namespace Command

/-- A command is read back from its three fields. -/
@[simp] theorem ofJson_toJson (nested : Bool) (c : Command) : ofJson? nested c.toJson = some c := by
  have hfields : c.toJson.fields? fieldNames =
      some [.string c.op, .ofValues c.args, Instruction.listToJson c.instructions] :=
    Json.fields_object [("op", .string c.op), ("args", .ofValues c.args),
      ("instructions", Instruction.listToJson c.instructions)] (by simp)
  unfold ofJson?
  simp only [hfields, Json.string?, Json.values_ofValues, Instruction.listOfJson_listToJson,
    Option.bind_eq_bind, Option.bind_some]
  rfl

theorem isFlawless_toJson (c : Command) : c.toJson.isFlawless = true := by
  simp only [toJson, Json.isFlawless, Json.membersFlawless, Json.isFlawless_ofValues,
    Instruction.isFlawless_listToJson, Bool.and_self]

end Command

/-! ### Messages -/

namespace Message

/-- A message is read from its tag and its one field. -/
theorem ofTagged_payload (m : Message) :
    ofTagged? m.kind.tag (.object [m.payload]) = some m := by
  have hfields : ∀ (name : String) (j : Json),
      (Json.object [(name, j)]).fields? [name] = some [j] :=
    fun name j => Json.fields_object [(name, j)] (by simp)
  -- for each kind of message the one field that goes with its tag
  cases m <;> simp [kind, payload, MessageKind.tag, ofTagged?, hfields, Json.string?]

/-- **A message is read back from its tree.** -/
@[simp] theorem ofJson_toJson (m : Message) : ofJson? m.toJson = some m := by
  have hkey : ∀ p ∈ [m.payload], p.1 ≠ Json.tagKey := by
    intro p hp
    obtain rfl := List.mem_singleton.1 hp
    cases m <;> simp [payload, Json.tagKey]
  have htag : m.toJson.tagged? = some (m.kind.tag, .object [m.payload]) :=
    Json.tagged_object m.kind.tag hkey
  rw [ofJson?, htag, Option.bind_some]
  exact m.ofTagged_payload

/-- No flaw is written for a message, whatever it carries. -/
theorem isFlawless_toJson (m : Message) : m.toJson.isFlawless = true := by
  cases m <;> simp [toJson, payload, Json.isFlawless, Json.membersFlawless,
    Instruction.isFlawless_listToJson, Command.isFlawless_toJson]

/-- **A message is read back from its text.** -/
theorem read_render (m : Message) (h : m.toJson.depth ≤ Json.depthLimit) :
    read? m.render = some m := by
  rw [read?, render, Json.render, String.toList_ofList,
    Json.readSound_write m.isFlawless_toJson h, Option.bind_some, ofJson_toJson]

end Message

/-! ### Replies -/

namespace Reply

/-- Whatever constants the reply has are numbers. -/
def HasFiniteConstants : Reply → Prop
  | .constantsReply _ data => ∀ e ∈ data.entries, e.2.isFinite = true
  | _ => True

/-- The reply can be read back: its constants are numbers and it is within the limit of depth. -/
structure IsReadable (r : Reply) : Prop where
  finite : r.HasFiniteConstants
  depth : r.toJson.depth ≤ Json.depthLimit

/-- Constants that are numbers are read back. -/
@[simp] theorem constants_constantsToJson {d : Dictionary Double}
    (h : ∀ e ∈ d.entries, e.2.isFinite = true) : constants? (constantsToJson d) = some d := by
  -- entry by entry, and what is made of the entries is the dictionary again
  have hread : (d.entries.map fun e => (e.1, floatToJson e.2)).mapM
      (fun m => (float? m.2).map fun x => (m.1, x)) = some d.entries := by
    refine mapM_map_of_read fun e he => ?_
    rw [floatToJson, dif_pos (h e he)]
    rfl
  unfold constants? constantsToJson
  dsimp only
  rw [hread, Option.map_some, Dictionary.ofList_entries]

/-- A reply is read from its tag and its other fields. -/
theorem ofTagged_payload {r : Reply} (h : r.HasFiniteConstants) :
    ofTagged? r.kind.tag (.object r.payload) = some r := by
  have hone : ∀ (name : String) (j : Json),
      (Json.object [(name, j)]).fields? [name] = some [j] :=
    fun name j => Json.fields_object [(name, j)] (by simp)
  have htwo : ∀ j k : Json,
      (Json.object [("target", j), ("data", k)]).fields? ["target", "data"] = some [j, k] :=
    fun j k => Json.fields_object [("target", j), ("data", k)] (by simp)
  -- likewise for replies, where two kinds have two fields
  cases r with
  | queryReply data => simp [kind, payload, ReplyKind.tag, ofTagged?, hone]
  | queryError message => simp [kind, payload, ReplyKind.tag, ofTagged?, hone, Json.string?]
  | constantsReply target data =>
    have hconstants : constants? (constantsToJson data) = some data := constants_constantsToJson h
    simp [kind, payload, ReplyKind.tag, ofTagged?, htwo, Json.string?, hconstants]
  | methodsReply target data =>
    simp [kind, payload, ReplyKind.tag, ofTagged?, htwo, Json.string?]

/-- **A reply with finite constants is read back from its tree.** -/
theorem ofJson_toJson {r : Reply} (h : r.HasFiniteConstants) : ofJson? r.toJson = some r := by
  have hkey : ∀ p ∈ r.payload, p.1 ≠ Json.tagKey := by
    cases r <;> simp [payload, Json.tagKey]
  have htag : r.toJson.tagged? = some (r.kind.tag, .object r.payload) :=
    Json.tagged_object r.kind.tag hkey
  rw [ofJson?, htag, Option.bind_some]
  exact ofTagged_payload h

/-- Nor is one written for a reply. A constant that is no number is written as `null`, which is no
flaw. -/
theorem isFlawless_toJson (r : Reply) : r.toJson.isFlawless = true := by
  refine Json.membersFlawless_iff.2 fun m hm => ?_
  rcases List.mem_cons.1 hm with rfl | hm
  · rfl
  cases r with
  | constantsReply target data =>
    simp only [payload, List.mem_cons, List.not_mem_nil, or_false] at hm
    rcases hm with rfl | rfl
    · rfl
    · -- a constant is written as a float or as `null`, and neither is a flaw
      refine Json.membersFlawless_iff.2 fun m hm => ?_
      obtain ⟨e, -, rfl⟩ := List.mem_map.1 hm
      dsimp only
      unfold floatToJson
      split <;> rfl
  | queryReply data =>
    obtain rfl := List.mem_singleton.1 hm
    exact data.isFlawless_json
  | queryError message =>
    obtain rfl := List.mem_singleton.1 hm
    rfl
  | methodsReply target data =>
    simp only [payload, List.mem_cons, List.not_mem_nil, or_false] at hm
    rcases hm with rfl | rfl
    · rfl
    · exact Json.isFlawless_ofStrings data

/-- **A readable reply is read back from its text.** -/
theorem read_render {r : Reply} (h : r.IsReadable) : read? r.render = some r := by
  rw [read?, render, Json.render, String.toList_ofList,
    Json.readSound_write r.isFlawless_toJson h.depth, Option.bind_some, ofJson_toJson h.finite]

end Reply

/-! ### Frame headers -/

namespace FrameHeader

/-- A length is read back, since it is no negative number. -/
@[simp] theorem length_lengthToJson (n : UInt64) : length? (lengthToJson n) = some n := by
  have hnonneg : (0 : Int) ≤ n.toNat := Int.natCast_nonneg _
  change (if (0 : Int) ≤ n.toNat then some (UInt64.ofNat (n.toNat : Int).toNat) else none) = some n
  rw [if_pos hnonneg, Int.toNat_natCast, UInt64.ofNat_toNat]

/-- **A header is read back from its tree.** -/
@[simp] theorem ofJson_toJson (h : FrameHeader) : ofJson? h.toJson = some h := by
  have hfields : h.toJson.fields? fieldNames =
      some [h.message.toJson, .array (h.lengths.map lengthToJson)] :=
    Json.fields_object [("message", h.message.toJson),
      ("buffers", .array (h.lengths.map lengthToJson))] (by simp)
  have hlengths : (h.lengths.map lengthToJson).mapM length? = some h.lengths :=
    mapM_map_of_read fun n _ => length_lengthToJson n
  unfold ofJson?
  simp only [hfields, Message.ofJson_toJson, Json.items?, hlengths, Option.bind_eq_bind,
    Option.bind_some]
  rfl

theorem isFlawless_toJson (h : FrameHeader) : h.toJson.isFlawless = true := by
  have hlengths : Json.itemsFlawless (h.lengths.map lengthToJson) = true := by
    refine Json.itemsFlawless_iff.2 fun j hj => ?_
    obtain ⟨n, -, rfl⟩ := List.mem_map.1 hj
    rfl
  simp only [toJson, Json.isFlawless, Json.membersFlawless, Message.isFlawless_toJson, hlengths,
    Bool.and_self]

/-- **A header is read back from its text.** -/
theorem read_render {h : FrameHeader} (hdepth : h.toJson.depth ≤ Json.depthLimit) :
    read? h.render = some h := by
  have hsound := Json.isSound_of_isFlawless h.isFlawless_toJson hdepth
  -- a header has no members but its fields, so all of it counts for the limit of depth
  have hrestrict : h.toJson.restrict fieldNames = h.toJson :=
    Json.restrict_object (by simp [fieldNames])
  rw [read?, render, Json.render, String.toList_ofList, Json.read_write, Option.map_some, hrestrict,
    Option.filter_some, if_pos hsound, Option.bind_some, ofJson_toJson]

end FrameHeader

end GlBridge
