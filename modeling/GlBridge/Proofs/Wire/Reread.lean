import GlBridge.Proofs.Decimal.Reading
import GlBridge.Proofs.Json.Depth
import GlBridge.Proofs.Wire.RoundTrip

/-!
# What was read can be written and read again

A message or a reply may be spelled in many ways: fields in any order and others between them,
arrays for objects, integers for floats, a key more than once. Whichever it was, the text that is
written for it is accepted and means the same (`codec_round_trip`). Nothing has to be asked of the
depth here, since what was accepted was within the limit and what is written for it is no
deeper (`Message.depth_le_of_ofJson`, `Reply.of_ofJson`). Nor of the constants, which come
from numbers of the text and are finite for that reason (`Number.isFinite_toDouble`).
-/

namespace GlBridge

/-! ### Numbers -/

/-- The magnitude of an integer does not depend on its sign. -/
theorem Format.nearest_intCast (f : Format) (i : Int) :
    f.nearest (i : Rat) = f.nearest (i.natAbs : Rat) := by
  rcases Int.eq_nat_or_neg i with ⟨n, rfl | rfl⟩
  · rfl
  · rw [Int.cast_neg, f.nearest_neg, Int.natAbs_neg]
    rfl

/-- A number of 64 bits is far below the largest float. -/
theorem Format.nearest_natCast_lt {n : Nat} (h : n < 2 ^ 64) :
    Format.double.nearest (n : Rat) < Format.double.infinityMagnitude := by
  rcases Nat.eq_zero_or_pos n with rfl | hpos
  · decide
  have hq : (0 : Rat) < n := by exact_mod_cast hpos
  have hlog : Int.log 2 (n : Rat) < 64 := by
    refine (Int.lt_zpow_iff_log_lt (by norm_num) hq).1 ?_
    exact_mod_cast h
  -- numbers of 64 bits are at most 2 ^ 11 apart, far from the last exponent
  have hmin : Format.double.minExponent = -1074 := by decide
  refine Format.nearest_lt_infinity hq ?_
  rw [hmin]
  show (max (-1074) (Int.log 2 (n : Rat) - 52) - -1074).toNat + 3 < 2 ^ 11
  omega

/-- So as a float it is a number. -/
theorem Double.isFinite_ofInt {i : Int} (h : i.natAbs < 2 ^ 64) :
    (Binary.ofInt i : Double).isFinite = true := by
  have hnear : Format.double.nearest (i : Rat) < Format.double.infinityMagnitude := by
    rw [Format.nearest_intCast]
    exact Format.nearest_natCast_lt h
  unfold Binary.ofInt Binary.isFinite
  rw [Binary.round_eq, Binary.magnitude_ofMagnitude _ (hnear.trans Binary.infinityMagnitude_lt)]
  exact decide_eq_true hnear

/-- Whatever number stands in a text, as a float it is finite. -/
theorem Number.isFinite_toDouble (n : Number) : n.toDouble.isFinite = true := by
  cases n with
  | integer i hi => exact Double.isFinite_ofInt (by omega)
  | float x hx => exact hx

/-! ### Instructions and commands -/

namespace Instruction

/-- What is written for an instruction is no deeper than the tree it was read from. -/
theorem depth_le_of_ofJson {nested : Bool} {j : Json} {i : Instruction}
    (h : ofJson? nested j = some i) : i.toJson.depth ≤ j.depth := by
  unfold ofJson? at h
  split at h
  next purpose op args hfields =>
    -- the three fields are taken from the tree one by one
    obtain ⟨p, -, h⟩ := Option.bind_eq_some_iff.1 h
    obtain ⟨name, -, h⟩ := Option.bind_eq_some_iff.1 h
    obtain ⟨values, hvalues, h⟩ := Option.bind_eq_some_iff.1 h
    obtain rfl := Option.some.inj h
    have hargs : args.depth < j.depth := Json.depth_field hfields (by simp)
    have hpos : 0 < j.depth := (Json.depth_lt_of_fields hfields).1
    refine Json.depth_object_le (fun m hm => ?_) hpos
    simp only [List.mem_cons, List.not_mem_nil, or_false] at hm
    rcases hm with rfl | rfl | rfl
    · exact hpos
    · exact hpos
    · exact (Json.depth_ofValues_le hvalues).trans_lt hargs
  next => cases h

/-- So for a list of them, item by item. -/
theorem depth_le_of_listOfJson {nested : Bool} {j : Json} {is : List Instruction}
    (h : listOfJson? nested j = some is) : (listToJson is).depth ≤ j.depth := by
  obtain ⟨items, hitems, h⟩ := Option.bind_eq_some_iff.1 h
  obtain rfl := Json.eq_array_of_items hitems
  refine Json.depth_array_le (fun k hk => ?_) (Nat.succ_pos _)
  obtain ⟨i, hi, rfl⟩ := List.mem_map.1 hk
  obtain ⟨item, hitem, hread⟩ := mem_of_mapM h hi
  exact (depth_le_of_ofJson hread).trans_lt (Json.depth_item hitem)

end Instruction

namespace Command

/-- So for a command, whose three fields lie within the tree. -/
theorem depth_le_of_ofJson {nested : Bool} {j : Json} {c : Command}
    (h : ofJson? nested j = some c) : c.toJson.depth ≤ j.depth := by
  unfold ofJson? at h
  split at h
  next op args instructions hfields =>
    obtain ⟨name, -, h⟩ := Option.bind_eq_some_iff.1 h
    obtain ⟨values, hvalues, h⟩ := Option.bind_eq_some_iff.1 h
    obtain ⟨is, his, h⟩ := Option.bind_eq_some_iff.1 h
    obtain rfl := Option.some.inj h
    have hargs : args.depth < j.depth := Json.depth_field hfields (by simp)
    have hinstructions : instructions.depth < j.depth := Json.depth_field hfields (by simp)
    have hpos : 0 < j.depth := (Json.depth_lt_of_fields hfields).1
    refine Json.depth_object_le (fun m hm => ?_) hpos
    simp only [List.mem_cons, List.not_mem_nil, or_false] at hm
    rcases hm with rfl | rfl | rfl
    · exact hpos
    · exact (Json.depth_ofValues_le hvalues).trans_lt hargs
    · exact (Instruction.depth_le_of_listOfJson his).trans_lt hinstructions
  next => cases h

end Command

/-! ### Messages -/

namespace Message

/-- A message is a record around its payload. -/
theorem depth_toJson_le {m : Message} {n : Nat} (h : m.payload.2.depth < n) :
    m.toJson.depth ≤ n := by
  have hpos : 0 < n := Nat.zero_lt_of_lt h
  refine Json.depth_object_le (fun p hp => ?_) hpos
  simp only [List.mem_cons, List.not_mem_nil, or_false] at hp
  rcases hp with rfl | rfl
  · exact hpos
  · exact h

/-- Of the five kinds of message each has one field, and that was read from one. -/
theorem depth_le_of_ofTagged {tag : String} {body : Json} {m : Message}
    (h : ofTagged? tag body = some m) : m.toJson.depth ≤ body.depth := by
  unfold ofTagged? at h
  split at h
  case h_6 => cases h
  all_goals
    -- the one field has to be there, and what is read of it becomes the message
    obtain ⟨fields, hfields, h⟩ := Option.bind_eq_some_iff.1 h
    split at h
    case h_2 => cases h
    obtain ⟨content, hcontent, h⟩ := Option.bind_eq_some_iff.1 h
    obtain rfl := Option.some.inj h
    refine depth_toJson_le (lt_of_le_of_lt ?_ (Json.depth_field hfields List.mem_cons_self))
  · exact Instruction.depth_le_of_listOfJson hcontent
  · exact Instruction.depth_le_of_listOfJson hcontent
  · exact Nat.zero_le _
  · exact Nat.zero_le _
  · exact Command.depth_le_of_ofJson hcontent

/-- **A message is no deeper than the tree it was read from.** -/
theorem depth_le_of_ofJson {j : Json} {m : Message} (h : ofJson? j = some m) :
    m.toJson.depth ≤ j.depth := by
  obtain ⟨⟨tag, body⟩, htagged, h⟩ := Option.bind_eq_some_iff.1 h
  exact (depth_le_of_ofTagged h).trans (Json.depth_le_of_tagged htagged)

end Message

/-! ### Replies -/

namespace Reply

/-- A reply is a record around its payload as well. -/
theorem depth_toJson_le {r : Reply} {n : Nat} (hpos : 0 < n)
    (h : ∀ p ∈ r.payload, p.2.depth < n) : r.toJson.depth ≤ n := by
  refine Json.depth_object_le (fun p hp => ?_) hpos
  rcases List.mem_cons.1 hp with rfl | hp
  · exact hpos
  · exact h p hp

/-- A number has no depth, be it written as one or as `null`. -/
theorem depth_floatToJson (x : Double) : (floatToJson x).depth = 0 := by
  unfold floatToJson
  split <;> rfl

/-- Constants are an object of numbers. -/
theorem depth_constantsToJson_le (d : Dictionary Double) : (constantsToJson d).depth ≤ 1 := by
  refine Json.depth_object_le (fun m hm => ?_) Nat.one_pos
  obtain ⟨e, -, rfl⟩ := List.mem_map.1 hm
  rw [depth_floatToJson]
  exact Nat.one_pos

/-- Names are an array of texts. -/
theorem depth_ofStrings_le (ss : List String) : (Json.ofStrings ss).depth ≤ 1 := by
  refine Json.depth_array_le (fun j hj => ?_) Nat.one_pos
  obtain ⟨s, -, rfl⟩ := List.mem_map.1 hj
  exact Nat.one_pos

/-- Constants are read from an object, whose numbers are finite as floats. -/
theorem of_constants {j : Json} {d : Dictionary Double} (h : constants? j = some d) :
    0 < j.depth ∧ ∀ e ∈ d.entries, e.2.isFinite = true := by
  unfold constants? at h
  split at h
  next members =>
    refine ⟨Nat.succ_pos _, fun e he => ?_⟩
    obtain ⟨entries, hentries, rfl⟩ := Option.map_eq_some_iff.1 h
    obtain ⟨m, -, hm⟩ := mem_of_mapM hentries (Dictionary.mem_of_mem_ofList he)
    obtain ⟨x, hx, rfl⟩ := Option.map_eq_some_iff.1 hm
    -- only a number is taken for a constant
    unfold float? at hx
    split at hx
    next number =>
      obtain rfl := Option.some.inj hx
      exact Number.isFinite_toDouble _
    next => cases hx
  next => cases h

/-- A reply that was read from its tag and its fields has finite constants and is no deeper than
these. This goes by the four kinds: only one of them has constants, which were read from numbers,
and whatever is written for a field stands in for a field that was at least as deep. -/
theorem of_ofTagged {tag : String} {body : Json} {r : Reply} (h : ofTagged? tag body = some r) :
    r.HasFiniteConstants ∧ r.toJson.depth ≤ body.depth := by
  unfold ofTagged? at h
  split at h
  case h_5 => cases h
  all_goals
    -- the fields of the kind have to be there, and they lie within the record
    obtain ⟨fields, hfields, h⟩ := Option.bind_eq_some_iff.1 h
    split at h
    case h_2 => cases h
    obtain ⟨hpos, hdepth⟩ := Json.depth_lt_of_fields hfields
  next data =>
    obtain ⟨v, hv, h⟩ := Option.bind_eq_some_iff.1 h
    obtain rfl := Option.some.inj h
    refine ⟨trivial, depth_toJson_le hpos fun p hp => ?_⟩
    obtain rfl := List.mem_singleton.1 hp
    exact (Json.depth_le_of_ofJson hv).trans_lt (hdepth data List.mem_cons_self)
  next data =>
    -- an error: its data is a record of its own around the message
    obtain ⟨messages, hmessages, h⟩ := Option.bind_eq_some_iff.1 h
    split at h
    case h_2 => cases h
    obtain ⟨s, -, h⟩ := Option.bind_eq_some_iff.1 h
    obtain rfl := Option.some.inj h
    refine ⟨trivial, depth_toJson_le hpos fun p hp => ?_⟩
    obtain rfl := List.mem_singleton.1 hp
    exact lt_of_le_of_lt (Json.depth_lt_of_fields hmessages).1 (hdepth data List.mem_cons_self)
  next target data =>
    obtain ⟨s, -, h⟩ := Option.bind_eq_some_iff.1 h
    obtain ⟨d, hd, h⟩ := Option.bind_eq_some_iff.1 h
    obtain rfl := Option.some.inj h
    -- constants are written as an object without depth of its own, and were read from an object
    obtain ⟨hdata, hfinite⟩ := of_constants hd
    refine ⟨hfinite, depth_toJson_le hpos fun p hp => ?_⟩
    have hinner : data.depth < body.depth := hdepth data (by simp)
    simp only [payload, List.mem_cons, List.not_mem_nil, or_false] at hp
    rcases hp with rfl | rfl
    · exact hpos
    · exact (depth_constantsToJson_le d).trans_lt (lt_of_le_of_lt hdata hinner)
  next target data =>
    obtain ⟨s, -, h⟩ := Option.bind_eq_some_iff.1 h
    obtain ⟨names, hnames, h⟩ := Option.bind_eq_some_iff.1 h
    obtain rfl := Option.some.inj h
    refine ⟨trivial, depth_toJson_le hpos fun p hp => ?_⟩
    have hinner : data.depth < body.depth := hdepth data (by simp)
    obtain ⟨items, hitems, -⟩ := Option.bind_eq_some_iff.1 hnames
    -- names are written as an array, and were read from one
    have hdata : 0 < data.depth := by
      rw [Json.eq_array_of_items hitems]
      exact Nat.succ_pos _
    simp only [payload, List.mem_cons, List.not_mem_nil, or_false] at hp
    rcases hp with rfl | rfl
    · exact hpos
    · exact (depth_ofStrings_le names).trans_lt (lt_of_le_of_lt hdata hinner)

/-- **A reply that was read has finite constants and is no deeper than its tree.** -/
theorem of_ofJson {j : Json} {r : Reply} (h : ofJson? j = some r) :
    r.HasFiniteConstants ∧ r.toJson.depth ≤ j.depth := by
  obtain ⟨⟨tag, body⟩, htagged, h⟩ := Option.bind_eq_some_iff.1 h
  obtain ⟨hfinite, hdepth⟩ := of_ofTagged h
  exact ⟨hfinite, hdepth.trans (Json.depth_le_of_tagged htagged)⟩

end Reply

/-! ### Texts -/

namespace Json

/-- What is written for a tree is read as the tree, whatever its depth. -/
theorem read_render (j : Json) : read? j.render.toList = some j := by
  rw [render, String.toList_ofList, read_write]

/-- A sound tree is read back from what is written for it. -/
theorem readSound_render {j : Json} (h : j.isSound = true) :
    readSound? j.render.toList = some j := by
  rw [readSound?, read_render, Option.filter_some, if_pos h]

/-- What is read is within the limit of depth. -/
theorem depth_of_readSound {cs : List Char} {j : Json} (h : readSound? cs = some j) :
    j.depth ≤ depthLimit := by
  have hsound : j.isSound = true := (Option.filter_eq_some_iff.1 h).2
  rw [isSound, Bool.and_eq_true] at hsound
  exact of_decide_eq_true hsound.2

end Json

/-- The one member `type` of a message is the tag of its kind. -/
theorem Message.member_tag (m : Message) :
    Json.member? "type" [(Json.tagKey, .string m.kind.tag), m.payload] =
      some (.string m.kind.tag) := by
  cases m <;> rfl

/-- And that of a reply is the tag of its kind. -/
theorem Reply.member_tag (r : Reply) :
    Json.member? "type" ((Json.tagKey, .string r.kind.tag) :: r.payload) =
      some (.string r.kind.tag) := by
  cases r <;> rfl

/-- A message that was read from a text is within the limit. -/
theorem Message.depth_of_read {s : String} {m : Message} (h : read? s = some m) :
    m.toJson.depth ≤ Json.depthLimit := by
  obtain ⟨j, hj, h⟩ := Option.bind_eq_some_iff.1 h
  exact (depth_le_of_ofJson h).trans (Json.depth_of_readSound hj)

/-- A reply that was read from a text can be written and read again. -/
theorem Reply.isReadable_of_read {s : String} {r : Reply} (h : read? s = some r) :
    r.IsReadable := by
  obtain ⟨j, hj, h⟩ := Option.bind_eq_some_iff.1 h
  obtain ⟨hfinite, hdepth⟩ := of_ofJson h
  exact ⟨hfinite, hdepth.trans (Json.depth_of_readSound hj)⟩

/-- **The codec of the wire.** A message is read back from its text, and so is a reply whose
constants are numbers, as long as they stay within the limit of depth; and the text is that of an
object whose one member `type` names the kind. Whatever text is accepted as a message or as a reply,
the text written for what was read is accepted too and read as the same. -/
theorem codec_round_trip :
    (∀ m : Message, m.toJson.depth ≤ Json.depthLimit → Message.read? m.render = some m) ∧
      (∀ r : Reply, r.HasFiniteConstants → r.toJson.depth ≤ Json.depthLimit →
        Reply.read? r.render = some r) ∧
      (∀ m : Message, ∃ members, Json.read? m.render.toList = some (.object members) ∧
        Json.member? "type" members = some (.string m.kind.tag)) ∧
      (∀ r : Reply, ∃ members, Json.read? r.render.toList = some (.object members) ∧
        Json.member? "type" members = some (.string r.kind.tag)) ∧
      (∀ (s : String) (m : Message), Message.read? s = some m →
        Message.read? m.render = some m) ∧
      ∀ (s : String) (r : Reply), Reply.read? s = some r → Reply.read? r.render = some r := by
  refine ⟨fun m hdepth => m.read_render hdepth, fun r hfinite hdepth => ?_, fun m => ?_,
    fun r => ?_, fun s m h => ?_, fun s r h => ?_⟩
  · exact Reply.read_render ⟨hfinite, hdepth⟩
  · exact ⟨_, Json.read_render m.toJson, m.member_tag⟩
  · exact ⟨_, Json.read_render r.toJson, r.member_tag⟩
  · exact m.read_render (Message.depth_of_read h)
  · exact Reply.read_render (Reply.isReadable_of_read h)

/-- A message as an array, with a purpose as an object and a key that stands twice, and constants
that are integers, among fields in another order and one that is ignored. -/
theorem codec_round_trip_spellings :
    let message : Message := .exec [.exec "f" [.string "\n", .null]]
    let reply : Reply := .constantsReply "gl" ⟨[("ONE", .ofInt 1)], List.pairwise_singleton _ _⟩
    let spelled : Json := .array [.string "exec", .array [.array [.object [("exec", .null)],
      .string "f", .array [.object [("b", .null), ("a", .bool true), ("b", .array [])]]]]]
    let constants : Json := .object [("data", .object [("TWO", .number (.ofNat 1 (by decide))),
      ("TWO", .number (.ofNat 2 (by decide)))]), ("more", .null),
      ("type", .string "constantsReply"), ("target", .string "gl")]
    (message.toJson.depth ≤ Json.depthLimit ∧ Message.read? message.render = some message) ∧
      (reply.HasFiniteConstants ∧ reply.toJson.depth ≤ Json.depthLimit ∧
        Reply.read? reply.render = some reply) ∧
      (∃ m, Message.read? spelled.render = some m ∧ Message.read? m.render = some m) ∧
      ∃ r, Reply.read? constants.render = some r ∧ Reply.read? r.render = some r := by
  intro message reply spelled constants
  obtain ⟨hmessage, hreply, -, -, hspelled, hconstants⟩ := codec_round_trip
  have hdepth : message.toJson.depth ≤ Json.depthLimit := by decide
  have hreplyDepth : reply.toJson.depth ≤ Json.depthLimit := by decide +kernel
  have hfinite : reply.HasFiniteConstants := by
    intro e he
    obtain rfl := List.mem_singleton.1 he
    exact Double.isFinite_ofInt (by decide)
  obtain ⟨m, hm⟩ : ∃ m, Message.read? spelled.render = some m := by
    rw [Message.read?, Json.readSound_render (by decide)]
    exact ⟨_, rfl⟩
  obtain ⟨r, hr⟩ : ∃ r, Reply.read? constants.render = some r := by
    rw [Reply.read?, Json.readSound_render (by decide)]
    exact ⟨_, rfl⟩
  have hread : Reply.read? reply.render = some reply := hreply reply hfinite hreplyDepth
  exact ⟨⟨hdepth, hmessage message hdepth⟩, ⟨hfinite, hreplyDepth, hread⟩,
    ⟨m, hm, hspelled _ m hm⟩, r, hr, hconstants _ r hr⟩

end GlBridge
