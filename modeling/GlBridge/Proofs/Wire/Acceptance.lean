import GlBridge.Proofs.Wire.Reread
import GlBridge.Proofs.Wire.Respelling

/-!
# What texts are accepted

A text is read as a message just if its tree is a spelling of that message, and likewise for
commands, instructions and replies (`accepted_spellings`). What the grammar and the shapes say of
trees is carried over to texts here, for all trees that stay within the limit of depth.

A reader of commands or of instructions drops what it ignores before it looks at the depth. Within
the limit this makes no difference: the tree that is left is no deeper (`Json.Within`) and spells
the same (`Instruction.spelledBy_restrict`, `Command.spelledBy_restrict`).
-/

namespace GlBridge

/-! ### What is ignored -/

namespace Json

/-- The one tree is no deeper than the other, and has a flaw only if the other has one. -/
structure Within (j k : Json) : Prop where
  depth : j.depth ≤ k.depth
  flawless : k.isFlawless = true → j.isFlawless = true

namespace Within

variable {j k : Json}

/-- Every tree lies within itself. -/
theorem refl (j : Json) : j.Within j := ⟨Nat.le_refl _, id⟩

/-- An object lies within another one if each of its members does within one of the other's. -/
theorem object {members members' : List (String × Json)}
    (h : ∀ m ∈ members, ∃ m' ∈ members', m.2.Within m'.2) :
    (Json.object members).Within (.object members') := by
  constructor
  · refine depth_object_le (fun m hm => ?_) (Nat.succ_pos _)
    obtain ⟨m', hm', hwithin⟩ := h m hm
    exact Nat.lt_of_le_of_lt hwithin.depth (depth_member hm')
  · -- a flaw in a member would be one in the other object
    intro hflawless
    refine membersFlawless_iff.2 fun m hm => ?_
    obtain ⟨m', hm', hwithin⟩ := h m hm
    exact hwithin.flawless (membersFlawless_iff.1 hflawless m' hm')

/-- An array lies within another one likewise. -/
theorem array {items items' : List Json} (h : ∀ j ∈ items, ∃ j' ∈ items', j.Within j') :
    (Json.array items).Within (.array items') := by
  constructor
  · refine depth_array_le (fun j hj => ?_) (Nat.succ_pos _)
    obtain ⟨j', hj', hwithin⟩ := h j hj
    exact Nat.lt_of_le_of_lt hwithin.depth (depth_item hj')
  · intro hflawless
    refine itemsFlawless_iff.2 fun j hj => ?_
    obtain ⟨j', hj', hwithin⟩ := h j hj
    exact hwithin.flawless (itemsFlawless_iff.1 hflawless j' hj')

/-- What lies within a sound tree is sound. -/
theorem isSound (h : j.Within k) (hk : k.isSound = true) : j.isSound = true := by
  unfold Json.isSound at hk ⊢
  rw [Bool.and_eq_true, decide_eq_true_eq] at hk ⊢
  exact ⟨h.flawless hk.1, h.depth.trans hk.2⟩

end Within

/-- A record without what is ignored lies within the record. -/
theorem restrict_within (names : List String) (j : Json) : (j.restrict names).Within j := by
  cases j with
  | object members => exact .object fun m hm => ⟨m, (List.mem_filter.1 hm).1, .refl _⟩
  | _ => exact .refl _

variable {fields : List (String × (Json → Prop))} {j : Json}

/-- A record is as good without the members that are no fields. -/
theorem isRecord_restrict {names : List String} (h : ∀ f ∈ fields, f.1 ∈ names) :
    IsRecord fields (j.restrict names) ↔ IsRecord fields j := by
  cases j with
  | object members => exact isRecord_filter fun f hf m hm => decide_eq_true (hm ▸ h f hf)
  | _ => exact Iff.rfl

/-- A record is as good with other values that its fields cannot tell from the ones it has. -/
theorem isRecord_map {g : String → Json → Json} (hg : ∀ f ∈ fields, ∀ j, f.2 (g f.1 j) ↔ f.2 j)
    (members : List (String × Json)) :
    IsRecord fields (.object (members.map fun m => (m.1, g m.1 m.2))) ↔
      IsRecord fields (.object members) := by
  -- a key stands once among the new members just if it does among the old ones
  have honce : ∀ key j, HasOnce key j (members.map fun m => (m.1, g m.1 m.2)) ↔
      ∃ k, HasOnce key k members ∧ j = g key k := by
    intro key j
    simp only [hasOnce_iff, List.filter_map, List.map_eq_singleton_iff, Function.comp_def]
    constructor
    · rintro ⟨⟨name, k⟩, hfilter, heq⟩
      obtain ⟨rfl, rfl⟩ := Prod.mk.inj heq
      exact ⟨k, hfilter, rfl⟩
    · rintro ⟨k, hfilter, rfl⟩
      exact ⟨(key, k), hfilter, rfl⟩
  rw [isRecord_object, isRecord_object]
  refine forall₂_congr fun f hf => ?_
  simp only [honce]
  constructor
  · rintro ⟨_, ⟨k, hk, rfl⟩, hgk⟩
    exact ⟨k, hk, (hg f hf k).1 hgk⟩
  · rintro ⟨k, hk, hfk⟩
    exact ⟨_, ⟨k, hk, rfl⟩, (hg f hf k).2 hfk⟩

end Json

section Ignored

variable {purposes : Purpose → Json → Prop} {j : Json}

/-- What is ignored does not matter to the spelling of an instruction. -/
theorem Instruction.spelledBy_restrict {i : Instruction} :
    i.SpelledBy purposes (j.restrict fieldNames) ↔ i.SpelledBy purposes j :=
  Json.isRecord_restrict (by simp [fieldNames])

/-- A list of instructions lies within itself when each item is left without what is ignored. -/
theorem Instruction.restrictList_within (j : Json) : (restrictList j).Within j := by
  cases j with
  | array items =>
    refine .array fun k hk => ?_
    obtain ⟨item, hitem, rfl⟩ := List.mem_map.1 hk
    exact ⟨item, hitem, Json.restrict_within _ _⟩
  | _ => exact .refl _

/-- Nor does it matter to the spelling of a list. -/
theorem Instruction.listSpelledBy_restrict {is : List Instruction} :
    Json.IsListOf (SpelledBy purposes) is (restrictList j) ↔
      Json.IsListOf (SpelledBy purposes) is j := by
  cases j with
  | array items =>
    simp [Json.IsListOf, restrictList, List.forall₂_map_right_iff, spelledBy_restrict]
  | _ => exact Iff.rfl

namespace Command

/-- How a reader changes the value of a member. -/
def ignoring (key : String) (j : Json) : Json :=
  if key = "instructions" then Instruction.restrictList j else j

/-- What is left of a command that is an object: its fields, with what is ignored in them left
out. -/
theorem restrict_object (members : List (String × Json)) : restrict (.object members) =
    .object ((members.filter fun m => m.1 ∈ fieldNames).map fun m => (m.1, ignoring m.1 m.2)) := by
  refine congrArg Json.object (List.map_congr_left fun m _ => ?_)
  unfold ignoring
  split <;> rfl

/-- Only an array of three items is changed, and of that only the last. -/
theorem restrict_array (items : List Json) :
    (∃ op args is, items = [op, args, is] ∧
        restrict (.array items) = .array [op, args, Instruction.restrictList is]) ∨
      restrict (.array items) = .array items := by
  match items with
  | [op, args, is] => exact .inl ⟨op, args, is, rfl, rfl⟩
  | [] | [_] | [_, _] | _ :: _ :: _ :: _ :: _ => exact .inr rfl

/-- Nor to that of a command, where members are dropped at two levels. -/
theorem spelledBy_restrict {c : Command} :
    c.SpelledBy purposes (restrict j) ↔ c.SpelledBy purposes j := by
  cases j with
  | object members =>
    -- the members that are no fields first, and then what is ignored in the fields
    have hfields : c.SpelledBy purposes ((Json.object members).restrict fieldNames) ↔
        c.SpelledBy purposes (.object members) := Json.isRecord_restrict (by simp [fieldNames])
    rw [restrict_object]
    refine (Json.isRecord_map ?_ _).trans hfields
    simp [ignoring, Instruction.listSpelledBy_restrict]
  | array items =>
    -- an array of another length is left alone, and spells no command in either case
    obtain ⟨op, args, is, rfl, heq⟩ | heq := restrict_array items
    · rw [heq]
      simp [SpelledBy, Json.isRecord_array, Instruction.listSpelledBy_restrict]
    · rw [heq]
  | _ => exact Iff.rfl

/-- A command without what is ignored lies within the command. -/
theorem restrict_within (j : Json) : (restrict j).Within j := by
  cases j with
  | object members =>
    rw [restrict_object]
    refine .object fun m hm => ?_
    obtain ⟨m', hm', rfl⟩ := List.mem_map.1 hm
    -- every member that is left was one of the command's, with the list of instructions cut down
    refine ⟨m', (List.mem_filter.1 hm').1, ?_⟩
    dsimp only
    unfold ignoring
    split
    · exact Instruction.restrictList_within _
    · exact .refl _
  | array items =>
    obtain ⟨op, args, is, rfl, heq⟩ | heq := restrict_array items
    · rw [heq]
      refine .array fun k hk => ?_
      simp only [List.mem_cons, List.not_mem_nil, or_false] at hk
      rcases hk with rfl | rfl | rfl
      · exact ⟨_, by simp, .refl _⟩
      · exact ⟨_, by simp, .refl _⟩
      · exact ⟨is, by simp, Instruction.restrictList_within is⟩
    · rw [heq]
      exact .refl _
  | _ => exact .refl _

end Command

end Ignored

/-! ### Texts -/

section Texts

variable {s : String} {j : Json}

/-- The text of a sound tree is read as a message just if the tree spells it. -/
theorem Message.read_iff (h : Json.readSound? s.toList = some j) {m : Message} :
    read? s = some m ↔ m.SpelledBy (Purpose.SpelledBy true) j := by
  rw [read?, h, Option.bind_some, ofJson_iff]

/-- Likewise for replies. -/
theorem Reply.read_iff (h : Json.readSound? s.toList = some j) {r : Reply} :
    read? s = some r ↔ r.SpelledBy j := by
  rw [read?, h, Option.bind_some, ofJson_iff]

/-- Instructions are read from what is left when members that are no fields are dropped, which is
sound and spells the same. -/
theorem Instruction.read_iff (h : Json.readSound? s.toList = some j) {i : Instruction} :
    read? s = some i ↔ i.SpelledBy (Purpose.SpelledBy false) j := by
  obtain ⟨hread, hsound⟩ := Option.filter_eq_some_iff.1 h
  have hrestrict := (Json.restrict_within fieldNames j).isSound hsound
  rw [read?, hread, Option.map_some, Option.filter_some, if_pos hrestrict, Option.bind_some,
    ofJson_iff, spelledBy_restrict]

/-- Likewise for commands. -/
theorem Command.read_iff (h : Json.readSound? s.toList = some j) {c : Command} :
    read? s = some c ↔ c.SpelledBy (Purpose.SpelledBy false) j := by
  obtain ⟨hread, hsound⟩ := Option.filter_eq_some_iff.1 h
  have hrestrict := (restrict_within j).isSound hsound
  rw [read?, hread, Option.map_some, Option.filter_some, if_pos hrestrict, Option.bind_some,
    ofJson_iff, spelledBy_restrict]

end Texts

/-- How texts are read whose tree is within the limit of depth. -/
structure ReadsSpellings {α : Type} (read? : String → Option α) (SpelledBy : α → Json → Prop)
    (shape : Json.Shape) : Prop where
  /-- a text is read as what its tree spells, and refused if it spells nothing -/
  grammar : ∀ {s j}, Json.readSound? s.toList = some j → ∀ a, read? s = some a ↔ SpelledBy a j
  /-- the order of members and members that are no fields make no difference, however often and
  wherever they are changed, -/
  respelled : ∀ {s s' j j'}, Json.readSound? s.toList = some j →
    Json.readSound? s'.toList = some j' → Relation.EqvGen shape.Respelled j j' → read? s = read? s'
  /-- and a tree with a broken record is refused -/
  broken : ∀ {s j}, Json.readSound? s.toList = some j → shape.Broken j → read? s = none

/-- A reader that goes by the grammar reads spellings, if the grammar goes with the shape. -/
theorem readsSpellings_of {α : Type} {read? : String → Option α} {SpelledBy : α → Json → Prop}
    {shape : Json.Shape}
    (hgrammar : ∀ {s j}, Json.readSound? s.toList = some j → ∀ a, read? s = some a ↔ SpelledBy a j)
    (hshape : ∀ a, shape.Describes (SpelledBy a)) : ReadsSpellings read? SpelledBy shape := by
  refine ⟨hgrammar, fun h h' hstep => ?_, fun h hbroken => ?_⟩
  · -- both texts are read as whatever the two trees spell, which is the same
    refine Option.ext fun a => ?_
    rw [hgrammar h, hgrammar h', (hshape a).eqvGen hstep]
  · -- a broken tree spells nothing
    refine Option.eq_none_iff_forall_ne_some.2 fun a ha => ?_
    exact (hshape a).broken hbroken ((hgrammar h a).1 ha)

/-- **What is accepted on the wire.** Messages, commands, instructions and replies are read from the
texts whose trees spell them, by the grammar. A purpose is spelled by its word or by an object that
maps the word to `null`, and in a message also by one that maps it to the empty object. Any tree
spells a value. -/
theorem accepted_spellings :
    ReadsSpellings Message.read? (Message.SpelledBy (Purpose.SpelledBy true)) Message.shape ∧
      ReadsSpellings Command.read? (Command.SpelledBy (Purpose.SpelledBy false)) Command.shape ∧
      ReadsSpellings Instruction.read? (Instruction.SpelledBy (Purpose.SpelledBy false))
        Instruction.shape ∧
      ReadsSpellings Reply.read? Reply.SpelledBy Reply.shape ∧
      ∀ j : Json, j.isSound = true → ∃ v : Value, v.SpelledBy j := by
  refine ⟨?_, ?_, ?_, ?_, fun j hsound => ?_⟩
  · exact readsSpellings_of (fun h _ => Message.read_iff h) Message.describes
  · exact readsSpellings_of (fun h _ => Command.read_iff h) Command.describes
  · exact readsSpellings_of (fun h _ => Instruction.read_iff h) Instruction.describes
  · exact readsSpellings_of (fun h _ => Reply.read_iff h) Reply.describes
  · have hflawless : j.isFlawless = true := (Bool.and_eq_true_iff.1 hsound).1
    exact ⟨_, dif_pos hflawless⟩

/-- With the word and the object with `null` alone the grammar would be too narrow for messages. -/
theorem message_with_empty_object :
    let instruction : Json := .object
      [("type", .object [("exec", .object [])]), ("op", .string "f"), ("args", .array [])]
    let tree : Json := .object [("type", .string "exec"), ("instructions", .array [instruction])]
    Json.readSound? tree.render.toList = some tree ∧
      Message.read? tree.render = some (.exec [.exec "f" []]) ∧
      ¬(Message.exec [.exec "f" []]).SpelledBy Purpose.Plain tree := by
  intro instruction tree
  have hread : Json.readSound? tree.render.toList = some tree := Json.readSound_render (by decide)
  refine ⟨hread, ?_, fun h => ?_⟩
  · rw [Message.read?, hread]
    rfl
  · -- go down to the purpose of the one instruction
    obtain ⟨_, hlist, items, rfl, hitems⟩ := Json.isRecord_object.1 h ("instructions", _)
      (List.mem_cons_of_mem _ List.mem_cons_self)
    obtain rfl := Json.array.inj (hlist.eq_of_mem (List.mem_cons_of_mem _ List.mem_cons_self))
    obtain ⟨hitem, -⟩ := List.forall₂_cons.1 hitems
    obtain ⟨_, hpurpose, hplain⟩ := Json.isRecord_object.1 hitem ("type", _) List.mem_cons_self
    obtain rfl := hpurpose.eq_of_mem List.mem_cons_self
    rcases hplain with hplain | hplain <;> cases hplain

end GlBridge
