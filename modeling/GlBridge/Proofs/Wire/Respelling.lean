import GlBridge.Proofs.Wire.Grammar
import Mathlib.Logic.Relation

/-!
# What may be changed in a spelling, and what may not

A `Json.Shape` says which parts of a tree are records. It is enough to say what changes a tree
without a change of its meaning (`Json.Shape.Respelled`): the members of a record come in another
order, or a member is added that is no field. And it is enough to say what is no spelling of
anything (`Json.Shape.Broken`): a field is missing or stands twice, an array has another length than
there are fields, a tag is not one of the tags.

Both may be the case anywhere in a tree, so both are defined by going down along the shape. The
grammar goes with the shape (`Json.Shape.Describes`), for which there is one rule for each
constructor. For readers of texts the three are put together in `accepted_spellings`.
-/

namespace GlBridge

namespace Json

/-- Which parts of a tree are records. -/
inductive Shape where
  /-- no part of it -/
  | plain
  /-- one of some words, or an object that maps the word to something -/
  | word (words : List String)
  /-- an array of parts of one shape -/
  | list (item : Shape)
  /-- a record, with the shape of each field -/
  | record (fields : List (String × Shape))
  /-- a record that begins with its tag; the other fields depend on that -/
  | tagged (variants : List (String × List (String × Shape)))

/-- The tree names the variant, at the place where a tag is looked for. -/
def HasTag (tag : String) : Json → Prop
  | .object members => (tagKey, .string tag) ∈ members
  | .array items => items.head? = some (.string tag)
  | _ => False

namespace Shape

/-- One tree is the other one with the members of a record in another order, or with one more member
that is no field. -/
inductive Respelled : Shape → Json → Json → Prop
  /-- the members come in another order -/
  | reorder {fields : List (String × Shape)} {members members' : List (String × Json)}
    (h : members.Perm members') : Respelled (.record fields) (.object members) (.object members')
  /-- there is one more member, which is no field -/
  | insert {fields : List (String × Shape)} {front back : List (String × Json)} {key : String}
    {j : Json} (hkey : key ∉ fields.map Prod.fst) :
    Respelled (.record fields) (.object (front ++ back)) (.object (front ++ (key, j) :: back))
  /-- a member is respelled that is a field, -/
  | member {fields : List (String × Shape)} {front back : List (String × Json)} {key : String}
    {shape : Shape} {j j' : Json} (hfield : (key, shape) ∈ fields) (h : Respelled shape j j') :
    Respelled (.record fields) (.object (front ++ (key, j) :: back))
      (.object (front ++ (key, j') :: back))
  /-- or an item that is one, -/
  | field {fields : List (String × Shape)} {front back : List Json} {key : String} {shape : Shape}
    {j j' : Json} (hfield : fields[front.length]? = some (key, shape)) (h : Respelled shape j j') :
    Respelled (.record fields) (.array (front ++ j :: back)) (.array (front ++ j' :: back))
  /-- or an item of a list -/
  | item {shape : Shape} {front back : List Json} {j j' : Json} (h : Respelled shape j j') :
    Respelled (.list shape) (.array (front ++ j :: back)) (.array (front ++ j' :: back))
  /-- a tagged record is respelled as a record, and keeps its tag -/
  | variant {variants : List (String × List (String × Shape))} {tag : String}
    {fields : List (String × Shape)} {j j' : Json} (hvariant : (tag, fields) ∈ variants)
    (htag : HasTag tag j) (htag' : HasTag tag j')
    (h : Respelled (.record ((tagKey, .plain) :: fields)) j j') :
    Respelled (.tagged variants) j j'

/-- Somewhere in the tree a record is broken. -/
inductive Broken : Shape → Json → Prop
  /-- a field is missing -/
  | missing {fields : List (String × Shape)} {members : List (String × Json)} {name : String}
    (hname : name ∈ fields.map Prod.fst) (h : ∀ m ∈ members, m.1 ≠ name) :
    Broken (.record fields) (.object members)
  /-- or it stands twice -/
  | repeated {fields : List (String × Shape)} {front middle back : List (String × Json)}
    {name : String} {j j' : Json} (hname : name ∈ fields.map Prod.fst) :
    Broken (.record fields) (.object (front ++ (name, j) :: (middle ++ (name, j') :: back)))
  /-- an array has another length than there are fields -/
  | length {fields : List (String × Shape)} {items : List Json}
    (h : items.length ≠ fields.length) : Broken (.record fields) (.array items)
  /-- none of the words is there -/
  | word {words : List String} {j : Json}
    (h : ∀ s ∈ words, j ≠ .string s ∧ ∀ k, j ≠ .object [(s, k)]) : Broken (.word words) j
  /-- in particular if the tag is a number, or in other letters -/
  | tag {variants : List (String × List (String × Shape))} {j : Json}
    (h : ∀ variant ∈ variants, ¬HasTag variant.1 j) : Broken (.tagged variants) j
  /-- a tagged record is broken as a record -/
  | variant {variants : List (String × List (String × Shape))} {tag : String}
    {fields : List (String × Shape)} {j : Json} (hvariant : (tag, fields) ∈ variants)
    (htag : HasTag tag j) (h : Broken (.record ((tagKey, .plain) :: fields)) j) :
    Broken (.tagged variants) j
  /-- a member that is a field is broken, -/
  | member {fields : List (String × Shape)} {members : List (String × Json)} {key : String}
    {shape : Shape} {j : Json} (hfield : (key, shape) ∈ fields) (hmember : (key, j) ∈ members)
    (h : Broken shape j) : Broken (.record fields) (.object members)
  /-- or an item that is one, -/
  | field {fields : List (String × Shape)} {front back : List Json} {key : String} {shape : Shape}
    {j : Json} (hfield : fields[front.length]? = some (key, shape)) (h : Broken shape j) :
    Broken (.record fields) (.array (front ++ j :: back))
  /-- or an item of a list -/
  | item {shape : Shape} {items : List Json} {j : Json} (hitem : j ∈ items) (h : Broken shape j) :
    Broken (.list shape) (.array items)

/-- The predicate goes with the shape: it does not see how a record is spelled, and holds of no
tree that is broken. -/
structure Describes (shape : Shape) (P : Json → Prop) : Prop where
  respelled : ∀ {j j'}, shape.Respelled j j' → (P j ↔ P j')
  broken : ∀ {j}, shape.Broken j → ¬P j

end Shape

/-! ### Members and items -/

section Parts

variable {key name : String} {j k : Json} {members members' : List (String × Json)}

/-- The order of members makes no difference to what stands once. -/
theorem HasOnce.perm (h : members.Perm members') :
    HasOnce key j members ↔ HasOnce key j members' := by
  rw [hasOnce_iff, hasOnce_iff]
  -- the members with this key are the same but for their order, and there is one of them
  have hfilter := h.filter fun m => m.1 = key
  constructor
  · intro heq
    rw [heq] at hfilter
    exact (List.singleton_perm.1 hfilter).symm
  · intro heq
    rw [heq] at hfilter
    exact List.perm_singleton.1 hfilter

/-- Nor does a member in front that has another key. -/
theorem hasOnce_cons_of_ne (h : name ≠ key) :
    HasOnce key j ((name, k) :: members) ↔ HasOnce key j members := by
  rw [hasOnce_iff, hasOnce_iff, List.filter_cons_of_neg (by simpa using h)]

/-- If the member in front has the key, it is the one. -/
theorem hasOnce_cons_self :
    HasOnce key j ((key, k) :: members) ↔ j = k ∧ ∀ m ∈ members, m.1 ≠ key := by
  rw [hasOnce_iff, List.filter_cons_of_pos (by simp), List.cons.injEq, Prod.mk.injEq,
    List.filter_eq_nil_iff]
  constructor
  · rintro ⟨⟨-, rfl⟩, hnone⟩
    exact ⟨rfl, fun m hm hkey => hnone m hm (decide_eq_true hkey)⟩
  · rintro ⟨rfl, hnone⟩
    exact ⟨⟨rfl, rfl⟩, fun m hm hkey => hnone m hm (of_decide_eq_true hkey)⟩

/-- A member that stands once is found wherever it stands. -/
theorem HasOnce.eq_of_mem (h : HasOnce key j members) (hk : (key, k) ∈ members) : j = k := by
  obtain ⟨front, back, rfl⟩ := List.append_of_mem hk
  exact (hasOnce_cons_self.1 ((HasOnce.perm List.perm_middle).1 h)).1

variable {α β : Type} {R : α → β → Prop} {as : List α} {front back : List β} {a : α} {b b' : β}

/-- One item of several is as its place demands, apart from the others. -/
theorem forall₂_middle (h : as[front.length]? = some a) :
    List.Forall₂ R as (front ++ b :: back) ↔ R a b ∧
      List.Forall₂ R (as.take front.length) front ∧
        List.Forall₂ R (as.drop (front.length + 1)) back := by
  induction front generalizing as with
  | nil =>
    obtain ⟨rest, rfl⟩ : ∃ rest, as = a :: rest := by
      cases as with
      | nil => cases h
      | cons a' rest => exact ⟨rest, congrArg (· :: rest) (Option.some.inj h)⟩
    simp
  | cons c front ih =>
    cases as with
    | nil => cases h
    | cons a' rest =>
      rw [List.cons_append, List.forall₂_cons, ih h, List.length_cons, List.take_succ_cons,
        List.forall₂_cons, List.drop_succ_cons]
      tauto

/-- Where every item is as good as another, it may stand for the other. -/
theorem forall₂_replace (h : ∀ a, R a b ↔ R a b') :
    List.Forall₂ R as (front ++ b :: back) ↔ List.Forall₂ R as (front ++ b' :: back) := by
  induction front generalizing as with
  | nil => simp only [List.nil_append, List.forall₂_cons_right_iff, h]
  | cons c front ih => simp only [List.cons_append, List.forall₂_cons_right_iff, ih]

end Parts

/-- A tagged record names no variant but its own. -/
theorem IsVariant.hasTag_iff {fields : List (String × (Json → Prop))} {tag t : String} {j : Json}
    (h : IsVariant tag fields j) : HasTag t j ↔ t = tag := by
  cases h with
  | object h =>
    -- the tag stands once among the members, so no other one does
    obtain ⟨⟨_, honce, rfl⟩, -⟩ := List.forall_mem_cons.1 h
    constructor
    · intro htag
      exact (Json.string.inj (honce.eq_of_mem htag)).symm
    · rintro rfl
      obtain ⟨front, back, rfl, -⟩ := honce
      exact List.mem_append_right _ List.mem_cons_self
  | array h =>
    obtain ⟨_, rest, rfl, -, rfl⟩ := List.forall₂_cons_left_iff.1 h
    simp [HasTag, eq_comm]

/-! ### Shapes and grammar -/

namespace Shape.Describes

/-- It does not see any number of changes either. -/
theorem eqvGen {shape : Shape} {P : Json → Prop} (h : shape.Describes P) {j j' : Json}
    (hchanges : Relation.EqvGen shape.Respelled j j') : P j ↔ P j' := by
  induction hchanges with
  | rel _ _ hstep => exact h.respelled hstep
  | refl _ => exact Iff.rfl
  | symm _ _ _ ih => exact ih.symm
  | trans _ _ _ _ _ ih₁ ih₂ => exact ih₁.trans ih₂

/-- A part without records has nothing to respell and nothing to break. -/
theorem plain (P : Json → Prop) : Shape.plain.Describes P := ⟨nofun, nofun⟩

/-- Words go with their shape: either they are spelled as such, or not at all. -/
theorem word {words : List String} {P : Json → Prop}
    (h : ∀ j, P j → ∃ s ∈ words, j = .string s ∨ ∃ k, j = .object [(s, k)]) :
    (Shape.word words).Describes P := by
  refine ⟨nofun, fun hbroken hP => ?_⟩
  cases hbroken with
  | word hnone =>
    obtain ⟨s, hs, rfl | ⟨k, rfl⟩⟩ := h _ hP
    · exact (hnone s hs).1 rfl
    · exact (hnone s hs).2 k rfl

/-- Lists go with their shape if their items do. -/
theorem list {shape : Shape} {α : Type} {SpelledBy : α → Json → Prop}
    (h : ∀ a, shape.Describes (SpelledBy a)) (as : List α) :
    (Shape.list shape).Describes (IsListOf SpelledBy as) := by
  have harray : ∀ items, IsListOf SpelledBy as (.array items) ↔ List.Forall₂ SpelledBy as items :=
    fun items => ⟨fun ⟨_, heq, hall⟩ => Json.array.inj heq ▸ hall, fun hall => ⟨items, rfl, hall⟩⟩
  constructor
  · intro j j' hstep
    cases hstep with
    | item hstep =>
      rw [harray, harray]
      exact forall₂_replace fun a => (h a).respelled hstep
  · intro j hbroken hlist
    cases hbroken with
    | item hitem hbroken =>
      -- the broken item would have to be a spelling of what is in its place
      have hall := (harray _).1 hlist
      obtain ⟨i, hi, rfl⟩ := List.getElem_of_mem hitem
      exact (h _).broken hbroken (hall.get (hall.length_eq ▸ hi) hi)

section Record

variable {shapes : List (String × Shape)} {fields : List (String × (Json → Prop))}

/-- A record goes with its shape if its fields do. -/
theorem record (hnames : fields.map Prod.fst = shapes.map Prod.fst)
    (hall : ∀ s ∈ shapes, ∀ f ∈ fields, f.1 = s.1 → s.2.Describes f.2) :
    (Shape.record shapes).Describes (IsRecord fields) := by
  -- at the place of a shape in an array there is a field of the same name
  have hplace : ∀ {i : Nat} {key : String} {shape : Shape}, shapes[i]? = some (key, shape) →
      ∃ f, fields[i]? = some f ∧ shape.Describes f.2 := by
    intro i key shape hi
    have hkey : (fields.map Prod.fst)[i]? = some key := by
      rw [hnames, List.getElem?_map, hi]
      rfl
    rw [List.getElem?_map] at hkey
    obtain ⟨f, hf, rfl⟩ := Option.map_eq_some_iff.1 hkey
    exact ⟨f, hf, hall _ (List.mem_of_getElem? hi) f (List.mem_of_getElem? hf) rfl⟩
  constructor
  · intro j j' hstep
    cases hstep with
    | reorder hperm =>
      rw [isRecord_object, isRecord_object]
      exact forall₂_congr fun f _ => exists_congr fun k => and_congr_left' (HasOnce.perm hperm)
    | insert hkey =>
      -- with the new member in front it is seen to be none of the fields
      rw [isRecord_object, isRecord_object]
      refine forall₂_congr fun f hf => exists_congr fun k => and_congr_left' ?_
      rw [HasOnce.perm List.perm_middle, hasOnce_cons_of_ne]
      rintro rfl
      exact hkey (hnames ▸ List.mem_map_of_mem hf)
    | @member _ _ _ key shape v v' hfield hstep =>
      rw [isRecord_object, isRecord_object]
      refine forall₂_congr fun f hf => ?_
      simp only [HasOnce.perm List.perm_middle]
      by_cases hkey : f.1 = key
      · -- it is this field that is spelled in another way
        subst hkey
        have hsame : f.2 v ↔ f.2 v' := (hall _ hfield f hf rfl).respelled hstep
        simp [hasOnce_cons_self, hsame]
      · simp only [hasOnce_cons_of_ne (Ne.symm hkey)]
    | field hfield hstep =>
      -- the item is spelled in another way, and the items around it are the same
      obtain ⟨f, hf, hdescribes⟩ := hplace hfield
      rw [isRecord_array, isRecord_array, forall₂_middle hf, forall₂_middle hf,
        hdescribes.respelled hstep]
  · intro j hbroken hrecord
    cases hbroken with
    | missing hname hnone =>
      rw [← hnames] at hname
      obtain ⟨f, hf, rfl⟩ := List.mem_map.1 hname
      obtain ⟨k, ⟨front, back, rfl, -⟩, -⟩ := isRecord_object.1 hrecord f hf
      exact hnone (f.1, k) (by simp) rfl
    | @repeated _ _ _ _ _ _ v' hname =>
      -- with the first of the two in front, the second is one too many
      rw [← hnames] at hname
      obtain ⟨f, hf, rfl⟩ := List.mem_map.1 hname
      obtain ⟨k, honce, -⟩ := isRecord_object.1 hrecord f hf
      have hothers := (hasOnce_cons_self.1 ((HasOnce.perm List.perm_middle).1 honce)).2
      exact hothers (f.1, v') (by simp) rfl
    | length hlength =>
      have hsame : fields.length = shapes.length := by
        simpa using congrArg List.length hnames
      exact hlength ((isRecord_array.1 hrecord).length_eq.symm.trans hsame)
    | @member _ _ key shape v hfield hmember hbroken =>
      have hname : key ∈ fields.map Prod.fst := hnames ▸ List.mem_map_of_mem hfield
      obtain ⟨f, hf, rfl⟩ := List.mem_map.1 hname
      obtain ⟨k, honce, hk⟩ := isRecord_object.1 hrecord f hf
      -- the broken member is the only one with its key, so it is the field
      obtain rfl := honce.eq_of_mem hmember
      exact (hall _ hfield f hf rfl).broken hbroken hk
    | field hfield hbroken =>
      obtain ⟨f, hf, hdescribes⟩ := hplace hfield
      exact hdescribes.broken hbroken ((forall₂_middle hf).1 (isRecord_array.1 hrecord)).1

end Record

/-- A tagged record goes with the shapes of the variants if it goes with that of its own, and no
other one has its tag. -/
theorem tagged {variants : List (String × List (String × Shape))} {tag : String}
    {shapes : List (String × Shape)} {fields : List (String × (Json → Prop))}
    (hvariant : (tag, shapes) ∈ variants) (honly : ∀ v ∈ variants, v.1 = tag → v.2 = shapes)
    (h : (Shape.record ((tagKey, .plain) :: shapes)).Describes (IsVariant tag fields)) :
    (Shape.tagged variants).Describes (IsVariant tag fields) := by
  constructor
  · intro j j' hstep
    cases hstep with
    | @variant _ tag' shapes' _ _ hvariant' htag htag' hstep =>
      by_cases hsame : tag' = tag
      · obtain rfl : shapes' = shapes := honly _ hvariant' hsame
        exact h.respelled hstep
      · -- neither tree is a record of this variant
        exact ⟨fun hj => absurd (hj.hasTag_iff.1 htag) hsame,
          fun hj' => absurd (hj'.hasTag_iff.1 htag') hsame⟩
  · intro j hbroken hj
    cases hbroken with
    | tag hnone => exact hnone _ hvariant (hj.hasTag_iff.2 rfl)
    | @variant _ tag' shapes' _ hvariant' htag hbroken =>
      obtain rfl : shapes' = shapes := honly _ hvariant' (hj.hasTag_iff.1 htag)
      exact h.broken hbroken hj

end Shape.Describes

end Json

/-! ### The shapes of the wire -/

section Shapes

variable {nested : Bool}

/-- An instruction is a record, of which only the purpose has a shape of its own. -/
def Instruction.shape : Json.Shape :=
  .record [("type", .word ["exec", "query"]), ("op", .plain), ("args", .plain)]

/-- A command is a record around a list of instructions. -/
def Command.shape : Json.Shape :=
  .record [("op", .plain), ("args", .plain), ("instructions", .list Instruction.shape)]

/-- The fields of a message beside its tag. -/
def MessageKind.fields : MessageKind → List (String × Json.Shape)
  | .exec | .query => [("instructions", .list Instruction.shape)]
  | .getConstants | .getMethods => [("target", .plain)]
  | .command => [("command", Command.shape)]

/-- A message is one of five tagged records. -/
def Message.shape : Json.Shape :=
  .tagged ([.exec, .query, .getConstants, .getMethods, .command].map fun k : MessageKind =>
    (k.tag, k.fields))

/-- The fields of a reply beside its tag. -/
def ReplyKind.fields : ReplyKind → List (String × Json.Shape)
  | .queryReply => [("data", .plain)]
  | .queryError => [("data", .record [("message", .plain)])]
  | .constantsReply | .methodsReply => [("target", .plain), ("data", .plain)]

/-- A reply is one of four. -/
def Reply.shape : Json.Shape :=
  .tagged ([.queryReply, .queryError, .constantsReply, .methodsReply].map fun k : ReplyKind =>
    (k.tag, k.fields))

/-- The tag tells the kind of a message. -/
theorem MessageKind.tag_injective : Function.Injective MessageKind.tag := by
  intro k k' h
  cases k <;> cases k' <;> simp_all [tag]

/-- And that of a reply. -/
theorem ReplyKind.tag_injective : Function.Injective ReplyKind.tag := by
  intro k k' h
  cases k <;> cases k' <;> simp_all [tag]

open Json.Shape

/-- The grammar of instructions goes with their shape. -/
theorem Instruction.describes (i : Instruction) :
    shape.Describes (i.SpelledBy (Purpose.SpelledBy nested)) := by
  have hword : (Json.Shape.word ["exec", "query"]).Describes (i.purpose.SpelledBy nested) := by
    refine .word fun j hj => ⟨i.purpose.tag, ?_, ?_⟩
    · cases i.purpose <;> simp [Purpose.tag]
    · rcases hj with (rfl | rfl) | ⟨-, rfl⟩
      · exact .inl rfl
      · exact .inr ⟨_, rfl⟩
      · exact .inr ⟨_, rfl⟩
  refine .record rfl ?_
  simp [hword, Describes.plain]

/-- So does that of lists of them. -/
theorem Instruction.describes_list (is : List Instruction) : (Json.Shape.list shape).Describes
    (Json.IsListOf (SpelledBy (Purpose.SpelledBy nested)) is) :=
  .list (fun i => i.describes) is

/-- And that of commands. -/
theorem Command.describes (c : Command) :
    shape.Describes (c.SpelledBy (Purpose.SpelledBy nested)) := by
  refine .record rfl ?_
  simp [Describes.plain, Instruction.describes_list]

/-- **The grammar of messages goes with their shape.** The kind decides on the fields, and its tag
on the kind. -/
theorem Message.describes (m : Message) :
    shape.Describes (m.SpelledBy (Purpose.SpelledBy true)) := by
  have hrecord : (Json.Shape.record ((Json.tagKey, .plain) :: m.kind.fields)).Describes
      (m.SpelledBy (Purpose.SpelledBy true)) := by
    cases m <;> refine .record rfl ?_ <;>
      simp [fields, kind, MessageKind.fields, Json.tagKey, Describes.plain, Command.describes,
        Instruction.describes_list]
  refine .tagged ?_ ?_ hrecord
  · cases m <;> simp [kind]
  · intro v hv htag
    obtain ⟨k, -, rfl⟩ := List.mem_map.1 hv
    obtain rfl := MessageKind.tag_injective htag
    rfl

/-- **The grammar of replies goes with their shape.** -/
theorem Reply.describes (r : Reply) : shape.Describes r.SpelledBy := by
  have hrecord : (Json.Shape.record ((Json.tagKey, .plain) :: r.kind.fields)).Describes
      r.SpelledBy := by
    have hmessage : ∀ message, (Json.Shape.record [("message", .plain)]).Describes
        (Json.IsRecord [("message", (· = .string message))]) := fun message =>
      .record rfl (by simp [Describes.plain])
    cases r <;> refine .record rfl ?_ <;>
      simp [fields, kind, ReplyKind.fields, Json.tagKey, Describes.plain, hmessage]
  refine .tagged ?_ ?_ hrecord
  · cases r <;> simp [kind]
  · intro v hv htag
    obtain ⟨k, -, rfl⟩ := List.mem_map.1 hv
    obtain rfl := ReplyKind.tag_injective htag
    rfl

end Shapes

end GlBridge
