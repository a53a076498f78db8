import GlBridge.Proofs.Json.Depth
import GlBridge.Wire.Message
import Mathlib.Data.List.Forall2

/-!
# The grammar of the wire

How messages, commands, instructions and replies may be spelled, told apart from how they are read.
The grammar is a relation between what is meant and a tree (`SpelledBy`). It rests on two notions:
a tree spells a record with certain fields (`Json.IsRecord`), and an array spells a list
(`Json.IsListOf`). What a field must be is given by a predicate on trees, so that records can be
fields of records.

A purpose is spelled by its word or by an object that maps the word to `null` (`Purpose.Plain`).
Where an instruction stands in a message, the empty object does for `null` as well
(`Purpose.SpelledBy`). The grammar takes the spelling of purposes as a parameter for that reason.

For each type, a tree is read as a value just if it spells that value (`ofJson_iff`).
-/

namespace GlBridge

namespace Json

/-! ### Records and lists -/

/-- Of the members one has this key, and this is its value. -/
def HasOnce (key : String) (j : Json) (members : List (String × Json)) : Prop :=
  ∃ front back, members = front ++ (key, j) :: back ∧ ∀ m ∈ front ++ back, m.1 ≠ key

/-- The tree spells a record with these fields, each as it must be: as an object that has every
field once, at any place and with any other members, or as an array of just the fields in their
order. -/
inductive IsRecord (fields : List (String × (Json → Prop))) : Json → Prop
  | object {members : List (String × Json)}
    (h : ∀ f ∈ fields, ∃ j, HasOnce f.1 j members ∧ f.2 j) : IsRecord fields (.object members)
  | array {items : List Json} (h : List.Forall₂ (fun f j => f.2 j) fields items) :
    IsRecord fields (.array items)

/-- A tagged record has its tag as the first field. -/
def IsVariant (tag : String) (fields : List (String × (Json → Prop))) : Json → Prop :=
  IsRecord ((tagKey, (· = .string tag)) :: fields)

/-- The tree is an array that spells the elements one by one. -/
def IsListOf {α : Type} (Spelled : α → Json → Prop) (as : List α) (j : Json) : Prop :=
  ∃ items, j = .array items ∧ List.Forall₂ Spelled as items

variable {key : String} {j : Json} {members : List (String × Json)}
  {fields : List (String × (Json → Prop))}

/-- To stand once is to be the only one of this key. -/
theorem hasOnce_iff : HasOnce key j members ↔ members.filter (fun m => m.1 = key) = [(key, j)] := by
  constructor
  · rintro ⟨front, back, rfl, hothers⟩
    have hnone : ∀ l : List (String × Json), (∀ m ∈ l, m ∈ front ++ back) →
        l.filter (fun m => m.1 = key) = [] := fun l hl =>
      List.filter_eq_nil_iff.2 fun m hm heq => hothers m (hl m hm) (of_decide_eq_true heq)
    rw [List.filter_append, List.filter_cons_of_pos (by simp),
      hnone front fun m hm => List.mem_append_left _ hm,
      hnone back fun m hm => List.mem_append_right _ hm]
    rfl
  · -- the one member of the key splits the others into those before and those behind it
    intro h
    obtain ⟨front, back, rfl, hfront, -, hback⟩ := List.filter_eq_cons_iff.1 h
    refine ⟨front, back, rfl, fun m hm heq => ?_⟩
    rcases List.mem_append.1 hm with hm | hm
    · exact hfront m hm (decide_eq_true heq)
    · exact List.filter_eq_nil_iff.1 hback m hm (decide_eq_true heq)

/-- What is found under a key stands once. -/
theorem member_iff : member? key members = some j ↔ HasOnce key j members := by
  rw [hasOnce_iff]
  unfold member?
  constructor
  · intro h
    split at h
    next k j' hfilter =>
      obtain rfl := Option.some.inj h
      have hk : (k, j') ∈ members.filter fun m => m.1 = key := by
        rw [hfilter]
        exact List.mem_cons_self
      obtain rfl : k = key := of_decide_eq_true (List.mem_filter.1 hk).2
      exact hfilter
    next => cases h
  · intro h
    rw [h]

/-- Members with another key make no difference. -/
theorem hasOnce_filter {p : String × Json → Bool} (hp : ∀ m, m.1 = key → p m = true) :
    HasOnce key j (members.filter p) ↔ HasOnce key j members := by
  rw [hasOnce_iff, hasOnce_iff, List.filter_filter]
  have hsame : (fun m : String × Json => decide (m.1 = key) && p m) =
      fun m => decide (m.1 = key) := by
    funext m
    by_cases hkey : m.1 = key
    · simp [hp m hkey]
    · simp [hkey]
  rw [hsame]

/-- An object spells a record by its members. -/
theorem isRecord_object : IsRecord fields (.object members) ↔
    ∀ f ∈ fields, ∃ j, HasOnce f.1 j members ∧ f.2 j :=
  ⟨fun h => by cases h with | object h => exact h, .object⟩

/-- An array spells a record by its items, in order. -/
theorem isRecord_array {items : List Json} : IsRecord fields (.array items) ↔
    List.Forall₂ (fun f j => f.2 j) fields items :=
  ⟨fun h => by cases h with | array h => exact h, .array⟩

/-- To be a record, an object needs only those of its members that are fields. -/
theorem isRecord_filter {p : String × Json → Bool}
    (hp : ∀ f ∈ fields, ∀ m, m.1 = f.1 → p m = true) :
    IsRecord fields (.object (members.filter p)) ↔ IsRecord fields (.object members) := by
  rw [isRecord_object, isRecord_object]
  refine forall₂_congr fun f hf => exists_congr fun j => ?_
  rw [hasOnce_filter (hp f hf)]

/-- Fields that are found one by one are found all together. -/
theorem mapM_fields_iff {find? : String → Option Json} :
    (∃ js, (fields.map Prod.fst).mapM find? = some js ∧
        List.Forall₂ (fun f j => f.2 j) fields js) ↔
      ∀ f ∈ fields, ∃ j, find? f.1 = some j ∧ f.2 j := by
  induction fields with
  | nil => exact ⟨fun _ => List.forall_mem_nil _, fun _ => ⟨[], rfl, .nil⟩⟩
  | cons f rest ih =>
    -- the first field is found by itself, and the others by induction
    rw [List.forall_mem_cons, ← ih, List.map_cons, List.mapM_cons]
    constructor
    · rintro ⟨js, hjs, hall⟩
      obtain ⟨j, hj, hjs⟩ := Option.bind_eq_some_iff.1 hjs
      obtain ⟨rs, hrs, hjs⟩ := Option.bind_eq_some_iff.1 hjs
      obtain rfl := Option.some.inj hjs
      obtain ⟨hfirst, hrest⟩ := List.forall₂_cons.1 hall
      exact ⟨⟨j, hj, hfirst⟩, rs, hrs, hrest⟩
    · rintro ⟨⟨j, hj, hfirst⟩, rs, hrs, hrest⟩
      rw [hj, hrs]
      exact ⟨j :: rs, rfl, .cons hfirst hrest⟩

/-- **What is read as a record is spelled as one**, and conversely. -/
theorem fields_iff : (∃ js, j.fields? (fields.map Prod.fst) = some js ∧
    List.Forall₂ (fun f j => f.2 j) fields js) ↔ IsRecord fields j := by
  cases j with
  | object members =>
    refine mapM_fields_iff.trans ?_
    simp only [member_iff]
    exact isRecord_object.symm
  | array items =>
    simp only [fields?, List.length_map]
    rw [isRecord_array]
    constructor
    · rintro ⟨js, hjs, hall⟩
      split at hjs
      · obtain rfl := Option.some.inj hjs
        exact hall
      · cases hjs
    · intro hall
      rw [if_pos hall.length_eq.symm]
      exact ⟨items, rfl, hall⟩
  | null | bool | number | string | flawed =>
    constructor
    · rintro ⟨_, h, -⟩
      cases h
    · intro h
      cases h

section Fixed

variable {name₁ name₂ name₃ : String} {P₁ P₂ P₃ : Json → Prop}

/-! The same for a number of fields that is known. -/

theorem record_one : IsRecord [(name₁, P₁)] j ↔ ∃ a, j.fields? [name₁] = some [a] ∧ P₁ a := by
  rw [← fields_iff]
  simp [List.forall₂_cons_left_iff]

theorem record_two : IsRecord [(name₁, P₁), (name₂, P₂)] j ↔
    ∃ a b, j.fields? [name₁, name₂] = some [a, b] ∧ P₁ a ∧ P₂ b := by
  rw [← fields_iff]
  simp [List.forall₂_cons_left_iff]

theorem record_three : IsRecord [(name₁, P₁), (name₂, P₂), (name₃, P₃)] j ↔
    ∃ a b c, j.fields? [name₁, name₂, name₃] = some [a, b, c] ∧ P₁ a ∧ P₂ b ∧ P₃ c := by
  rw [← fields_iff]
  simp [List.forall₂_cons_left_iff]

end Fixed

/-- **What is read as a tagged record is spelled as one**, and conversely. -/
theorem tagged_iff {tag : String} (hfields : ∀ f ∈ fields, f.1 ≠ tagKey) :
    (∃ body, j.tagged? = some (tag, body) ∧ IsRecord fields body) ↔ IsVariant tag fields j := by
  cases j with
  | object members =>
    -- the members beside the tag have all the other fields
    have hrest : IsRecord fields (.object (members.filter fun m => m.1 ≠ tagKey)) ↔
        IsRecord fields (.object members) :=
      isRecord_filter fun f hf m hm => decide_eq_true (hm ▸ hfields f hf)
    constructor
    · rintro ⟨body, htagged, hbody⟩
      simp only [tagged?] at htagged
      split at htagged
      next t hmember =>
        obtain ⟨rfl, rfl⟩ := Prod.mk.inj (Option.some.inj htagged)
        refine .object (List.forall_mem_cons.2 ⟨⟨_, member_iff.1 hmember, rfl⟩, ?_⟩)
        exact isRecord_object.1 (hrest.1 hbody)
      next => cases htagged
    · rintro (h | _)
      obtain ⟨⟨_, htag, rfl⟩, h⟩ := List.forall_mem_cons.1 h
      refine ⟨.object (members.filter fun m => m.1 ≠ tagKey), ?_, hrest.2 (.object h)⟩
      simp only [tagged?, member_iff.2 htag]
  | array items =>
    -- the first item is the tag, and the others are the fields
    constructor
    · rintro ⟨body, htagged, hbody⟩
      unfold tagged? at htagged
      split at htagged
      next heq => cases heq
      next t rest heq =>
        obtain rfl := Json.array.inj heq
        obtain ⟨rfl, rfl⟩ := Prod.mk.inj (Option.some.inj htagged)
        cases hbody with
        | array h => exact .array (.cons rfl h)
      next => cases htagged
    · rintro (_ | h)
      obtain ⟨_, rest, rfl, hrest, rfl⟩ := List.forall₂_cons_left_iff.1 h
      exact ⟨.array rest, rfl, .array hrest⟩
  | null | bool | number | string | flawed =>
    constructor
    · rintro ⟨_, h, -⟩
      cases h
    · intro h
      cases h

/-- Lists are read item by item. -/
theorem mapM_iff {α β : Type} {read? : β → Option α} {items : List β} {as : List α} :
    items.mapM read? = some as ↔ List.Forall₂ (fun a j => read? j = some a) as items := by
  induction items generalizing as with
  | nil =>
    rw [List.mapM_nil, List.forall₂_nil_right_iff]
    exact ⟨fun h => (Option.some.inj h).symm, fun h => h ▸ rfl⟩
  | cons j rest ih =>
    rw [List.mapM_cons]
    constructor
    · intro h
      obtain ⟨a, ha, h⟩ := Option.bind_eq_some_iff.1 h
      obtain ⟨as', has, h⟩ := Option.bind_eq_some_iff.1 h
      obtain rfl := Option.some.inj h
      exact .cons ha (ih.1 has)
    · intro h
      obtain ⟨a, as', ha, has, rfl⟩ := List.forall₂_cons_right_iff.1 h
      rw [ha, ih.2 has]
      rfl

/-- So an array is read as a list if its items are read as the elements. -/
theorem items_mapM_iff {α : Type} {read? : Json → Option α} {as : List α} :
    j.items?.bind (·.mapM read?) = some as ↔ IsListOf (fun a j => read? j = some a) as j := by
  constructor
  · -- only an array has items
    intro h
    obtain ⟨items, hitems, h⟩ := Option.bind_eq_some_iff.1 h
    exact ⟨items, eq_array_of_items hitems, mapM_iff.1 h⟩
  · rintro ⟨items, rfl, h⟩
    exact mapM_iff.2 h

/-- A text is read from a text. -/
theorem string_iff {s : String} : j.string? = some s ↔ j = .string s := by
  cases j <;> simp [string?]

end Json

/-! ### Spellings -/

/-- The word for a purpose, or an object that maps it to `null`. -/
def Purpose.Plain (p : Purpose) (j : Json) : Prop :=
  j = .string p.tag ∨ j = .object [(p.tag, .null)]

/-- Where the instruction is `nested` in a message, the empty object does for `null`. -/
def Purpose.SpelledBy (nested : Bool) (p : Purpose) (j : Json) : Prop :=
  p.Plain j ∨ nested = true ∧ j = .object [(p.tag, .object [])]

/-- Any tree spells the value that it means as data. -/
def Value.SpelledBy (v : Value) (j : Json) : Prop := Value.ofJson? j = some v

section Spellings

variable (purposes : Purpose → Json → Prop)

/-- How an instruction is spelled. -/
def Instruction.SpelledBy (i : Instruction) : Json → Prop :=
  Json.IsRecord [("type", purposes i.purpose), ("op", (· = .string i.op)),
    ("args", Json.IsListOf Value.SpelledBy i.args)]

/-- How a command is spelled. -/
def Command.SpelledBy (c : Command) : Json → Prop :=
  Json.IsRecord [("op", (· = .string c.op)), ("args", Json.IsListOf Value.SpelledBy c.args),
    ("instructions", Json.IsListOf (Instruction.SpelledBy purposes) c.instructions)]

/-- The fields that a message has besides its tag. -/
def Message.fields : Message → List (String × (Json → Prop))
  | .exec is => [("instructions", Json.IsListOf (Instruction.SpelledBy purposes) is)]
  | .query is => [("instructions", Json.IsListOf (Instruction.SpelledBy purposes) is)]
  | .getConstants target => [("target", (· = .string target))]
  | .getMethods target => [("target", (· = .string target))]
  | .command c => [("command", c.SpelledBy purposes)]

/-- How a message is spelled: by its tag, and the field that goes with it. -/
def Message.SpelledBy (m : Message) : Json → Prop :=
  Json.IsVariant m.kind.tag (m.fields purposes)

end Spellings

namespace Reply

/-- An object of numbers. Each counts as a float, and of several for a name the last one counts. -/
def ConstantsSpelledBy (d : Dictionary Double) (j : Json) : Prop :=
  ∃ members entries, j = .object members ∧ d = .ofList entries ∧
    List.Forall₂ (fun e m => m.1 = e.1 ∧ ∃ n, m.2 = .number n ∧ e.2 = n.toDouble) entries members

/-- The fields that a reply has besides its tag. -/
def fields : Reply → List (String × (Json → Prop))
  | .queryReply data => [("data", data.SpelledBy)]
  | .queryError message => [("data", Json.IsRecord [("message", (· = .string message))])]
  | .constantsReply target data =>
    [("target", (· = .string target)), ("data", ConstantsSpelledBy data)]
  | .methodsReply target data =>
    [("target", (· = .string target)), ("data", Json.IsListOf (fun s j => j = .string s) data)]

/-- How a reply is spelled. -/
def SpelledBy (r : Reply) : Json → Prop := Json.IsVariant r.kind.tag r.fields

end Reply

/-! ### Reading -/

/-- **Purposes are read by their spelling.** -/
theorem Purpose.ofJson_iff {nested : Bool} {j : Json} {p : Purpose} :
    ofJson? nested j = some p ↔ p.SpelledBy nested j := by
  -- a word is read as the purpose that it is the tag of
  have hword : ∀ s, ofTag? s = some p ↔ s = p.tag := by
    intro s
    unfold ofTag?
    split <;> cases p <;> simp_all [tag]
  unfold SpelledBy Plain
  constructor
  · intro h
    unfold ofJson? at h
    split at h
    next s => exact .inl (.inl (congrArg Json.string ((hword s).1 h)))
    next s =>
      obtain rfl := (hword s).1 h
      exact .inl (.inr rfl)
    next s =>
      split at h
      next hnested =>
        obtain rfl := (hword s).1 h
        exact .inr ⟨hnested, rfl⟩
      next => cases h
    next => cases h
  · rintro ((rfl | rfl) | ⟨hnested, rfl⟩)
    · exact (hword _).2 rfl
    · exact (hword _).2 rfl
    · exact (if_pos hnested).trans ((hword _).2 rfl)

/-- Lists of values are read by their spelling. -/
theorem values_iff {j : Json} {vs : List Value} :
    j.values? = some vs ↔ Json.IsListOf Value.SpelledBy vs j := Json.items_mapM_iff

/-- And so are lists of texts. -/
theorem strings_iff {j : Json} {ss : List String} :
    j.strings? = some ss ↔ Json.IsListOf (fun s j => j = .string s) ss j := by
  have hone : (fun (s : String) (j : Json) => j.string? = some s) = fun s j => j = .string s := by
    funext s j
    exact propext Json.string_iff
  exact hone ▸ Json.items_mapM_iff

namespace Instruction

variable {nested : Bool} {j : Json}

/-- **Instructions are read by their spelling.** -/
theorem ofJson_iff {i : Instruction} :
    ofJson? nested j = some i ↔ i.SpelledBy (Purpose.SpelledBy nested) j := by
  unfold SpelledBy
  rw [Json.record_three]
  constructor
  · intro h
    unfold ofJson? at h
    split at h
    next purpose op args hfields =>
      obtain ⟨p, hp, h⟩ := Option.bind_eq_some_iff.1 h
      obtain ⟨name, hname, h⟩ := Option.bind_eq_some_iff.1 h
      obtain ⟨values, hvalues, h⟩ := Option.bind_eq_some_iff.1 h
      obtain rfl := Option.some.inj h
      exact ⟨_, _, _, hfields, Purpose.ofJson_iff.1 hp, Json.string_iff.1 hname,
        values_iff.1 hvalues⟩
    next => cases h
  · rintro ⟨purpose, op, args, hfields, hp, hname, hvalues⟩
    simp only [ofJson?, fieldNames, hfields, Purpose.ofJson_iff.2 hp, Json.string_iff.2 hname,
      values_iff.2 hvalues, Option.bind_eq_bind, Option.bind_some]
    rfl

/-- Lists of instructions are read item by item. -/
theorem listOfJson_iff {is : List Instruction} : listOfJson? nested j = some is ↔
    Json.IsListOf (Instruction.SpelledBy (Purpose.SpelledBy nested)) is j := by
  have hone : (fun (i : Instruction) (j : Json) => ofJson? nested j = some i) =
      Instruction.SpelledBy (Purpose.SpelledBy nested) := by
    funext i j
    exact propext ofJson_iff
  exact hone ▸ Json.items_mapM_iff

end Instruction

/-- **Commands are read by their spelling.** -/
theorem Command.ofJson_iff {nested : Bool} {j : Json} {c : Command} :
    ofJson? nested j = some c ↔ c.SpelledBy (Purpose.SpelledBy nested) j := by
  unfold SpelledBy
  rw [Json.record_three]
  constructor
  · intro h
    unfold ofJson? at h
    split at h
    next op args instructions hfields =>
      obtain ⟨name, hname, h⟩ := Option.bind_eq_some_iff.1 h
      obtain ⟨values, hvalues, h⟩ := Option.bind_eq_some_iff.1 h
      obtain ⟨is, his, h⟩ := Option.bind_eq_some_iff.1 h
      obtain rfl := Option.some.inj h
      exact ⟨_, _, _, hfields, Json.string_iff.1 hname, values_iff.1 hvalues,
        Instruction.listOfJson_iff.1 his⟩
    next => cases h
  · rintro ⟨op, args, instructions, hfields, hname, hvalues, his⟩
    simp only [ofJson?, fieldNames, hfields, Json.string_iff.2 hname, values_iff.2 hvalues,
      Instruction.listOfJson_iff.2 his, Option.bind_eq_bind, Option.bind_some]
    rfl

namespace Message

/-- The fields of a message are read by its tag. -/
theorem ofTagged_iff {tag : String} {body : Json} {m : Message} :
    ofTagged? tag body = some m ↔
      tag = m.kind.tag ∧ Json.IsRecord (m.fields (Purpose.SpelledBy true)) body := by
  constructor
  · intro h
    unfold ofTagged? at h
    split at h
    case h_6 => cases h
    all_goals
      -- the one field has to be there, and what is read of it becomes the message
      obtain ⟨fields, hfields, h⟩ := Option.bind_eq_some_iff.1 h
      split at h
      case h_2 => cases h
      obtain ⟨content, hcontent, h⟩ := Option.bind_eq_some_iff.1 h
      obtain rfl := Option.some.inj h
      refine ⟨rfl, Json.record_one.2 ⟨_, hfields, ?_⟩⟩
    · exact Instruction.listOfJson_iff.1 hcontent
    · exact Instruction.listOfJson_iff.1 hcontent
    · exact Json.string_iff.1 hcontent
    · exact Json.string_iff.1 hcontent
    · exact Command.ofJson_iff.1 hcontent
  · rintro ⟨rfl, h⟩
    cases m
    all_goals obtain ⟨a, hfields, ha⟩ := Json.record_one.1 h
    case exec | query =>
      simp [kind, MessageKind.tag, ofTagged?, hfields, Instruction.listOfJson_iff.2 ha]
    case getConstants | getMethods =>
      simp [kind, MessageKind.tag, ofTagged?, hfields, Json.string_iff.2 ha]
    case command =>
      simp [kind, MessageKind.tag, ofTagged?, hfields, Command.ofJson_iff.2 ha]

/-- **Messages are read by their spelling.** -/
theorem ofJson_iff {j : Json} {m : Message} :
    ofJson? j = some m ↔ m.SpelledBy (Purpose.SpelledBy true) j := by
  have hfields : ∀ f ∈ m.fields (Purpose.SpelledBy true), f.1 ≠ Json.tagKey := by
    cases m <;> simp [fields, Json.tagKey]
  unfold SpelledBy
  rw [← Json.tagged_iff hfields]
  constructor
  · intro h
    obtain ⟨⟨tag, body⟩, htagged, h⟩ := Option.bind_eq_some_iff.1 h
    obtain ⟨rfl, hbody⟩ := ofTagged_iff.1 h
    exact ⟨body, htagged, hbody⟩
  · rintro ⟨body, htagged, hbody⟩
    refine Option.bind_eq_some_iff.2 ⟨_, htagged, ?_⟩
    exact ofTagged_iff.2 ⟨rfl, hbody⟩

end Message

namespace Reply

/-- Constants are read from an object of numbers. -/
theorem constants_iff {j : Json} {d : Dictionary Double} :
    constants? j = some d ↔ ConstantsSpelledBy d j := by
  have hone : ∀ (e : String × Double) (m : String × Json),
      (float? m.2).map (fun x => (m.1, x)) = some e ↔
        m.1 = e.1 ∧ ∃ n, m.2 = .number n ∧ e.2 = n.toDouble := by
    rintro ⟨key, x⟩ ⟨key', j⟩
    cases j <;> simp [float?, eq_comm]
  unfold ConstantsSpelledBy
  simp only [← hone, ← Json.mapM_iff]
  constructor
  · intro h
    unfold constants? at h
    split at h
    next members =>
      obtain ⟨entries, hentries, rfl⟩ := Option.map_eq_some_iff.1 h
      exact ⟨members, entries, rfl, rfl, hentries⟩
    next => cases h
  · rintro ⟨members, entries, rfl, rfl, hentries⟩
    exact Option.map_eq_some_iff.2 ⟨entries, hentries, rfl⟩

/-- The fields of a reply are read by its tag. -/
theorem ofTagged_iff {tag : String} {body : Json} {r : Reply} :
    ofTagged? tag body = some r ↔ tag = r.kind.tag ∧ Json.IsRecord r.fields body := by
  constructor
  · intro h
    unfold ofTagged? at h
    split at h
    case h_5 => cases h
    all_goals
      obtain ⟨fields, hfields, h⟩ := Option.bind_eq_some_iff.1 h
      split at h
      case h_2 => cases h
    next data =>
      obtain ⟨v, hv, h⟩ := Option.bind_eq_some_iff.1 h
      obtain rfl := Option.some.inj h
      exact ⟨rfl, Json.record_one.2 ⟨_, hfields, hv⟩⟩
    next data =>
      -- the data is a record of its own
      obtain ⟨messages, hmessages, h⟩ := Option.bind_eq_some_iff.1 h
      split at h
      case h_2 => cases h
      obtain ⟨s, hs, h⟩ := Option.bind_eq_some_iff.1 h
      obtain rfl := Option.some.inj h
      refine ⟨rfl, Json.record_one.2 ⟨_, hfields, ?_⟩⟩
      exact Json.record_one.2 ⟨_, hmessages, Json.string_iff.1 hs⟩
    next target data =>
      -- two fields, a target and what is said of it
      obtain ⟨s, hs, h⟩ := Option.bind_eq_some_iff.1 h
      obtain ⟨d, hd, h⟩ := Option.bind_eq_some_iff.1 h
      obtain rfl := Option.some.inj h
      exact ⟨rfl, Json.record_two.2 ⟨_, _, hfields, Json.string_iff.1 hs, constants_iff.1 hd⟩⟩
    next target data =>
      obtain ⟨s, hs, h⟩ := Option.bind_eq_some_iff.1 h
      obtain ⟨names, hnames, h⟩ := Option.bind_eq_some_iff.1 h
      obtain rfl := Option.some.inj h
      exact ⟨rfl, Json.record_two.2 ⟨_, _, hfields, Json.string_iff.1 hs, strings_iff.1 hnames⟩⟩
  · rintro ⟨rfl, h⟩
    cases r with
    | queryReply data =>
      obtain ⟨a, hfields, ha⟩ := Json.record_one.1 h
      have hdata : Value.ofJson? a = some data := ha
      simp [kind, ReplyKind.tag, ofTagged?, hfields, hdata]
    | queryError message =>
      obtain ⟨a, hfields, ha⟩ := Json.record_one.1 h
      obtain ⟨b, hmessages, hb⟩ := Json.record_one.1 ha
      simp [kind, ReplyKind.tag, ofTagged?, hfields, hmessages, Json.string_iff.2 hb]
    | constantsReply target data =>
      obtain ⟨a, b, hfields, ha, hb⟩ := Json.record_two.1 h
      simp [kind, ReplyKind.tag, ofTagged?, hfields, Json.string_iff.2 ha, constants_iff.2 hb]
    | methodsReply target data =>
      obtain ⟨a, b, hfields, ha, hb⟩ := Json.record_two.1 h
      simp [kind, ReplyKind.tag, ofTagged?, hfields, Json.string_iff.2 ha, strings_iff.2 hb]

/-- **Replies are read by their spelling.** -/
theorem ofJson_iff {j : Json} {r : Reply} : ofJson? j = some r ↔ r.SpelledBy j := by
  have hfields : ∀ f ∈ r.fields, f.1 ≠ Json.tagKey := by
    cases r <;> simp [fields, Json.tagKey]
  unfold SpelledBy
  rw [← Json.tagged_iff hfields]
  constructor
  · intro h
    obtain ⟨⟨tag, body⟩, htagged, h⟩ := Option.bind_eq_some_iff.1 h
    obtain ⟨rfl, hbody⟩ := ofTagged_iff.1 h
    exact ⟨body, htagged, hbody⟩
  · rintro ⟨body, htagged, hbody⟩
    refine Option.bind_eq_some_iff.2 ⟨_, htagged, ?_⟩
    exact ofTagged_iff.2 ⟨rfl, hbody⟩

end Reply

end GlBridge
