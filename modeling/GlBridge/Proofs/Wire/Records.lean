import GlBridge.Proofs.Json.Normal
import GlBridge.Wire.Record

/-!
# Records are taken apart as they were put together

A record written with its fields in declared order is read as these fields
(`Json.fields_object`), and a tagged one as its tag and the rest (`Json.tagged_object`). Lists of
values and of texts are read item by item (`mapM_map_of_read`).
-/

namespace GlBridge

/-- What was written item by item is read item by item. -/
theorem mapM_map_of_read {α β : Type} {write : α → β} {read? : β → Option α} {l : List α}
    (h : ∀ a ∈ l, read? (write a) = some a) : (l.map write).mapM read? = some l := by
  induction l with
  | nil => rfl
  | cons a rest ih =>
    rw [List.map_cons, List.mapM_cons, h a List.mem_cons_self,
      ih fun b hb => h b (List.mem_cons_of_mem a hb)]
    rfl

namespace Json

/-! ### Fields -/

/-- Among members with distinct keys there is one with the key of each. -/
theorem filter_key {members : List (String × Json)} (h : (members.map Prod.fst).Nodup)
    {m : String × Json} (hm : m ∈ members) :
    members.filter (fun d => d.1 = m.1) = [m] := by
  induction members with
  | nil => cases hm
  | cons head rest ih =>
    obtain ⟨hhead, hrest⟩ := List.nodup_cons.1 h
    rcases List.mem_cons.1 hm with rfl | hm
    · -- the key is that of the head, and of no member behind it
      rw [List.filter_cons_of_pos (by simp), List.filter_eq_nil_iff.2]
      intro d hd hkey
      exact hhead (List.mem_map.2 ⟨d, hd, of_decide_eq_true hkey⟩)
    · have hne : head.1 ≠ m.1 := fun heq => hhead (List.mem_map.2 ⟨m, hm, heq.symm⟩)
      rw [List.filter_cons_of_neg (by simpa using hne), ih hrest hm]

/-- So it is found under its key. -/
theorem member_of_mem {members : List (String × Json)} (h : (members.map Prod.fst).Nodup)
    {m : String × Json} (hm : m ∈ members) : member? m.1 members = some m.2 := by
  rw [member?, filter_key h hm]

/-- **A record has the fields it was written with.** -/
theorem fields_object (members : List (String × Json)) (h : (members.map Prod.fst).Nodup) :
    fields? (members.map Prod.fst) (.object members) = some (members.map Prod.snd) := by
  -- stated for a part of the members, since each field is looked up among all of them
  have hall : ∀ part : List (String × Json), (∀ m ∈ part, m ∈ members) →
      (part.map Prod.fst).mapM (fun name => member? name members) =
        some (part.map Prod.snd) := by
    intro part hpart
    induction part with
    | nil => rfl
    | cons m rest ih =>
      rw [List.map_cons, List.mapM_cons, member_of_mem h (hpart m List.mem_cons_self),
        ih fun d hd => hpart d (List.mem_cons_of_mem m hd)]
      rfl
  -- all of the members, in particular
  exact hall members fun _ hm => hm

/-- **A tagged record has the tag it was written with**, and its other members. -/
theorem tagged_object (tag : String) {members : List (String × Json)}
    (h : ∀ m ∈ members, m.1 ≠ tagKey) :
    tagged? (.object ((tagKey, .string tag) :: members)) = some (tag, .object members) := by
  -- the tag is the one member of its name, and what is left are the others
  have htag : ((tagKey, Json.string tag) :: members).filter (fun m => m.1 = tagKey) =
      [(tagKey, .string tag)] := by
    rw [List.filter_cons_of_pos (by simp), List.filter_eq_nil_iff.2]
    exact fun m hm hkey => h m hm (of_decide_eq_true hkey)
  have hrest : ((tagKey, Json.string tag) :: members).filter (fun m => m.1 ≠ tagKey) =
      members := by
    rw [List.filter_cons_of_neg (by simp), List.filter_eq_self.2]
    exact fun m hm => decide_eq_true (h m hm)
  unfold tagged? member?
  simp only [htag]
  rw [hrest]

/-- Nothing is dropped from a record that has fields only. -/
theorem restrict_object {names : List String} {members : List (String × Json)}
    (h : ∀ m ∈ members, m.1 ∈ names) : restrict names (.object members) = .object members := by
  rw [restrict, List.filter_eq_self.2 fun m hm => decide_eq_true (h m hm)]

/-! ### Lists of values and of texts -/

/-- A list of values is read back. -/
@[simp] theorem values_ofValues (vs : List Value) : (ofValues vs).values? = some vs := by
  rw [values?, ofValues, items?, Option.bind_some]
  exact mapM_map_of_read fun v _ => v.ofJson_json

/-- And so is a list of texts. -/
@[simp] theorem strings_ofStrings (ss : List String) : (ofStrings ss).strings? = some ss := by
  rw [strings?, ofStrings, items?, Option.bind_some]
  exact mapM_map_of_read fun _ _ => rfl

theorem isFlawless_ofValues (vs : List Value) : (ofValues vs).isFlawless = true := by
  refine itemsFlawless_iff.2 fun j hj => ?_
  obtain ⟨v, -, rfl⟩ := List.mem_map.1 hj
  exact v.isFlawless_json

theorem isFlawless_ofStrings (ss : List String) : (ofStrings ss).isFlawless = true := by
  refine itemsFlawless_iff.2 fun j hj => ?_
  obtain ⟨s, -, rfl⟩ := List.mem_map.1 hj
  rfl

end Json

end GlBridge
