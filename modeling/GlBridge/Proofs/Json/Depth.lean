import GlBridge.Proofs.Json.Normal
import GlBridge.Wire.Record
import Mathlib.Order.Lattice

/-!
# What is taken from a tree is no deeper

Taking a tree for a value drops members and sorts them, and neither adds a container
(`Json.depth_normalize_le`). The fields of a record lie within it (`Json.depth_lt_of_fields`), and
so does what a tag leaves of one (`Json.depth_le_of_tagged`).

`mem_of_mapM` is the other direction of `mapM_map_of_read`: what was read from a list item by item
was read from one of its items each.
-/

namespace GlBridge

/-! ### Lists read item by item -/

/-- Every value that was read from a list was read from an item of it. -/
theorem mem_of_mapM {α β : Type} {read? : α → Option β} {l : List α} {r : List β}
    (h : l.mapM read? = some r) {b : β} (hb : b ∈ r) : ∃ a ∈ l, read? a = some b := by
  induction l generalizing r with
  | nil =>
    obtain rfl : [] = r := Option.some.inj h
    cases hb
  | cons a rest ih =>
    rw [List.mapM_cons] at h
    -- reading went well for the first item and for the rest
    obtain ⟨b₁, hread, h⟩ := Option.bind_eq_some_iff.1 h
    obtain ⟨rs, hrest, h⟩ := Option.bind_eq_some_iff.1 h
    obtain rfl : b₁ :: rs = r := Option.some.inj h
    rcases List.mem_cons.1 hb with rfl | hb
    · exact ⟨a, List.mem_cons_self, hread⟩
    · obtain ⟨a', ha', hread'⟩ := ih hrest hb
      exact ⟨a', List.mem_cons_of_mem a ha', hread'⟩

namespace Dictionary

variable {α : Type}

/-- Inserting entries one after the other brings in no others. -/
theorem mem_foldl_insert {rest : List (String × α)} {d : Dictionary α} {e : String × α}
    (h : e ∈ (rest.foldl (fun d e => d.insert e.1 e.2) d).entries) : e ∈ d.entries ∨ e ∈ rest := by
  induction rest generalizing d with
  | nil => exact .inl h
  | cons head rest ih =>
    rcases ih h with h | h
    · rcases mem_insertEntry h with rfl | h
      · exact .inr List.mem_cons_self
      · exact .inl h
    · exact .inr (List.mem_cons_of_mem head h)

/-- So an entry of a dictionary is one of those it was made of. -/
theorem mem_of_mem_ofList {entries : List (String × α)} {e : String × α}
    (h : e ∈ (ofList entries).entries) : e ∈ entries :=
  (mem_foldl_insert h).resolve_left List.not_mem_nil

end Dictionary

namespace Json

/-! ### Depth, part by part -/

/-- The items of an array are as deep as the deepest of them. -/
theorem depthOfItems_le_iff {items : List Json} {n : Nat} :
    depthOfItems items ≤ n ↔ ∀ j ∈ items, j.depth ≤ n := by
  induction items with
  | nil => simp [depthOfItems]
  | cons j rest ih => simp [depthOfItems, ih]

theorem depthOfMembers_le_iff {members : List (String × Json)} {n : Nat} :
    depthOfMembers members ≤ n ↔ ∀ m ∈ members, m.2.depth ≤ n := by
  induction members with
  | nil => simp [depthOfMembers]
  | cons m rest ih => obtain ⟨k, j⟩ := m; simp [depthOfMembers, ih]

/-- An item is less deep than its array. -/
theorem depth_item {items : List Json} {j : Json} (h : j ∈ items) :
    j.depth < (Json.array items).depth :=
  Nat.lt_succ_of_le (depthOfItems_le_iff.1 le_rfl j h)

/-- A member is less deep than its object. -/
theorem depth_member {members : List (String × Json)} {m : String × Json} (h : m ∈ members) :
    m.2.depth < (Json.object members).depth :=
  Nat.lt_succ_of_le (depthOfMembers_le_iff.1 le_rfl m h)

/-- An array is within a depth when its items are within one less. -/
theorem depth_array_le {items : List Json} {n : Nat} (h : ∀ j ∈ items, j.depth < n)
    (hpos : 0 < n) : (Json.array items).depth ≤ n := by
  have hitems : depthOfItems items ≤ n - 1 :=
    depthOfItems_le_iff.2 fun j hj => Nat.le_sub_one_of_lt (h j hj)
  rw [depth]
  omega

/-- And an object when its members are. -/
theorem depth_object_le {members : List (String × Json)} {n : Nat}
    (h : ∀ m ∈ members, m.2.depth < n) (hpos : 0 < n) : (Json.object members).depth ≤ n := by
  have hmembers : depthOfMembers members ≤ n - 1 :=
    depthOfMembers_le_iff.2 fun m hm => Nat.le_sub_one_of_lt (h m hm)
  rw [depth]
  omega

/-! ### Normal forms -/

/-- Sorting brings in no members. -/
theorem mem_sortMembers {members sorted : List (String × Json)} {m : String × Json}
    (h : m ∈ sortMembers sorted members) : m ∈ sorted ∨ m ∈ members := by
  -- on what is left to be sorted in, for any members that were before
  induction members generalizing sorted with
  | nil => exact .inl h
  | cons head rest ih =>
    rcases ih h with h | h
    · rcases mem_insertEntry h with rfl | h
      · exact .inr List.mem_cons_self
      · exact .inl h
    · exact .inr (List.mem_cons_of_mem head h)

mutual

/-- **The normal form of a tree is no deeper.** -/
theorem depth_normalize_le : ∀ j : Json, j.normalize.depth ≤ j.depth
  | .null | .bool _ | .number _ | .string _ | .flawed => le_rfl
  | .array items => Nat.succ_le_succ (depthOfItems_normalize_le items)
  | .object members => by
    have hsorted : depthOfMembers (sortMembers [] (normalizeMembers members)) ≤
        depthOfMembers (normalizeMembers members) := by
      refine depthOfMembers_le_iff.2 fun m hm => ?_
      have hm : m ∈ normalizeMembers members := (mem_sortMembers hm).resolve_left List.not_mem_nil
      exact depthOfMembers_le_iff.1 le_rfl m hm
    exact Nat.succ_le_succ (hsorted.trans (depthOfMembers_normalize_le members))

theorem depthOfItems_normalize_le :
    ∀ items : List Json, depthOfItems (normalizeItems items) ≤ depthOfItems items
  | [] => le_rfl
  | j :: rest => sup_le_sup (depth_normalize_le j) (depthOfItems_normalize_le rest)

theorem depthOfMembers_normalize_le : ∀ members : List (String × Json),
    depthOfMembers (normalizeMembers members) ≤ depthOfMembers members
  | [] => le_rfl
  | (_, j) :: rest => sup_le_sup (depth_normalize_le j) (depthOfMembers_normalize_le rest)

end

/-- What a tree is taken for is no deeper than the tree. -/
theorem depth_le_of_ofJson {j : Json} {v : Value} (h : Value.ofJson? j = some v) :
    v.json.depth ≤ j.depth := by
  unfold Value.ofJson? at h
  split at h
  · obtain rfl := Option.some.inj h
    exact depth_normalize_le j
  · cases h

/-! ### Parts of records -/

/-- The member that is found under a key is one of the members. -/
theorem mem_of_member {key : String} {members : List (String × Json)} {j : Json}
    (h : member? key members = some j) : (key, j) ∈ members := by
  unfold member? at h
  split at h
  next k j' hfilter =>
    obtain rfl := Option.some.inj h
    have hfound : (k, j') ∈ members.filter fun m => m.1 = key := by
      rw [hfilter]
      exact List.mem_cons_self
    obtain ⟨hmem, hkey⟩ := List.mem_filter.1 hfound
    obtain rfl : k = key := of_decide_eq_true hkey
    exact hmem
  next => cases h

/-- A record is a container, and its fields lie within. -/
theorem depth_lt_of_fields {names : List String} {j : Json} {fields : List Json}
    (h : j.fields? names = some fields) : 0 < j.depth ∧ ∀ f ∈ fields, f.depth < j.depth := by
  unfold fields? at h
  split at h
  -- each field was found among the members
  next members =>
    refine ⟨Nat.succ_pos _, fun f hf => ?_⟩
    obtain ⟨name, -, hmember⟩ := mem_of_mapM h hf
    exact depth_member (mem_of_member hmember)
  -- an array is taken for its fields as it is
  next items =>
    split at h
    · obtain rfl := Option.some.inj h
      exact ⟨Nat.succ_pos _, fun f hf => depth_item hf⟩
    · cases h
  next => cases h

/-- Each field of a record is less deep than the record. -/
theorem depth_field {names : List String} {j : Json} {fields : List Json} {f : Json}
    (h : j.fields? names = some fields) (hf : f ∈ fields) : f.depth < j.depth :=
  (depth_lt_of_fields h).2 f hf

/-- Without its tag a record is no deeper: the rest of it is a container with some of its parts. -/
theorem depth_le_of_tagged {j body : Json} {tag : String} (h : j.tagged? = some (tag, body)) :
    body.depth ≤ j.depth := by
  unfold tagged? at h
  split at h
  next members =>
    split at h
    · -- of an object the members of other names are left
      obtain ⟨rfl, rfl⟩ := Prod.mk.inj (Option.some.inj h)
      exact depth_object_le (fun m hm => depth_member (List.mem_filter.1 hm).1) (Nat.succ_pos _)
    · cases h
  next =>
    obtain ⟨rfl, rfl⟩ := Prod.mk.inj (Option.some.inj h)
    exact depth_array_le (fun f hf => depth_item (List.mem_cons_of_mem _ hf)) (Nat.succ_pos _)
  next => cases h

/-- Only an array has items. -/
theorem eq_array_of_items {j : Json} {items : List Json} (h : j.items? = some items) :
    j = .array items := by
  unfold items? at h
  split at h
  next => exact congrArg Json.array (Option.some.inj h)
  next => cases h

/-- A list of values that was read from a tree is no deeper than the tree. -/
theorem depth_ofValues_le {j : Json} {vs : List Value} (h : j.values? = some vs) :
    (ofValues vs).depth ≤ j.depth := by
  obtain ⟨items, hitems, h⟩ := Option.bind_eq_some_iff.1 h
  obtain rfl := eq_array_of_items hitems
  refine depth_array_le (fun k hk => ?_) (Nat.succ_pos _)
  obtain ⟨v, hv, rfl⟩ := List.mem_map.1 hk
  obtain ⟨item, hitem, hread⟩ := mem_of_mapM h hv
  exact (depth_le_of_ofJson hread).trans_lt (depth_item hitem)

end Json

end GlBridge
