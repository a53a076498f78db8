import GlBridge.Json.Value

/-!
# Normal forms stay

A value is its own normal form (`Json.normalize_eq`), so taking the tree of a value for a value
gives the value again (`Value.ofJson_json`), and a dictionary is what its entries make
(`Dictionary.ofList_entries`). Both hold because an entry whose key is greater than all others is
added at the end.
-/

namespace GlBridge

variable {α : Type}

/-- An entry with the greatest key is added at the end. -/
theorem insertEntry_of_lt {entries : List (String × α)} {key : String} (value : α)
    (h : ∀ e ∈ entries, e.1 < key) :
    insertEntry key value entries = entries ++ [(key, value)] := by
  induction entries with
  | nil => rfl
  | cons head rest ih =>
    obtain ⟨k, v⟩ := head
    have hk : k < key := h (k, v) List.mem_cons_self
    -- the key is greater than that of the head, so the entry goes further back
    rw [insertEntry, if_neg (String.lt_asymm hk), if_pos hk,
      ih fun e he => h e (List.mem_cons_of_mem _ he)]
    rfl

/-- In an ascending list the key of an entry is greater than all before it. -/
theorem Ascending.lt_of_append {sorted rest : List (String × α)} {e : String × α}
    (h : Ascending (sorted ++ e :: rest)) : ∀ d ∈ sorted, d.1 < e.1 :=
  fun d hd => (List.pairwise_append.1 h).2.2 d hd e List.mem_cons_self

namespace Dictionary

/-- Entries that come in ascending order are all added at the end. -/
theorem foldl_insert {rest : List (String × α)} {d : Dictionary α}
    (h : Ascending (d.entries ++ rest)) :
    (rest.foldl (fun d e => d.insert e.1 e.2) d).entries = d.entries ++ rest := by
  induction rest generalizing d with
  | nil => exact (List.append_nil _).symm
  | cons e rest ih =>
    -- the keys so far are all less than that of `e`
    have hinsert : (d.insert e.1 e.2).entries = d.entries ++ [e] :=
      insertEntry_of_lt e.2 h.lt_of_append
    rw [List.foldl_cons, ih (by rw [hinsert, List.append_assoc]; exact h), hinsert,
      List.append_assoc]
    rfl

/-- A dictionary is known by its entries. -/
theorem eq_of_entries {d e : Dictionary α} (h : d.entries = e.entries) : d = e := by
  cases d
  cases e
  cases h
  rfl

/-- **A dictionary is made of its entries.** -/
@[simp] theorem ofList_entries (d : Dictionary α) : ofList d.entries = d :=
  eq_of_entries (foldl_insert (d := empty) d.ascending)

end Dictionary

namespace Json

/-! ### Trees in normal form -/

/-- Members that are in order already are left as they are. -/
theorem sortMembers_of_ascending {rest sorted : List (String × Json)}
    (h : Ascending (sorted ++ rest)) : sortMembers sorted rest = sorted ++ rest := by
  -- what is behind the sorted part moves into it, one entry after the other
  induction rest generalizing sorted with
  | nil => exact (List.append_nil _).symm
  | cons e rest ih =>
    obtain ⟨key, j⟩ := e
    have hinsert := insertEntry_of_lt j h.lt_of_append
    rw [sortMembers, hinsert, ih (by rw [List.append_assoc]; exact h), List.append_assoc]
    rfl

mutual

/-- **A tree in normal form is its own.** -/
theorem normalize_eq : ∀ j : Json, j.IsCanonical → j.normalize = j
  | .null, _ | .bool _, _ | .number _, _ | .string _, _ => rfl
  | .array items, h => by rw [normalize, normalizeItems_eq items h]
  | .object members, h => by
    have hsort : sortMembers [] members = members := @sortMembers_of_ascending members [] h.1
    rw [normalize, normalizeMembers_eq members h.2, hsort]

theorem normalizeItems_eq :
    ∀ items : List Json, ItemsCanonical items → normalizeItems items = items
  | [], _ => rfl
  | j :: rest, h => by rw [normalizeItems, normalize_eq j h.1, normalizeItems_eq rest h.2]

theorem normalizeMembers_eq : ∀ members : List (String × Json),
    MembersCanonical members → normalizeMembers members = members
  | [], _ => rfl
  | (_, j) :: rest, h => by
    rw [normalizeMembers, normalize_eq j h.1, normalizeMembers_eq rest h.2]

end

mutual

/-- A tree in normal form has no flaw in it. -/
theorem isFlawless_of_canonical : ∀ j : Json, j.IsCanonical → j.isFlawless = true
  | .null, _ | .bool _, _ | .number _, _ | .string _, _ => rfl
  | .array items, h => itemsFlawless_of_canonical items h
  | .object members, h => membersFlawless_of_canonical members h.2

theorem itemsFlawless_of_canonical :
    ∀ items : List Json, ItemsCanonical items → itemsFlawless items = true
  | [], _ => rfl
  | j :: rest, h => by
    rw [itemsFlawless, isFlawless_of_canonical j h.1, itemsFlawless_of_canonical rest h.2]
    rfl

theorem membersFlawless_of_canonical :
    ∀ members : List (String × Json), MembersCanonical members → membersFlawless members = true
  | [], _ => rfl
  | (_, j) :: rest, h => by
    rw [membersFlawless, isFlawless_of_canonical j h.1, membersFlawless_of_canonical rest h.2]
    rfl

end

/-! ### Flaws, part by part -/

/-- An array is flawless when its items are. -/
theorem itemsFlawless_iff {items : List Json} :
    itemsFlawless items = true ↔ ∀ j ∈ items, j.isFlawless = true := by
  induction items with
  | nil => simp [itemsFlawless]
  | cons j rest ih => simp [itemsFlawless, ih]

/-- And an object when its members are, whatever their keys. -/
theorem membersFlawless_iff {members : List (String × Json)} :
    membersFlawless members = true ↔ ∀ m ∈ members, m.2.isFlawless = true := by
  induction members with
  | nil => simp [membersFlawless]
  | cons m rest ih => obtain ⟨k, j⟩ := m; simp [membersFlawless, ih]

end Json

namespace Value

/-- The tree of a value has no flaw. -/
theorem isFlawless_json (v : Value) : v.json.isFlawless = true :=
  Json.isFlawless_of_canonical v.json v.isCanonical

/-- **The tree of a value is taken for the value.** -/
@[simp] theorem ofJson_json (v : Value) : ofJson? v.json = some v := by
  obtain ⟨j, hj⟩ := v
  unfold ofJson?
  rw [dif_pos (Json.isFlawless_of_canonical j hj)]
  simp only [Json.normalize_eq j hj]

end Value

end GlBridge
