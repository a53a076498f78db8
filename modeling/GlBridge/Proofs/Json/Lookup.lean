import GlBridge.Json.Dictionary
import Mathlib.Data.List.Forall2

/-!
# What is found in a dictionary

A dictionary has at most one entry for a key, and that is what is found (`Dictionary.find_iff`).
In a dictionary made of a list it is the last one for the key (`HasLast`, `find_ofList`).
-/

namespace GlBridge

variable {α β : Type} {key : String}

/-- Of the entries for this key, the last one has this value. -/
def HasLast (key : String) (value : α) (entries : List (String × α)) : Prop :=
  ∃ front back, entries = front ++ (key, value) :: back ∧ ∀ e ∈ back, e.1 ≠ key

section Pairs

variable {R : α → β → Prop} {as : List (String × α)} {bs : List (String × β)}

/-- Pairs of one key have the same keys in the same order. -/
theorem map_fst_of_forall₂ (h : List.Forall₂ (fun a b => b.1 = a.1 ∧ R a.2 b.2) as bs) :
    as.map Prod.fst = bs.map Prod.fst := by
  induction h with
  | nil => rfl
  | cons hab _ ih => rw [List.map_cons, List.map_cons, ih, hab.1]

/-- Where the entries of two lists belong together in pairs of one key, so do the last ones. -/
theorem HasLast.of_forall₂ (h : List.Forall₂ (fun a b => b.1 = a.1 ∧ R a.2 b.2) as bs) {b : β}
    (hb : HasLast key b bs) : ∃ a, HasLast key a as ∧ R a b := by
  obtain ⟨front, back, rfl, hback⟩ := hb
  obtain ⟨⟨key', a⟩, rest, ⟨rfl, ha⟩, hrest, hdrop⟩ :=
    List.forall₂_cons_right_iff.1 (List.forall₂_drop_append _ _ _ h)
  have hsplit : as = as.take front.length ++ (key, a) :: rest := by
    rw [← hdrop, List.take_append_drop]
  refine ⟨a, ⟨_, _, hsplit, ?_⟩, ha⟩
  -- the keys behind it are the same in both lists
  have hkeys : ∀ k ∈ rest.map Prod.fst, k ≠ key := by
    rw [map_fst_of_forall₂ hrest]
    exact List.forall_mem_map.2 hback
  exact fun e he => hkeys e.1 (List.mem_map_of_mem he)

end Pairs

/-- The entry in front is looked at first. -/
theorem findEntry_cons (k : String) (v : α) (rest : List (String × α)) :
    findEntry? key ((k, v) :: rest) = if k = key then some v else findEntry? key rest := rfl

/-- What was inserted is found under its key, and what was there under the others. -/
theorem findEntry_insertEntry {entries : List (String × α)} (key' : String) (value : α) :
    findEntry? key (insertEntry key' value entries) =
      if key' = key then some value else findEntry? key entries := by
  induction entries with
  | nil => rfl
  | cons head rest ih =>
    obtain ⟨k, v⟩ := head
    rw [insertEntry]
    split
    · -- the new entry stands in front of a greater key
      rfl
    next hnot =>
      split
      next hlt =>
        -- the entry comes later, and this one has another key
        rw [findEntry_cons, ih, findEntry_cons]
        by_cases hkey : key' = key
        · rw [if_pos hkey, if_pos hkey, if_neg (hkey ▸ String.ne_of_lt hlt)]
        · rw [if_neg hkey, if_neg hkey]
      next hnot' =>
        have hkey : k = key' := String.le_antisymm (String.not_lt.1 hnot) (String.not_lt.1 hnot')
        rw [findEntry_cons, findEntry_cons, hkey]
        by_cases hfound : key' = key
        · rw [if_pos hfound, if_pos hfound]
        · rw [if_neg hfound, if_neg hfound, if_neg hfound]

/-- In ascending entries the one that is found is the only one. -/
theorem findEntry_eq_some {entries : List (String × α)} {value : α} (h : Ascending entries) :
    findEntry? key entries = some value ↔ (key, value) ∈ entries := by
  induction entries with
  | nil => exact ⟨nofun, nofun⟩
  | cons head rest ih =>
    obtain ⟨k, v⟩ := head
    obtain ⟨hhead, hrest⟩ := List.pairwise_cons.1 h
    rw [findEntry_cons, List.mem_cons]
    -- what comes behind has greater keys, so an entry for this key is found at once or not in front
    by_cases hkey : k = key
    · subst hkey
      rw [if_pos rfl]
      constructor
      · exact fun hv => .inl (Prod.ext rfl (Option.some.inj hv).symm)
      · rintro (hv | hmem)
        · exact congrArg some (Prod.mk.inj hv).2.symm
        · exact absurd (hhead _ hmem) (String.lt_irrefl k)
    · rw [if_neg hkey, ih hrest]
      exact ⟨.inr, fun hmem => hmem.resolve_left fun heq => hkey (Prod.mk.inj heq).1.symm⟩

namespace Dictionary

variable {d : Dictionary α} {value : α}

/-- What is found is the entry, and every entry is found. -/
theorem find_iff : d.find? key = some value ↔ (key, value) ∈ d.entries :=
  findEntry_eq_some d.ascending

/-- Nothing is found where there is no entry for the key. -/
theorem find_eq_none_iff : d.find? key = none ↔ ∀ value, (key, value) ∉ d.entries := by
  rw [Option.eq_none_iff_forall_ne_some]
  exact forall_congr' fun value => not_congr find_iff

/-- Entries for other keys do not matter. -/
theorem find_foldl_of_ne {entries : List (String × α)} (h : ∀ e ∈ entries, e.1 ≠ key) :
    (entries.foldl (fun d e => d.insert e.1 e.2) d).find? key = d.find? key := by
  induction entries generalizing d with
  | nil => rfl
  | cons e rest ih =>
    rw [List.foldl_cons, ih fun e' he => h e' (List.mem_cons_of_mem _ he)]
    exact (findEntry_insertEntry _ _).trans (if_neg (h e List.mem_cons_self))

/-- **The last entry for a key is found.** -/
theorem find_ofList {entries : List (String × α)} (h : HasLast key value entries) :
    (ofList entries).find? key = some value := by
  -- the last entry replaces what was there, and those behind it are for other keys
  obtain ⟨front, back, rfl, hback⟩ := h
  rw [ofList, List.foldl_append, List.foldl_cons, find_foldl_of_ne hback]
  exact (findEntry_insertEntry _ _).trans (if_pos rfl)

/-- Without an entry for the key nothing is found. -/
theorem find_ofList_of_ne {entries : List (String × α)} (h : ∀ e ∈ entries, e.1 ≠ key) :
    (ofList entries).find? key = none :=
  find_foldl_of_ne h

end Dictionary

end GlBridge
