/-!
# Dictionaries sorted by key

Entries with distinct keys in ascending order of their keys. Texts are compared by
code points, which is also the order of their UTF-8 bytes. Adding an entry under a
key that is present replaces the old one (`insertEntry`), so of several entries for
a key the last one added counts.

The functions on plain entry lists are used by JSON objects as well; `Dictionary`
packs a list with the proof that it is ascending.
-/

namespace GlBridge

variable {α : Type}

/-- The keys are in strictly ascending order; in particular none stands twice. -/
def Ascending (entries : List (String × α)) : Prop :=
  entries.Pairwise fun a b => a.1 < b.1

/-- Adds an entry at its place, or replaces the one with the same key. -/
def insertEntry (key : String) (value : α) : List (String × α) → List (String × α)
  | [] => [(key, value)]
  | (k, v) :: rest =>
    if key < k then (key, value) :: (k, v) :: rest
    else if k < key then (k, v) :: insertEntry key value rest
    else (key, value) :: rest

/-- The value stored under a key. -/
def findEntry? (key : String) : List (String × α) → Option α
  | [] => none
  | (k, v) :: rest => if k = key then some v else findEntry? key rest

theorem mem_insertEntry {key : String} {value : α} {entries : List (String × α)}
    {e : String × α} (h : e ∈ insertEntry key value entries) :
    e = (key, value) ∨ e ∈ entries := by
  induction entries with
  | nil => simpa [insertEntry] using h
  | cons head rest ih =>
    obtain ⟨k, v⟩ := head
    simp only [insertEntry] at h
    split at h
    · simpa using h
    · split at h
      · rcases List.mem_cons.1 h with h | h
        · exact .inr (h ▸ List.mem_cons_self)
        · exact (ih h).imp id (List.mem_cons_of_mem _)
      · rcases List.mem_cons.1 h with h | h
        · exact .inl h
        · exact .inr (List.mem_cons_of_mem _ h)

theorem Ascending.insertEntry {entries : List (String × α)} (h : Ascending entries)
    (key : String) (value : α) : Ascending (insertEntry key value entries) := by
  induction entries with
  | nil => simp [Ascending, GlBridge.insertEntry]
  | cons head rest ih =>
    obtain ⟨k, v⟩ := head
    have hrest : Ascending rest := (List.pairwise_cons.1 h).2
    have hhead : ∀ e ∈ rest, k < e.1 := (List.pairwise_cons.1 h).1
    simp only [GlBridge.insertEntry]
    split
    · rename_i hlt
      refine List.pairwise_cons.2 ⟨fun e he => ?_, h⟩
      rcases List.mem_cons.1 he with rfl | he
      · exact hlt
      · exact String.lt_trans hlt (hhead e he)
    · split
      · rename_i hgt
        refine List.pairwise_cons.2 ⟨fun e he => ?_, ih hrest⟩
        rcases mem_insertEntry he with rfl | he
        · exact hgt
        · exact hhead e he
      · rename_i hlt hgt
        have hkey : k = key :=
          String.le_antisymm (String.not_lt.1 hlt) (String.not_lt.1 hgt)
        exact List.pairwise_cons.2 ⟨fun e he => hkey ▸ hhead e he, hrest⟩

/-- Entries with distinct keys in ascending order. -/
structure Dictionary (α : Type) where
  entries : List (String × α)
  ascending : Ascending entries

namespace Dictionary

/-- The dictionary without entries. -/
def empty : Dictionary α := ⟨[], .nil⟩

/-- Adds an entry, or replaces the one with the same key. -/
def insert (d : Dictionary α) (key : String) (value : α) : Dictionary α :=
  ⟨insertEntry key value d.entries, d.ascending.insertEntry key value⟩

/-- The entries of a list, of which the last one for a key counts. -/
def ofList (entries : List (String × α)) : Dictionary α :=
  entries.foldl (fun d e => d.insert e.1 e.2) empty

/-- The value stored under a key. -/
def find? (d : Dictionary α) (key : String) : Option α := findEntry? key d.entries

/-- The number of entries. -/
def size (d : Dictionary α) : Nat := d.entries.length

end Dictionary

end GlBridge
