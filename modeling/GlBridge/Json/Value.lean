import GlBridge.Json.Dictionary
import GlBridge.Json.Tree

/-!
# JSON values

A `Value` is what a tree means when it is taken as data of no fixed shape: the
members of an object are sorted by key, and of several members with one key the
last one counts. Every flawless tree has a value (`Value.ofJson?`), and a value is
itself a tree, one that is its own normal form.
-/

namespace GlBridge

namespace Json

mutual

/-- Nothing is flawed and the members of every object are in ascending order of their
keys. -/
def IsCanonical : Json → Prop
  | .array items => ItemsCanonical items
  | .object members => Ascending members ∧ MembersCanonical members
  | .flawed => False
  | _ => True

/-- Every item is canonical. -/
def ItemsCanonical : List Json → Prop
  | [] => True
  | j :: rest => j.IsCanonical ∧ ItemsCanonical rest

/-- The value of every member is canonical. -/
def MembersCanonical : List (String × Json) → Prop
  | [] => True
  | (_, j) :: rest => j.IsCanonical ∧ MembersCanonical rest

end

/-- Adds members to those that come before them, each replacing an earlier one with the
same key. -/
def sortMembers (sorted : List (String × Json)) : List (String × Json) → List (String × Json)
  | [] => sorted
  | (key, j) :: rest => sortMembers (insertEntry key j sorted) rest

mutual

/-- The normal form: members sorted, the last one for a key kept. -/
def normalize : Json → Json
  | .array items => .array (normalizeItems items)
  | .object members => .object (sortMembers [] (normalizeMembers members))
  | j => j

/-- The normal form of every item. -/
def normalizeItems : List Json → List Json
  | [] => []
  | j :: rest => j.normalize :: normalizeItems rest

/-- The normal form of every member's value. -/
def normalizeMembers : List (String × Json) → List (String × Json)
  | [] => []
  | (key, j) :: rest => (key, j.normalize) :: normalizeMembers rest

end

theorem membersCanonical_iff {members : List (String × Json)} :
    MembersCanonical members ↔ ∀ e ∈ members, e.2.IsCanonical := by
  induction members with
  | nil => simp [MembersCanonical]
  | cons head rest ih => obtain ⟨k, j⟩ := head; simp [MembersCanonical, ih]

/-- Sorting keeps what is sorted already and adds canonical members canonically. -/
theorem sortMembers_canonical {members sorted : List (String × Json)}
    (hs : Ascending sorted) (hc : MembersCanonical sorted) (hm : MembersCanonical members) :
    Ascending (sortMembers sorted members) ∧ MembersCanonical (sortMembers sorted members) := by
  induction members generalizing sorted with
  | nil => exact ⟨hs, hc⟩
  | cons head rest ih =>
    obtain ⟨key, j⟩ := head
    refine ih (hs.insertEntry key j) (membersCanonical_iff.2 fun e he => ?_) hm.2
    rcases mem_insertEntry he with rfl | he
    · exact hm.1
    · exact membersCanonical_iff.1 hc e he

mutual

theorem normalize_canonical : ∀ j : Json, j.isFlawless = true → j.normalize.IsCanonical
  | .null, _ | .bool _, _ | .number _, _ | .string _, _ => trivial
  | .array items, h => normalizeItems_canonical items h
  | .object members, h =>
    sortMembers_canonical .nil trivial (normalizeMembers_canonical members h)

theorem normalizeItems_canonical :
    ∀ items : List Json, itemsFlawless items = true → ItemsCanonical (normalizeItems items)
  | [], _ => trivial
  | j :: rest, h =>
    have h : j.isFlawless = true ∧ itemsFlawless rest = true := by
      simpa [itemsFlawless] using h
    ⟨normalize_canonical j h.1, normalizeItems_canonical rest h.2⟩

theorem normalizeMembers_canonical :
    ∀ members : List (String × Json), membersFlawless members = true →
      MembersCanonical (normalizeMembers members)
  | [], _ => trivial
  | (_, j) :: rest, h =>
    have h : j.isFlawless = true ∧ membersFlawless rest = true := by
      simpa [membersFlawless] using h
    ⟨normalize_canonical j h.1, normalizeMembers_canonical rest h.2⟩

end

end Json

/-- A JSON value: a tree in normal form. -/
structure Value where
  json : Json
  isCanonical : json.IsCanonical

namespace Value

/-- The value of a tree, if every part has one. -/
def ofJson? (j : Json) : Option Value :=
  if h : j.isFlawless = true then some ⟨j.normalize, j.normalize_canonical h⟩ else none

/-- Reads a text as a value. -/
def read? (s : String) : Option Value := (Json.readSound? s.toList).bind ofJson?

/-- The text of a value. -/
def render (v : Value) : String := v.json.render

/-- The value `null`. -/
def null : Value := ⟨.null, trivial⟩

/-- A truth value. -/
def bool (b : Bool) : Value := ⟨.bool b, trivial⟩

/-- A text. -/
def string (s : String) : Value := ⟨.string s, trivial⟩

/-- A 32-bit unsigned integer. -/
def word (n : UInt32) : Value :=
  ⟨.number (.ofNat n.toNat (Nat.lt_trans n.toNat_lt (by decide))), trivial⟩

end Value

end GlBridge
