import GlBridge.Json.Value

/-!
# Records in JSON

How the wire format spells a record. A record is an object that has each of its
fields exactly once, in any order, and may have others, which are ignored; or it
is an array of the fields in their declared order and nothing else (`fields?`).

A tagged record names its variant by a text: the one member `type` of the object,
at any place, or the first item of the array (`tagged?`).

A reader that takes a record from a text directly does not look at what it ignores:
`restrict` drops the members that are no fields, so that neither their depth nor
their flaws count.
-/

namespace GlBridge.Json

/-- The value of the member with the given key, if there is exactly one. -/
def member? (key : String) (members : List (String × Json)) : Option Json :=
  match members.filter fun m => m.1 = key with
  | [(_, j)] => some j
  | _ => none

/-- The fields of a record in declared order. -/
def fields? (names : List String) : Json → Option (List Json)
  | .object members => names.mapM fun name => member? name members
  | .array items => if items.length = names.length then some items else none
  | _ => none

/-- The key under which an object names its variant. -/
def tagKey : String := "type"

/-- The tag of a record and the record without it. -/
def tagged? : Json → Option (String × Json)
  | .object members =>
    match member? tagKey members with
    | some (.string tag) => some (tag, .object (members.filter fun m => m.1 ≠ tagKey))
    | _ => none
  | .array (.string tag :: items) => some (tag, .array items)
  | _ => none

/-- The text that a tree is, if it is one. -/
def string? : Json → Option String
  | .string s => some s
  | _ => none

/-- The items of a tree that is an array. -/
def items? : Json → Option (List Json)
  | .array items => some items
  | _ => none

/-- The values of the items of an array. -/
def values? (j : Json) : Option (List Value) := j.items?.bind (·.mapM Value.ofJson?)

/-- The texts that are the items of an array. -/
def strings? (j : Json) : Option (List String) := j.items?.bind (·.mapM string?)

/-- The array of some values. -/
def ofValues (vs : List Value) : Json := .array (vs.map Value.json)

/-- The array of some texts. -/
def ofStrings (ss : List String) : Json := .array (ss.map .string)

/-- Drops the members of an object that are none of the fields. -/
def restrict (names : List String) : Json → Json
  | .object members => .object (members.filter fun m => m.1 ∈ names)
  | j => j

end GlBridge.Json
