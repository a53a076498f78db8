import GlBridge.Json.Token

/-!
# JSON trees

`Json` is a text's tree as it is written: the members of an object keep their order
and repeated keys stay. `Json.tokens` and `Json.write` give its text, `Json.read?` reads
one.

Building the tree of a token list needs no recursion on depth: `Builder` keeps the
containers that are still open on a stack and takes one token at a time. Depth is
therefore not limited here but measured (`Json.depth`), and a tree is `Json.isSound`
when it stays within `depthLimit` and every part of it has a value.
-/

namespace GlBridge

/-- A JSON tree as written. -/
inductive Json where
  | null
  | bool (b : Bool)
  | number (n : Number)
  | string (s : String)
  | array (items : List Json)
  | object (members : List (String × Json))
  /-- a part that follows the grammar but has no value, such as a string with half a
  surrogate pair or an object with such a key -/
  | flawed

namespace Json

/-! ### Depth and soundness -/

mutual

/-- The number of containers that lie within each other. -/
def depth : Json → Nat
  | .array items => depthOfItems items + 1
  | .object members => depthOfMembers members + 1
  | _ => 0

/-- The greatest depth of the items. -/
def depthOfItems : List Json → Nat
  | [] => 0
  | j :: rest => max j.depth (depthOfItems rest)

/-- The greatest depth of the members' values. -/
def depthOfMembers : List (String × Json) → Nat
  | [] => 0
  | (_, j) :: rest => max j.depth (depthOfMembers rest)

end

mutual

/-- Every part has a value. -/
def isFlawless : Json → Bool
  | .array items => itemsFlawless items
  | .object members => membersFlawless members
  | .flawed => false
  | _ => true

/-- Every part of every item has a value. -/
def itemsFlawless : List Json → Bool
  | [] => true
  | j :: rest => j.isFlawless && itemsFlawless rest

/-- Every part of every member has a value. -/
def membersFlawless : List (String × Json) → Bool
  | [] => true
  | (_, j) :: rest => j.isFlawless && membersFlawless rest

end

/-- How many containers may lie within each other. -/
def depthLimit : Nat := 127

/-- The tree can be read: every part has a value and the depth is within the limit. -/
def isSound (j : Json) : Bool := j.isFlawless && j.depth ≤ depthLimit

/-! ### Writing -/

/-- Puts commas between the parts of a container. -/
def separated : List (List Token) → List Token
  | [] => []
  | [part] => part
  | part :: rest => part ++ .comma :: separated rest

mutual

/-- The tokens of a tree. -/
def tokens : Json → List Token
  | .null => [.null]
  | .bool b => [.bool b]
  | .number n => [.number (some n)]
  | .string s => [.string (some s)]
  | .array items => .openArray :: (separated (itemTokens items) ++ [.closeArray])
  | .object members => .openObject :: (separated (memberTokens members) ++ [.closeObject])
  | .flawed => [.string none]

/-- The tokens of each item. -/
def itemTokens : List Json → List (List Token)
  | [] => []
  | j :: rest => j.tokens :: itemTokens rest

/-- The tokens of each member. -/
def memberTokens : List (String × Json) → List (List Token)
  | [] => []
  | (key, j) :: rest => (.string (some key) :: .colon :: j.tokens) :: memberTokens rest

end

/-- The text of a tree, without any white space. -/
def write (j : Json) : List Char := j.tokens.flatMap Token.spell

/-- The text of a tree. -/
def render (j : Json) : String := String.ofList j.write

end Json

/-! ### Reading -/

/-- A container that is still open. What it holds so far is kept last part first. -/
inductive Container where
  | array (items : List Json)
  /-- an object whose member `key` lacks its value; `keyed` says that every key so far
  has a value as a string -/
  | object (members : List (String × Json)) (keyed : Bool) (key : Option String)

/-- What the builder expects next, and the open containers, the innermost first. -/
inductive Builder where
  /-- a value -/
  | value (stack : List Container)
  /-- a value, or the end of the array just opened -/
  | firstItem (stack : List Container)
  /-- a key, or the end of the object just opened -/
  | firstKey (stack : List Container)
  /-- the key of a further member -/
  | key (members : List (String × Json)) (keyed : Bool) (stack : List Container)
  /-- the colon behind a key -/
  | colon (members : List (String × Json)) (keyed : Bool) (key : Option String)
    (stack : List Container)
  /-- what may follow the complete value `j` -/
  | after (j : Json) (stack : List Container)

namespace Builder

/-- The tree of a token that is a value by itself. -/
def scalar? : Token → Option Json
  | .null => some .null
  | .bool b => some (.bool b)
  | .number n => some (n.elim .flawed .number)
  | .string s => some (s.elim .flawed .string)
  | _ => none

/-- Takes the first token of a value. -/
def startValue (stack : List Container) (t : Token) : Option Builder :=
  match t with
  | .openArray => some (.firstItem stack)
  | .openObject => some (.firstKey stack)
  | t => (scalar? t).map fun j => .after j stack

/-- Adds a member to those of an object. A key without a value leaves the object without
one. -/
def addMember (members : List (String × Json)) (key : Option String) (j : Json) :
    List (String × Json) :=
  (key.getD "", j) :: members

/-- The tree of a complete object. -/
def closeObject (members : List (String × Json)) (keyed : Bool) : Json :=
  if keyed then .object members.reverse else .flawed

/-- Takes one token. -/
def step : Builder → Token → Option Builder
  | .value stack, t => startValue stack t
  | .firstItem stack, t =>
    match t with
    | .closeArray => some (.after (.array []) stack)
    -- an item follows, so the array stays open
    | t => startValue (.array [] :: stack) t
  | .firstKey stack, t =>
    match t with
    | .closeObject => some (.after (.object []) stack)
    | .string k => some (.colon [] true k stack)
    | _ => none
  | .key members keyed stack, t =>
    match t with
    | .string k => some (.colon members keyed k stack)
    | _ => none
  | .colon members keyed k stack, t =>
    match t with
    | .colon => some (.value (.object members keyed k :: stack))
    | _ => none
  | .after j (.array items :: stack), t =>
    match t with
    | .comma => some (.value (.array (j :: items) :: stack))
    | .closeArray => some (.after (.array (j :: items).reverse) stack)
    | _ => none
  | .after j (.object members keyed k :: stack), t =>
    let members := addMember members k j
    let keyed := keyed && k.isSome
    match t with
    | .comma => some (.key members keyed stack)
    | .closeObject => some (.after (closeObject members keyed) stack)
    | _ => none
  | .after _ [], _ => none

/-- Takes the tokens one after the other. -/
def run : Builder → List Token → Option Builder
  | b, [] => some b
  | b, t :: ts =>
    match step b t with
    | some next => run next ts
    | none => none

/-- The complete tree. -/
def finish : Builder → Option Json
  | .after j [] => some j
  | _ => none

end Builder

namespace Json

/-- The tree of a token list. -/
def ofTokens? (ts : List Token) : Option Json :=
  (Builder.run (.value []) ts).bind Builder.finish

/-- Reads a text as a tree, of any depth and with flawed parts. -/
def read? (cs : List Char) : Option Json := (Token.scan cs).bind ofTokens?

/-- Reads a text as a sound tree. -/
def readSound? (cs : List Char) : Option Json := (read? cs).filter isSound

end Json

end GlBridge
