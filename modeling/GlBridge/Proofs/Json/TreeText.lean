import GlBridge.Json.Tree
import GlBridge.Proofs.Json.TokenText

/-!
# Trees are read back from their text

`Json.read_write`: the text of a tree is read as this tree, whatever its depth and its strings. The
members of an object keep their order, and even a flawed part comes back as one.

The proof has the two halves of reading. No two tokens of a tree run together
(`Json.isChain_tokens`), so the scanner finds them again; and the builder, when it expects a value
and gets the tokens of a tree, goes on with that tree complete (`Builder.run_tokens`). Both go by
recursion on the tree.
-/

namespace GlBridge

open Token

namespace Json

/-! ### Tokens of a tree are apart -/

/-- A token that shows its own end can be followed by anything. -/
theorem isChain_cons_of_isClosed {t : Token} {ts : List Token} (ht : t.isClosed = true)
    (hts : List.IsChain Apart ts) : List.IsChain Apart (t :: ts) := by
  cases ts with
  | nil => exact .singleton t
  | cons u us => exact List.isChain_cons_cons.2 ⟨.inl ht, hts⟩

/-- And a mark can follow anything. -/
theorem isChain_append_mark {ts us : List Token} {m : Token} (hts : List.IsChain Apart ts)
    (hm : m.isMark = true) (hus : List.IsChain Apart (m :: us)) :
    List.IsChain Apart (ts ++ m :: us) := by
  refine List.isChain_append.2 ⟨hts, hus, fun t _ u hu => ?_⟩
  -- where the two parts meet stands the mark
  obtain rfl : m = u := Option.some.inj hu
  exact .inr hm

/-- Behind a part that is not the last there is a comma. -/
theorem separated_cons (part next : List Token) (rest : List (List Token)) :
    separated (part :: next :: rest) = part ++ .comma :: separated (next :: rest) := rfl

/-- Parts with commas between them and a mark behind. -/
theorem isChain_separated {parts : List (List Token)}
    (hparts : ∀ p ∈ parts, List.IsChain Apart p) {m : Token} (hm : m.isMark = true) :
    List.IsChain Apart (separated parts ++ [m]) := by
  induction parts with
  | nil => exact .singleton m
  | cons part rest ih =>
    have hpart := hparts part List.mem_cons_self
    cases rest with
    | nil => exact isChain_append_mark hpart hm (.singleton m)
    | cons next rest =>
      -- the comma is a mark: it may follow the part, and anything may follow it
      have hrest := ih fun p hp => hparts p (List.mem_cons_of_mem part hp)
      rw [separated_cons, List.append_assoc]
      exact isChain_append_mark hpart rfl (isChain_cons_of_isClosed rfl hrest)

mutual

/-- **No two tokens of a tree run together.** -/
theorem isChain_tokens : ∀ j : Json, List.IsChain Apart j.tokens
  | .null | .bool _ | .number _ | .string _ | .flawed => .singleton _
  | .array items =>
    isChain_cons_of_isClosed rfl (isChain_separated (isChain_itemTokens items) rfl)
  | .object members =>
    isChain_cons_of_isClosed rfl (isChain_separated (isChain_memberTokens members) rfl)

theorem isChain_itemTokens : ∀ items : List Json, ∀ p ∈ itemTokens items, List.IsChain Apart p
  | [], _, hp => (nomatch hp)
  | j :: rest, _, hp => by
    rcases List.mem_cons.1 hp with rfl | hp
    · exact isChain_tokens j
    · exact isChain_itemTokens rest _ hp

theorem isChain_memberTokens :
    ∀ members : List (String × Json), ∀ p ∈ memberTokens members, List.IsChain Apart p
  | [], _, hp => (nomatch hp)
  | (_, j) :: rest, _, hp => by
    rcases List.mem_cons.1 hp with rfl | hp
    · exact isChain_cons_of_isClosed rfl (isChain_cons_of_isClosed rfl (isChain_tokens j))
    · exact isChain_memberTokens rest _ hp

end

end Json

/-! ### Building -/

namespace Builder

open Json

/-- A token is taken in one step. -/
theorem run_cons {b next : Builder} {t : Token} (h : step b t = some next) (ts : List Token) :
    run b (t :: ts) = run next ts := by
  rw [run, h]

/-- The tokens of a tree begin with one that closes nothing. -/
theorem exists_tokens_eq_cons (j : Json) :
    ∃ t ts, j.tokens = t :: ts ∧ t ≠ .closeArray := by
  cases j <;> exact ⟨_, _, rfl, nofun⟩

/-- The tokens of several items begin with those of the first one and a comma. -/
theorem itemTokens_cons (j next : Json) (rest : List Json) (ts : List Token) :
    separated (itemTokens (j :: next :: rest)) ++ ts =
      j.tokens ++ .comma :: (separated (itemTokens (next :: rest)) ++ ts) :=
  List.append_assoc _ _ _

/-- Behind the opening of an array the tokens of a tree make its first item. -/
theorem run_firstItem (stack : List Container) (j : Json) (ts : List Token) :
    run (.firstItem stack) (j.tokens ++ ts) =
      run (.value (.array [] :: stack)) (j.tokens ++ ts) := by
  obtain ⟨t, us, htokens, ht⟩ := exists_tokens_eq_cons j
  have hstep : step (.firstItem stack) t = step (.value (.array [] :: stack)) t := by
    cases t with
    | closeArray => exact absurd rfl ht
    | _ => rfl
  rw [htokens, List.cons_append, run, run, hstep]

/-- So do those of several items. -/
theorem run_firstItems (stack : List Container) (j : Json) (rest : List Json) (ts : List Token) :
    run (.firstItem stack) (separated (itemTokens (j :: rest)) ++ ts) =
      run (.value (.array [] :: stack)) (separated (itemTokens (j :: rest)) ++ ts) := by
  cases rest with
  | nil => exact run_firstItem stack j ts
  | cons next rest =>
    rw [itemTokens_cons]
    exact run_firstItem stack j _

/-- Likewise for members, with a key and a colon in front of each. -/
theorem memberTokens_cons (key : String) (j : Json) (m : String × Json)
    (rest : List (String × Json)) (ts : List Token) :
    separated (memberTokens ((key, j) :: m :: rest)) ++ ts =
      .string (some key) :: .colon ::
        (j.tokens ++ .comma :: (separated (memberTokens (m :: rest)) ++ ts)) :=
  congrArg (fun us => Token.string (some key) :: .colon :: us) (List.append_assoc _ _ _)

/-- A key and its colon lead to where the value is expected. -/
theorem run_key (before : List (String × Json)) (key : String) (stack : List Container)
    (ts : List Token) :
    run (.key before true stack) (.string (some key) :: .colon :: ts) =
      run (.value (.object before true (some key) :: stack)) ts := rfl

mutual

/-- **Where a value is expected, the tokens of a tree make this tree.** -/
theorem run_tokens : ∀ (j : Json) (stack : List Container) (ts : List Token),
    run (.value stack) (j.tokens ++ ts) = run (.after j stack) ts
  | .null, _, _ | .bool _, _, _ | .number _, _, _ | .string _, _, _ | .flawed, _, _ => rfl
  | .array items, stack, ts => by
    rw [tokens, List.cons_append, List.append_assoc, run_cons rfl]
    cases hitems : items with
    | nil => rfl
    | cons j rest =>
      -- behind the bracket the array might end, but a tree does not begin that way
      have hall := run_itemTokens items (by rw [hitems]; nofun) [] stack ts
      rw [hitems] at hall
      exact (run_firstItems stack j rest _).trans hall
  | .object members, stack, ts => by
    rw [tokens, List.cons_append, List.append_assoc, run_cons rfl]
    cases hmembers : members with
    | nil => rfl
    | cons m rest =>
      have hall := run_memberTokens members (by rw [hmembers]; nofun) [] stack ts
      rw [hmembers] at hall
      obtain ⟨k, j⟩ := m
      cases rest with
      | nil => exact hall
      | cons next rest => exact hall

/-- The tokens of some items, behind the items `before`, make an array with all of them. -/
theorem run_itemTokens : ∀ (items : List Json), items ≠ [] → ∀ (before : List Json)
    (stack : List Container) (ts : List Token),
    run (.value (.array before :: stack)) (separated (itemTokens items) ++ .closeArray :: ts) =
      run (.after (.array (before.reverse ++ items)) stack) ts
  | [], h, _, _, _ => absurd rfl h
  | [j], _, before, stack, ts => by
    change run _ (j.tokens ++ .closeArray :: ts) = _
    rw [run_tokens j, run_cons rfl, List.reverse_cons]
  | j :: next :: rest, _, before, stack, ts => by
    -- likewise for items
    rw [itemTokens_cons, run_tokens j, run_cons rfl,
      run_itemTokens (next :: rest) nofun (j :: before), List.reverse_cons, List.append_assoc]
    rfl

/-- The tokens of some members, behind the members `before`, make an object with all of them. -/
theorem run_memberTokens : ∀ (members : List (String × Json)), members ≠ [] →
    ∀ (before : List (String × Json)) (stack : List Container) (ts : List Token),
    run (.key before true stack) (separated (memberTokens members) ++ .closeObject :: ts) =
      run (.after (.object (before.reverse ++ members)) stack) ts
  | [], h, _, _, _ => absurd rfl h
  | [(k, j)], _, before, stack, ts => by
    change run _ (.string (some k) :: .colon :: (j.tokens ++ .closeObject :: ts)) = _
    rw [run_key, run_tokens j, run_cons rfl]
    change run (.after (.object ((k, j) :: before).reverse) stack) ts = _
    rw [List.reverse_cons]
  | (k, j) :: m :: rest, _, before, stack, ts => by
    -- the member goes to those before, which are kept in reverse
    rw [memberTokens_cons, run_key, run_tokens j, run_cons rfl]
    change run (.key ((k, j) :: before) true stack) _ = _
    rw [run_memberTokens (m :: rest) nofun, List.reverse_cons, List.append_assoc]
    rfl

end

end Builder

namespace Json

/-- The tokens of a tree make the tree. -/
theorem ofTokens_tokens (j : Json) : ofTokens? j.tokens = some j := by
  have hrun := Builder.run_tokens j [] []
  rw [List.append_nil] at hrun
  rw [ofTokens?, hrun]
  rfl

/-- **A tree is read back from its text.** -/
theorem read_write (j : Json) : read? j.write = some j := by
  rw [read?, write, Token.scan_spell (isChain_tokens j), Option.bind_some, ofTokens_tokens]

/-- **The text of a tree has no control characters**, whatever strings it holds. -/
theorem noControl_write (j : Json) : ∀ c ∈ j.write, 0x20 ≤ c.toNat := by
  intro c hc
  obtain ⟨t, -, ht⟩ := List.mem_flatMap.1 hc
  exact t.noControl_spell c ht

end Json

end GlBridge
