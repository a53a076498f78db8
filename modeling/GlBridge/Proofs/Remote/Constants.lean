import GlBridge.Proofs.Binary.Truncation
import GlBridge.Proofs.Json.Lookup
import GlBridge.Proofs.Json.NumberText
import GlBridge.Proofs.Remote.Course
import GlBridge.Proofs.Remote.Observed
import GlBridge.Proofs.Wire.Grammar

/-!
# The constants that a context keeps

A context keeps the constants that it fetched last. `Context.constants_operation` says of one
operation what it does to them: fetching puts those that were received in the place of the old
ones, if it succeeds, and nothing else touches them. So after any course of operations they are
those of the last fetch that succeeded (`Context.constants_path`).

What is looked up is a number of 32 bits, and what was advertised a float. For the numbers of 32
bits nothing is lost on the way from the text to the float and from the float to the word
(`Context.constant_of_word`). Main statement: `constants_are_those_fetched_last`.
-/

namespace GlBridge

variable {σ : Type}

/-- The constants that an operation fetched, if that was what it did and it succeeded. -/
def Performed.fetched? : Performed → Option (Dictionary Double)
  | ⟨.primitive .fetchConstants, .ok (.constants d)⟩ => some d
  | _ => none

/-- The constants that were fetched last. -/
def lastFetched? (ds : List Performed) : Option (Dictionary Double) :=
  (ds.filterMap Performed.fetched?).getLast?

namespace Context

variable (tr : Transport σ) (c : Context σ)

/-! ### One operation -/

/-- **Fetching succeeds** if everything that is held could be sent and the reply to the request is
one of constants. -/
theorem fetchConstants_eq_ok {d : Dictionary Double} :
    (fetchConstants tr c).result = .ok d ↔ (flush tr c).result = .ok () ∧ ∃ target,
      (tr.request (.getConstants c.config.target) [] (flush tr c).state.transport).1 =
        .ok (.constantsReply target d) := by
  cases hflush : (flush tr c).result with
  | error e =>
    rw [fetchConstants_of_error tr c hflush]
    exact ⟨nofun, nofun⟩
  | ok u =>
    rw [fetchConstants_of_ok tr c hflush]
    dsimp only
    cases (tr.request (.getConstants c.config.target) [] (flush tr c).state.transport).1 with
    | error e => exact ⟨nofun, nofun⟩
    | ok reply =>
      cases reply with
      | constantsReply target data =>
        constructor
        · intro h
          obtain rfl := Except.ok.inj h
          exact ⟨rfl, target, rfl⟩
        · rintro ⟨-, target', h⟩
          exact congrArg Except.ok (Reply.constantsReply.inj (Except.ok.inj h)).2
      | _ => exact ⟨nofun, nofun⟩

/-- What was fetched replaces what was there. -/
theorem constants_fetchConstants :
    (fetchConstants tr c).state.constants =
      ((fetchConstants tr c).result.toOption).getD c.constants := by
  cases hflush : (flush tr c).result with
  | error e =>
    rw [fetchConstants_of_error tr c hflush, constants_flush]
    rfl
  | ok u =>
    rw [fetchConstants_of_ok tr c hflush]
    dsimp only
    cases ((tr.request (.getConstants c.config.target) []
        (flush tr c).state.transport).1.bind Reply.toConstants) with
    | error e => exact constants_flush tr c
    | ok d => rfl

/-- A call leaves the constants as they are. -/
theorem constants_exec (op : String) (args : List Value) :
    (exec tr op args c).state.constants = c.constants := by
  by_cases h : c.depth = 0
  · rw [exec_of_outside tr c op args h, constants_flush]
    rfl
  · rw [exec_of_inside tr c op args h]
    rfl

/-- Methods are not kept. -/
theorem constants_fetchMethods : (fetchMethods tr c).state.constants = c.constants := by
  cases h : (flush tr c).result with
  | error e => rw [fetchMethods_of_error tr c h, constants_flush]
  | ok u =>
    rw [fetchMethods_of_ok tr c h]
    exact constants_flush tr c

/-- A command leaves the constants as they are. -/
theorem constants_orbitView (args : List Value) (render : List Instruction) :
    (orbitView tr args render c).state.constants = c.constants := by
  cases h : (flush tr c).result with
  | error e => rw [orbitView_of_error tr c args render h, constants_flush]
  | ok u =>
    rw [orbitView_of_ok tr c args render h]
    exact constants_flush tr c

/-- The end of a chunk sends something at most. -/
theorem constants_endChunk : (endChunk tr c).state.constants = c.constants := by
  match h : c.depth with
  | 0 => rw [endChunk_of_zero tr c h, constants_flush]
  | 1 => rw [endChunk_of_one tr c h, constants_flush]
  | depth + 2 => rw [endChunk_of_more tr c h]

/-- Only fetching them changes the constants. -/
theorem constants_primitive {p : Primitive} (h : p ≠ .fetchConstants) :
    (p.perform tr c).state.constants = c.constants := by
  cases p with
  | fetchConstants => exact absurd rfl h
  | exec op args => rw [Primitive.perform, state_answering, constants_exec]
  | execWithBuffer op args b =>
    rw [Primitive.perform, state_answering, execWithBuffer_apply, constants_exec]
    rfl
  | query op args =>
    rw [Primitive.perform, state_answering, query_apply]
    rfl
  | flush => rw [Primitive.perform, state_answering, constants_flush]
  | fetchMethods => rw [Primitive.perform, state_answering, constants_fetchMethods]
  | orbitView args render => rw [Primitive.perform, state_answering, constants_orbitView]
  | beginChunk =>
    rw [Primitive.perform, state_answering]
    rfl
  | endChunk => rw [Primitive.perform, state_answering, constants_endChunk]

/-- Fetching the constants is what no other operation comes down to. -/
theorem eq_of_primitive {o : Operation} (h : o.primitive? = .ok .fetchConstants) :
    o = .primitive .fetchConstants := by
  cases o with
  | primitive p => exact congrArg Operation.primitive (Except.ok.inj h)
  | getUniformLocation program name => cases (Operation.getUniformLocation_of_ok h).2
  | shaderSource shader source => cases (Operation.shaderSource_of_ok h).2
  | _ => cases h

/-- **No operation but fetching touches the constants**, whatever it receives. -/
theorem constants_of_other {o : Operation} (h : o ≠ .primitive .fetchConstants) :
    (o.perform tr c).state.constants = c.constants := by
  cases hp : o.primitive? with
  | error v => rw [Operation.perform_of_error tr hp]
  | ok p =>
    -- the primitive is not a fetch either, or the operation would be one
    rw [(Operation.perform_of_ok tr hp c).1]
    refine constants_primitive tr c ?_
    rintro rfl
    exact h (eq_of_primitive hp)

/-- What one operation does to the constants. -/
theorem constants_operation (o : Operation) :
    (o.perform tr c).state.constants =
      (Performed.fetched? ⟨o, (o.perform tr c).result⟩).getD c.constants := by
  -- only a fetch that succeeded counts, so in all other cases nothing may have changed
  by_cases h : o = .primitive .fetchConstants
  · subst h
    have hperform : (Operation.primitive .fetchConstants).perform tr c =
        answering .constants (fetchConstants tr) c := rfl
    rw [hperform, state_answering, answering_apply, constants_fetchConstants]
    cases (fetchConstants tr c).result with
    | error e => rfl
    | ok d => rfl
  · have hnone : Performed.fetched? ⟨o, (o.perform tr c).result⟩ = none := by
      unfold Performed.fetched?
      split
      next heq => exact absurd (Performed.mk.inj heq).1 h
      next => rfl
    rw [constants_of_other tr c h, hnone]
    rfl

/-! ### Any course of operations -/

/-- **The constants are those fetched last**, or those from before if none were fetched. -/
theorem constants_path {ds : List Performed} {c c' : Context σ}
    (h : Path (Performed.Does tr) ds c c') :
    c'.constants = (lastFetched? ds).getD c.constants := by
  induction ds generalizing c with
  | nil =>
    obtain rfl : c = c' := h
    rfl
  | cons d rest ih =>
    obtain ⟨m, ⟨hresult, rfl⟩, hrest⟩ := h
    have hd := constants_operation tr c d.operation
    rw [hresult] at hd
    rw [ih hrest, hd, lastFetched?, lastFetched?]
    -- a later fetch makes up for this operation, and else it is the last to be looked at
    cases hf : d.fetched? with
    | none =>
      rw [List.filterMap_cons_none hf]
      rfl
    | some k =>
      rw [List.filterMap_cons_some hf, List.getLast?_cons]
      rfl

/-- A session of operations is a course of them. -/
theorem operations_path (operations : List Operation) :
    Path (Performed.Does tr)
      (List.zipWith Performed.mk operations (Operation.session tr operations c).results) c
      (Operation.session tr operations c).state := by
  unfold Operation.session
  induction operations generalizing c with
  | nil => rfl
  | cons o rest ih => exact ⟨_, ⟨rfl, rfl⟩, ih _⟩

/-! ### Looking constants up -/

variable {name : String}

/-- A name is not found exactly if it is not among the constants. -/
theorem constant_eq_none : c.constant? name = none ↔ ∀ x, (name, x) ∉ c.constants.entries := by
  rw [constant?, Option.map_eq_none_iff, Dictionary.find_eq_none_iff]

/-- **What is found is the integer part of what was advertised**, clamped to 32 bits. -/
theorem constant_of_mem {x : Double} (h : (name, x) ∈ c.constants.entries)
    (hfinite : x.isFinite = true) :
    ∃ q w, x.toRat? = some q ∧ c.constant? name = some w ∧
      (w.toNat : Int) = clampTo 0xffffffff (integerPart q) := by
  obtain ⟨q, hq⟩ := Binary.toRat_of_isFinite hfinite
  refine ⟨q, _, hq, by rw [constant?, Dictionary.find_iff.2 h, Option.map_some], ?_⟩
  have htruncate := Binary.truncateTo_eq hq 0xffffffff
  -- what is clamped fits into 32 bits, so nothing is cut off when the word is made
  have hbound : x.truncateTo 0xffffffff < 2 ^ 32 := by
    have hle : clampTo 0xffffffff (integerPart q) ≤ (0xffffffff : Nat) :=
      max_le (by positivity) (min_le_right _ _)
    omega
  rw [UInt32.toNat_ofNat_of_lt' hbound, htruncate]

/-- **A number of 32 bits is found as it was advertised.** -/
theorem constant_of_word {n : UInt32} (h : c.constants.find? name = some (.ofInt n.toNat)) :
    c.constant? name = some n := by
  rw [constant?, h, Option.map_some]
  -- a float has 53 bits for the number, so that all 32 of them are kept both ways
  have hexact : (Binary.ofInt n.toNat : Double).truncateTo 0xffffffff = n.toNat :=
    Double.truncateTo_ofInt (n.toNat_lt.trans (by decide)) (Nat.le_of_lt_succ n.toNat_lt)
  rw [hexact, UInt32.ofNat_toNat]

end Context

/-! ### From the text -/

/-- A natural number is written in its digits. -/
theorem Number.write_ofNat {n : Nat} (h : n < 0x10000000000000000) :
    (Number.ofNat n h).write = Nat.toDigits 10 n := by
  show writeInteger (n : Int) = _
  rw [writeInteger, if_neg (Int.not_lt.2 (Int.natCast_nonneg n)), Int.natAbs_natCast]
  rfl

namespace Reply

/-- The tree is that of a reply with constants, and these are its members. -/
def HasConstants (target : String) (members : List (String × Json)) : Json → Prop :=
  Json.IsVariant ReplyKind.constantsReply.tag
    [("target", (· = .string target)), ("data", (· = .object members))]

/-- A reply with constants has members for them. -/
theorem hasConstants_of_spelled {target : String} {d : Dictionary Double} {j : Json}
    (h : (constantsReply target d).SpelledBy j) :
    ∃ members, HasConstants target members j ∧ ConstantsSpelledBy d (.object members) := by
  cases h with
  | object hfields =>
    -- every field is found as before, the data as what it is
    obtain ⟨data, hdata, members, entries, rfl, hread⟩ := hfields ("data", ConstantsSpelledBy d)
      (List.mem_cons_of_mem _ (List.mem_cons_of_mem _ List.mem_cons_self))
    refine ⟨members, .object fun f hf => ?_, members, entries, rfl, hread⟩
    rcases List.mem_cons.1 hf with rfl | hf
    · exact hfields _ List.mem_cons_self
    rcases List.mem_cons.1 hf with rfl | hf
    · exact hfields _ (List.mem_cons_of_mem _ List.mem_cons_self)
    · obtain rfl := List.mem_singleton.1 hf
      exact ⟨_, hdata, rfl⟩
  | array hfields =>
    -- in an array the fields stand in their order, so the data comes third
    rcases hfields with _ | ⟨htag, _ | ⟨htarget, _ | ⟨⟨members, entries, rfl, hread⟩, hnil⟩⟩⟩
    refine ⟨members, .array ?_, members, entries, rfl, hread⟩
    exact .cons htag (.cons htarget (.cons rfl hnil))

/-- What is found for a name in constants that were read: the last of its numbers. -/
theorem find_of_spelled {d : Dictionary Double} {members : List (String × Json)}
    (h : ConstantsSpelledBy d (.object members)) (name : String) :
    ((∀ m ∈ members, m.1 ≠ name) → d.find? name = none) ∧
      ∀ n, HasLast name (.number n) members → d.find? name = some n.toDouble := by
  obtain ⟨_, entries, heq, rfl, hentries⟩ := h
  obtain rfl := Json.object.inj heq
  let R : Double → Json → Prop := fun x j => ∃ n, j = .number n ∧ x = n.toDouble
  have hpairs : List.Forall₂ (fun e m => m.1 = e.1 ∧ R e.2 m.2) entries members := hentries
  constructor
  · intro hnone
    refine Dictionary.find_ofList_of_ne fun e he heq => ?_
    have hmem : name ∈ members.map Prod.fst :=
      map_fst_of_forall₂ hpairs ▸ heq ▸ List.mem_map_of_mem he
    obtain ⟨m, hm, hname⟩ := List.mem_map.1 hmem
    exact hnone m hm hname
  · intro n hlast
    obtain ⟨x, hx, n', hn, rfl⟩ := HasLast.of_forall₂ hpairs hlast
    obtain rfl := Json.number.inj hn
    exact Dictionary.find_ofList hx

end Reply

/-! ### The main statement -/

/-- **How the constants of a context change**, over a transport. -/
structure ConstantsFetched (tr : Transport σ) : Prop where
  /-- Fetching succeeds if and only if all that is held can be sent and the reply is one of
  constants. -/
  fetched : ∀ (c : Context σ) (d : Dictionary Double),
    (Context.fetchConstants tr c).result = .ok d ↔ (Context.flush tr c).result = .ok () ∧ ∃ target,
      (tr.request (.getConstants c.config.target) []
        (Context.flush tr c).state.transport).1 = .ok (.constantsReply target d)
  /-- Then they replace the old ones, -/
  replaced : ∀ (c : Context σ) (d : Dictionary Double),
    (Context.fetchConstants tr c).result = .ok d →
      (Context.fetchConstants tr c).state.constants = d
  /-- and whenever it fails the old ones stay. -/
  kept : ∀ c : Context σ, (∀ d, (Context.fetchConstants tr c).result ≠ .ok d) →
    (Context.fetchConstants tr c).state.constants = c.constants
  /-- No other operation changes them. -/
  others : ∀ (c : Context σ) (o : Operation), o ≠ .primitive .fetchConstants →
    (o.perform tr c).state.constants = c.constants
  /-- So after any operations the constants are those fetched last, and none if none were, -/
  operations : ∀ (config : Config) (t : σ) (operations : List Operation),
    let session := Operation.session tr operations (Context.start config t)
    session.state.constants =
      (lastFetched? (List.zipWith Performed.mk operations session.results)).getD .empty
  /-- and after any steps they are so by the operations that the steps are made of. -/
  steps : ∀ (config : Config) (t : σ) (steps : List Step),
    let session := Step.session tr steps (Context.start config t)
    ∃ ds, Path (Performed.Does tr) ds (Context.start config t) session.state ∧
      Step.Courses steps ds session.results ∧
      session.state.constants = (lastFetched? ds).getD .empty

/-- **What is found for a name** among the constants of a context. -/
structure ConstantsFound (σ : Type) : Prop where
  /-- A name that is not among them is not found. -/
  absent : ∀ (c : Context σ) (name : String),
    c.constant? name = none ↔ ∀ x, (name, x) ∉ c.constants.entries
  /-- For any other the integer part of its number is found, clamped to 32 bits. -/
  clamped : ∀ (c : Context σ) (name : String) (x : Double), (name, x) ∈ c.constants.entries →
    x.isFinite = true → ∃ q w, x.toRat? = some q ∧ c.constant? name = some w ∧
      (w.toNat : Int) = clampTo 0xffffffff (integerPart q)
  /-- Once the constants were read from a text, what is found is what the text says: nothing for a
  name that it does not have, and for a number of 32 bits that it gives the name last just this
  number. -/
  reread : ∀ (text target : String) (d : Dictionary Double),
    Reply.read? text = some (.constantsReply target d) →
      ∃ j members, Json.readSound? text.toList = some j ∧ Reply.HasConstants target members j ∧
        ∀ (c : Context σ) (name : String), c.constants = d →
          ((∀ m ∈ members, m.1 ≠ name) → c.constant? name = none) ∧
          ∀ n : UInt32, HasLast name (Value.word n).json members → c.constant? name = some n
  /-- Such a number is what its digits are read as. -/
  digits : ∀ n : UInt32, ∃ number,
    Number.read? (Nat.toDigits 10 n.toNat) = some (some number) ∧
      (Value.word n).json = .number number

/-- One fetch decides by itself, and the last one of a run is found along its path. -/
theorem constantsFetched (tr : Transport σ) : ConstantsFetched tr where
  fetched c _ := Context.fetchConstants_eq_ok tr c
  replaced c d h := by
    rw [Context.constants_fetchConstants, h]
    rfl
  kept c h := by
    rw [Context.constants_fetchConstants]
    cases hr : (Context.fetchConstants tr c).result with
    | error e => rfl
    | ok d => exact absurd hr (h d)
  others c _ := Context.constants_of_other tr c
  operations _ _ operations := Context.constants_path tr (Context.operations_path tr _ operations)
  steps config t steps := by
    obtain ⟨ds, hpath, hcourses⟩ := Step.session_follows tr steps (Context.start config t)
    exact ⟨ds, hpath, hcourses, Context.constants_path tr hpath⟩

/-- A name is looked up in a dictionary, and its number is truncated. -/
theorem constantsFound (σ : Type) : ConstantsFound σ where
  absent c _ := c.constant_eq_none
  clamped c _ _ := c.constant_of_mem
  reread text target d h := by
    obtain ⟨j, hj, hread⟩ := Option.bind_eq_some_iff.1 h
    obtain ⟨members, hmembers, hspelled⟩ := Reply.hasConstants_of_spelled (Reply.ofJson_iff.1 hread)
    refine ⟨j, members, hj, hmembers, fun c name hc => ?_⟩
    -- the dictionary keeps the last of several numbers for a name, and so does the statement
    obtain ⟨hnone, hsome⟩ := Reply.find_of_spelled hspelled name
    constructor
    · intro habsent
      rw [Context.constant?, hc, hnone habsent, Option.map_none]
    · intro n hlast
      exact c.constant_of_word (hc ▸ hsome _ hlast)
  digits n := by
    have hread := Number.read_write (.ofNat n.toNat (n.toNat_lt.trans (by decide)))
    rw [Number.write_ofNat] at hread
    exact ⟨_, hread, rfl⟩

/-- **The constants are those of the last fetch that succeeded**, over any transport
(`ConstantsFetched`), and what is found for a name is what the executor advertised for it, cut to 32
bits (`ConstantsFound`). -/
theorem constants_are_those_fetched_last (tr : Transport σ) :
    ConstantsFetched tr ∧ ConstantsFound σ :=
  ⟨constantsFetched tr, constantsFound σ⟩

end GlBridge
