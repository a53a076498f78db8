import GlBridge.Proofs.Remote.DryRun
import Mathlib.Data.List.Nodup

/-!
# The keys of the dry-run executor

A dry-run executor names the objects that it is asked for by keys, and numbers them from one. The
number of the next key is a count of the objects so far, since nothing but a query that ends in the
creation of an object moves it on (`reply_of_creates`, `reply_of_not_creates`). Along any messages,
answered one after the other, the keys are therefore numbered in order (`answer_eq`), and no two are
the same. Main statement: `keys_are_fresh`.
-/

namespace GlBridge

/-- The message is a query whose last call creates an object. -/
def Message.creates : Message → Bool
  | .query is => is.getLast?.any fun last => last.op ∈ DryRun.objectOps
  | _ => false

namespace DryRun

/-- The executor answers messages one after the other. -/
def answer : List Message → DryRun → List Reply × DryRun
  | [], e => ([], e)
  | m :: rest, e =>
    let (first, e) := reply m e
    let (others, e) := answer rest e
    (first :: others, e)

/-- Of the answers, those to the messages that create an object. -/
def given (messages : List Message) (replies : List Reply) : List Reply :=
  ((messages.zip replies).filter fun p => p.1.creates).map Prod.snd

/-- The reply that names an object by the key with this number. -/
def names (n : Nat) : Reply := .queryReply (.string ("key" ++ toString n))

/-! ### One message -/

/-- A text, and so a reply, that names an object is not empty. -/
theorem argument_ne_empty (object : Handle) : Value.string "" ≠ object.argument := by
  intro h
  -- a key has at least the letters that every key begins with
  have hempty : "" = object.key := Json.string.inj (congrArg Value.json h)
  have hkey := object.isKey
  rw [← hempty] at hkey
  exact absurd hkey (by decide)

/-- Other operations are answered without a new key, and with nothing that names an object. -/
theorem value_of_not_object {op : String} (h : op ∉ objectOps) (e : DryRun) :
    (value op e).2 = e ∧ ∀ object : Handle, (value op e).1 ≠ object.argument := by
  unfold value
  rw [if_neg h]
  split
  · exact ⟨rfl, fun object => nofun⟩
  · split
    · exact ⟨rfl, argument_ne_empty⟩
    · exact ⟨rfl, fun object => nofun⟩

/-- **The executor knows what it answers**: the methods that it lists, and no others. -/
theorem value_ne_null_iff {op : String} (e : DryRun) :
    (value op e).1 ≠ .null ↔ op ∈ methods := by
  unfold value methods
  rw [List.mem_append, List.mem_append]
  -- the methods are listed by the kind of their answer, and the answer is looked up in the same
  -- order
  by_cases hobject : op ∈ objectOps
  · rw [if_pos hobject]
    exact ⟨fun _ => .inl (.inl hobject), fun _ => nofun⟩
  · rw [if_neg hobject]
    by_cases hstatus : op ∈ statusOps
    · rw [if_pos hstatus]
      exact ⟨fun _ => .inl (.inr hstatus), fun _ => nofun⟩
    · rw [if_neg hstatus]
      by_cases hlog : op ∈ logOps
      · rw [if_pos hlog]
        exact ⟨fun _ => .inr hlog, fun _ => nofun⟩
      · rw [if_neg hlog]
        have hnone : ¬ ((op ∈ objectOps ∨ op ∈ statusOps) ∨ op ∈ logOps) :=
          not_or.2 ⟨not_or.2 ⟨hobject, hstatus⟩, hlog⟩
        exact ⟨fun hnull => absurd rfl hnull, fun hmem => absurd hmem hnone⟩

/-- A query without a call is refused, and any other is answered for its last call. -/
theorem reply_query (is : List Instruction) (e : DryRun) :
    reply (.query is) e = match is.getLast? with
      | none => (.queryError "empty query", e)
      | some last => (.queryReply (value last.op e).1, (value last.op e).2) := rfl

/-- **A message that creates an object takes the next key.** -/
theorem reply_of_creates {m : Message} (h : m.creates = true) (e : DryRun) :
    reply m e = (names e.nextKey, ⟨e.nextKey + 1⟩) := by
  match m, h with
  | .query is, h =>
    obtain ⟨last, hlast, hobject⟩ := (Option.any_eq_true _ _).1 h
    have hvalue : value last.op e = (.string (keyText e.nextKey), ⟨e.nextKey + 1⟩) :=
      if_pos (of_decide_eq_true hobject)
    rw [reply_query, hlast]
    show (Reply.queryReply (value last.op e).1, (value last.op e).2) = _
    rw [hvalue]
    rfl

/-- **No other message does**, nor does its reply name an object. -/
theorem reply_of_not_creates {m : Message} (h : m.creates = false) (e : DryRun) :
    (reply m e).2 = e ∧ ∀ object : Handle, (reply m e).1 ≠ .queryReply object.argument := by
  cases m with
  | query is =>
    rw [reply_query]
    cases hlast : is.getLast? with
    | none => exact ⟨rfl, fun object => nofun⟩
    | some last =>
      -- the query does not end in the creation of an object, so its answer is a status, a log or
      -- `null`
      have hobject : last.op ∉ objectOps := by
        intro hmem
        have hcreates : (Message.query is).creates = true :=
          (Option.any_eq_true _ _).2 ⟨last, hlast, decide_eq_true hmem⟩
        exact absurd (h.symm.trans hcreates) Bool.false_ne_true
      obtain ⟨hstate, hvalue⟩ := value_of_not_object hobject e
      exact ⟨hstate, fun object heq => hvalue object (Reply.queryReply.inj heq)⟩
  | exec is => exact ⟨rfl, fun object => nofun⟩
  | command c => exact ⟨rfl, fun object => nofun⟩
  | getConstants target => exact ⟨rfl, fun object => nofun⟩
  | getMethods target => exact ⟨rfl, fun object => nofun⟩

/-! ### Messages one after the other -/

theorem answer_cons (m : Message) (rest : List Message) (e : DryRun) :
    answer (m :: rest) e =
      ((reply m e).1 :: (answer rest (reply m e).2).1, (answer rest (reply m e).2).2) := rfl

/-- The answers to the other messages are passed over. -/
theorem given_cons (m : Message) (rest : List Message) (r : Reply) (others : List Reply) :
    given (m :: rest) (r :: others) =
      if m.creates then r :: given rest others else given rest others := by
  unfold given
  rw [List.zip_cons_cons, List.filter_cons]
  cases m.creates <;> rfl

/-- **The keys are numbered in order**, from the number of the next one on. -/
theorem answer_eq (messages : List Message) (n : Nat) :
    given messages (answer messages ⟨n⟩).1 =
        (List.range' n (messages.countP Message.creates)).map names ∧
      (answer messages ⟨n⟩).2 = ⟨n + messages.countP Message.creates⟩ := by
  induction messages generalizing n with
  | nil => exact ⟨rfl, rfl⟩
  | cons m rest ih =>
    rw [answer_cons, given_cons]
    by_cases h : m.creates = true
    · -- the others are numbered from the number after this one
      obtain ⟨hothers, hend⟩ := ih (n + 1)
      rw [if_pos h, reply_of_creates h, hothers, hend, List.countP_cons_of_pos h,
        List.range'_succ, Nat.add_right_comm]
      exact ⟨rfl, rfl⟩
    · -- and here from the same one
      obtain ⟨hothers, hend⟩ := ih n
      rw [if_neg h, (reply_of_not_creates (Bool.eq_false_iff.2 h) _).1, hothers, hend,
        List.countP_cons_of_neg h]
      exact ⟨rfl, rfl⟩

/-- No message but those that create objects is answered with one. -/
theorem not_object_of_mem {messages : List Message} {e : DryRun} {m : Message} {r : Reply}
    (hmem : (m, r) ∈ messages.zip (answer messages e).1) (h : m.creates = false)
    (object : Handle) : r ≠ .queryReply object.argument := by
  induction messages generalizing e with
  | nil => cases hmem
  | cons m' rest ih =>
    rcases List.mem_cons.1 hmem with heq | hrest
    · obtain ⟨rfl, rfl⟩ := Prod.mk.inj heq
      exact (reply_of_not_creates h e).2 object
    · exact ih hrest

/-- **No two keys are the same.** -/
theorem names_injective : Function.Injective names := by
  intro n m h
  have htext : "key" ++ toString n = "key" ++ toString m :=
    Json.string.inj (congrArg Value.json (Reply.queryReply.inj h))
  -- the keys have their first letters in common, so they differ in the digits or not at all
  have hdigits : Nat.toDigits 10 n = Nat.toDigits 10 m := by
    have hlists := congrArg String.toList htext
    simpa [Nat.toString_eq_ofList_toDigits] using hlists
  calc n = Nat.ofDigitChars 10 (Nat.toDigits 10 n) 0 := Nat.ofDigitChars_ten_toDigits.symm
    _ = Nat.ofDigitChars 10 (Nat.toDigits 10 m) 0 := by rw [hdigits]
    _ = m := Nat.ofDigitChars_ten_toDigits

/-! ### The main statement -/

/-- **Keys are fresh.** Let a dry-run executor answer any messages one after the other. Then those
that create an object are answered with keys numbered from one in their order, whatever messages
come between them; and the number of the next key is one more than there are such messages, so
that a counter of 64 bits is far from its end as long as there are fewer than `2 ^ 63` messages.
No two of these keys are the same, and no other reply names an object. Each of the keys is taken
for an object, whose argument it is, and is refused as a text. A query that ends in some call is
answered with something else than `null` if and only if the executor itself lists its method. -/
theorem keys_are_fresh :
    (∀ messages : List Message,
      let replies := (answer messages {}).1
      given messages replies =
        (List.range' 1 (messages.countP Message.creates)).map
          (fun i => .queryReply (.string ("key" ++ toString i))) ∧
      (given messages replies).Nodup ∧
      (answer messages {}).2.nextKey = 1 + messages.countP Message.creates ∧
      (messages.length < 0x8000000000000000 →
        (answer messages {}).2.nextKey < 0x10000000000000000) ∧
      ∀ m r, (m, r) ∈ messages.zip replies → m.creates = false →
        ∀ object : Handle, r ≠ .queryReply object.argument) ∧
    (∀ n : Nat, let key := "key" ++ toString n
      (∃ object, Handle.ofValue (.string key) = .ok object ∧ object.argument = .string key) ∧
        literal key = .error (.reference key)) ∧
    ∀ (e e' : DryRun) (target : String) (is : List Instruction) (last : Instruction),
      is.getLast? = some last → ∃ v known, (reply (.query is) e).1 = .queryReply v ∧
        (reply (.getMethods target) e').1 = .methodsReply target known ∧
        (v ≠ .null ↔ last.op ∈ known) := by
  refine ⟨fun messages => ?_, fun n => ?_, fun e e' target is last hlast => ?_⟩
  · obtain ⟨hgiven, hend⟩ := answer_eq messages 1
    refine ⟨hgiven, ?_, congrArg DryRun.nextKey hend, fun hshort => ?_, fun m r hmem h =>
      not_object_of_mem hmem h⟩
    · rw [hgiven]
      exact List.Nodup.map names_injective (List.nodup_range' 1)
    · -- there are at most as many objects as messages
      have hcount := List.countP_le_length (p := Message.creates) (l := messages)
      rw [hend]
      show 1 + messages.countP Message.creates < 0x10000000000000000
      omega
  · refine ⟨⟨handle n, Plays.ofValue_keyText n, rfl⟩, literal_of_reference ?_⟩
    exact Bool.or_eq_true_iff.2 (.inl (handle n).isKey)
  · refine ⟨_, _, ?_, rfl, value_ne_null_iff e⟩
    rw [reply_query, hlast]

end DryRun
end GlBridge
