import GlBridge.Proofs.Remote.FrameStream
import GlBridge.Proofs.Remote.Observed
import GlBridge.Remote.DryRun

/-!
# The two transports agree

The same steps are carried out over the recording transport, whose responder answers at once, and
over a line-framed one that finds the same answers on its input, a line for each. The two runs come
out the same: `transports_agree`.

What a step asks for may depend on the answers before it, so the input is not known before the
first run is over. Still each request of the second run finds the line it needs, because
the lines left to read are always those of the answers that the first run has yet to give
(`Relay`). This relation looks ahead to the end of the first run, and holds of every state on the
way there.
-/

namespace GlBridge

variable {ρ : Type}

/-! ### Reading the line of a reply -/

/-- The line that a reply is sent as. -/
def Reply.line (r : Reply) : Bytes := Text.encode r.render ++ [newline]

/-- The text of an object ends with a brace. -/
theorem Json.exists_write_object (members : List (String × Json)) :
    ∃ cs, (Json.object members).write = cs ++ ['\x7d'] := by
  refine ⟨(Token.openObject :: separated (memberTokens members)).flatMap Token.spell, ?_⟩
  rw [write, tokens, ← List.cons_append, List.flatMap_append]
  rfl

/-- White space at the end is dropped, and nothing else. -/
theorem Text.trimEnd_append {cs : List Char} {last blank : Char} (hlast : isBlank last = false)
    (hblank : isBlank blank = true) : trimEnd (cs ++ [last] ++ [blank]) = cs ++ [last] := by
  rw [trimEnd, List.reverse_append, List.reverse_append, List.reverse_singleton,
    List.reverse_singleton, List.singleton_append, List.singleton_append,
    List.dropWhile_cons_of_pos hblank, List.dropWhile_cons_of_neg (by simp [hlast]),
    List.reverse_cons, List.reverse_reverse]

/-- **The line of a readable reply holds the reply.** -/
theorem Lines.parseLine_line {r : Reply} (h : r.IsReadable) : Lines.parseLine r.line = .ok r := by
  have hdecode : Text.decode? r.line = some (r.render ++ "\n") := by
    have hbytes : r.line = Text.encode (r.render ++ "\n") := by
      rw [Reply.line, Text.encode, Text.encode, String.toList_append, List.flatMap_append]
      rfl
    rw [hbytes, Text.decode_encode]
  obtain ⟨cs, hcs⟩ := Json.exists_write_object ((Json.tagKey, .string r.kind.tag) :: r.payload)
  have hrender : r.render.toList = cs ++ ['\x7d'] := by
    rw [Reply.render, Json.render, String.toList_ofList]
    exact hcs
  -- the newline is blank and the brace before it is not
  have htrim : Text.trimEnd (r.render ++ "\n").toList = r.render.toList := by
    rw [String.toList_append, hrender]
    exact Text.trimEnd_append rfl rfl
  rw [parseLine, hdecode]
  dsimp only
  rw [htrim, String.ofList_toList, Reply.read_render h]

/-- The line of a reply has no newline but its last byte. -/
theorem splitLine_line (r : Reply) (rest : Bytes) :
    splitLine? (r.line ++ rest) = some (r.line, rest) := by
  have hline : ∀ b ∈ Text.encode r.render, 0x20 ≤ b.toNat := by
    refine Text.noControl_encode ?_
    rw [Reply.render, Json.render, String.toList_ofList]
    exact Json.noControl_write _
  rw [Reply.line, List.append_assoc]
  exact splitLine_append hline rest

/-- A reply whose line comes next is what is read. -/
theorem Lines.readReply_line {t : Lines} {r : Reply} {rest : Bytes} (h : r.IsReadable)
    (hbytes : t.source.bytes = r.line ++ rest) :
    t.readReply = (.ok r, { t with source := { t.source with bytes := rest } }) := by
  have hread : t.source.readLine = (.ok (some r.line), { t.source with bytes := rest }) := by
    rw [Source.readLine, hbytes, splitLine_line]
  unfold readReply
  rw [hread]
  dsimp only
  rw [parseLine_line h]

/-! ### The two transports side by side -/

/-- The replies that were received, in order. -/
def Observed.replies {σ : Type} (o : Observed σ) : List Reply :=
  o.exchanges.filterMap Exchange.reply?

/-- A run over the recording transport that has given some of the replies `all`, and the other
run: it has written the frames of the messages so far, and the lines of the remaining replies are
left to read. -/
structure Relay (all : List Reply) (o : Observed (Recording ρ)) (t : Lines) : Prop where
  neverFails : t.NeverFails
  written : t.sink.written = o.inner.sent.flatMap Sent.frame
  unread : o.replies.flatMap Reply.line ++ t.source.bytes = all.flatMap Reply.line

variable {answer : Message → ρ → Reply × ρ} {all : List Reply}

/-- A message that is recorded adds its frame to those of the messages before it. -/
theorem frames_record (m : Message) (buffers : List Bytes) (r : Recording ρ) :
    (r.record m buffers).sent.flatMap Sent.frame =
      r.sent.flatMap Sent.frame ++ m.frame buffers := by
  rw [Recording.record, List.flatMap_append, List.flatMap_singleton]
  rfl

/-- A message without a reply adds none. -/
theorem replies_send (answer : Message → ρ → Reply × ρ) (m : Message) (buffers : List Bytes)
    (o : Observed (Recording ρ)) :
    ((Recording.transport answer).observed.send m buffers o).2.replies = o.replies := by
  rw [Transport.observed_send, Observed.replies, List.filterMap_append]
  exact List.append_nil _

/-- A message without a reply leaves the lines to read as they are. -/
theorem relay_send (m : Message) (buffers : List Bytes) {o : Observed (Recording ρ)} {t : Lines}
    (h : Relay all o t) :
    ((Recording.transport answer).observed.send m buffers o).1 =
        (Lines.transport.send m buffers t).1 ∧
      Relay all ((Recording.transport answer).observed.send m buffers o).2
        (Lines.transport.send m buffers t).2 := by
  have hsend : Lines.transport.send m buffers t = (.ok (), t.writing (m.frame buffers)) :=
    Lines.writeFrame_of_neverFails h.neverFails m buffers
  rw [hsend]
  refine ⟨rfl, ⟨h.neverFails.room, h.neverFails.flushFails⟩, ?_, ?_⟩
  · change t.sink.written ++ m.frame buffers = (o.inner.record m buffers).sent.flatMap Sent.frame
    rw [h.written, ← frames_record]
  · rw [replies_send]
    exact h.unread

/-- A request adds the reply that the responder gives to it. -/
theorem replies_request (answer : Message → ρ → Reply × ρ) (m : Message) (buffers : List Bytes)
    (o : Observed (Recording ρ)) :
    ((Recording.transport answer).observed.request m buffers o).2.replies =
      o.replies ++ [(answer m o.inner.responder).1] := by
  rw [Transport.observed_request, Recording.transport_request, Observed.replies,
    List.filterMap_append]
  rfl

/-- A request is answered by the line that comes next: it is the line of the reply that the
responder gives, since that is the next one among `all`. -/
theorem relay_request (hread : ∀ m r, (answer m r).1.IsReadable) (m : Message)
    (buffers : List Bytes) {o : Observed (Recording ρ)} {t : Lines}
    (hall : ((Recording.transport answer).observed.request m buffers o).2.replies <+: all)
    (h : Relay all o t) :
    ((Recording.transport answer).observed.request m buffers o).1 =
        (Lines.transport.request m buffers t).1 ∧
      Relay all ((Recording.transport answer).observed.request m buffers o).2
        (Lines.transport.request m buffers t).2 := by
  have hreplies := replies_request answer m buffers o
  rw [hreplies] at hall
  -- the reply is one of `all`, with the `later` ones behind it
  obtain ⟨later, rfl⟩ := hall
  have hunread := h.unread
  rw [List.append_assoc, List.flatMap_append, List.flatMap_append, List.flatMap_singleton,
    List.append_cancel_left_eq] at hunread
  have hrequest : Lines.transport.request m buffers t =
      (.ok (answer m o.inner.responder).1,
        { t.writing (m.frame buffers) with
          source := { t.source with bytes := later.flatMap Reply.line } }) := by
    refine (Lines.request_of_neverFails h.neverFails m buffers).trans ?_
    exact Lines.readReply_line (t := t.writing (m.frame buffers)) (hread m o.inner.responder)
      hunread
  -- the sink never fails, has one more frame, and the line that was read is gone
  refine ⟨by rw [hrequest]; rfl, ⟨?_, ?_⟩, ?_, ?_⟩
  · rw [hrequest]
    exact h.neverFails.room
  · rw [hrequest]
    exact h.neverFails.flushFails
  · rw [hrequest]
    change t.sink.written ++ m.frame buffers = _
    rw [h.written, ← frames_record]
    rfl
  · rw [hreplies, hrequest]
    exact (List.flatMap_append ..).symm

/-- **The transports answer alike**, as far as the replies of the first one are among those that
the input of the other was made of. -/
theorem relay_matches (all : List Reply) (hread : ∀ m r, (answer m r).1.IsReadable) :
    Transport.Matches (fun o => o.replies <+: all) (Relay all)
      (Recording.transport answer).observed Lines.transport where
  send m buffers o t hall := by
    rw [replies_send] at hall
    exact ⟨hall, relay_send m buffers⟩
  request m buffers o t hall := by
    -- the replies only grow, so those before the request are among `all` as well
    refine ⟨?_, relay_request hread m buffers hall⟩
    rw [replies_request] at hall
    exact (List.prefix_append _ _).trans hall

/-! ### Runs -/

/-- The replies that a session gets from a responder, in order. -/
def Step.replies (answer : Message → ρ → Reply × ρ) (steps : List Step) (config : Config)
    (r : ρ) : List Reply :=
  (Step.session (Recording.transport answer).observed steps
    (Context.start config ⟨⟨[], r⟩, []⟩)).state.transport.replies

/-- **The two transports agree.** Let the replies of a responder be readable, and let any steps be
carried out over the recording transport. The same steps over a line-framed transport whose input
is the replies of the first run, a line for each, and whose writer takes everything, have the
same results. The contexts end with the same depth, queue and constants; no byte of the input is
left; and what was written is the frames of the messages that were recorded. -/
theorem transports_agree (answer : Message → ρ → Reply × ρ)
    (hread : ∀ m r, (answer m r).1.IsReadable) (config : Config) (r : ρ) (steps : List Step) :
    let input := (Step.replies answer steps config r).flatMap Reply.line
    let recorded := Step.session (Recording.transport answer) steps (Context.start config ⟨[], r⟩)
    let framed := Step.session Lines.transport steps (Context.start config ⟨⟨input, none⟩, {}⟩)
    framed.results = recorded.results ∧
      framed.state.depth = recorded.state.depth ∧
      framed.state.pending = recorded.state.pending ∧
      framed.state.buffers = recorded.state.buffers ∧
      framed.state.constants = recorded.state.constants ∧
      framed.state.transport.source.bytes = [] ∧
      framed.state.transport.sink.written = recorded.state.transport.sent.flatMap Sent.frame := by
  intro input recorded framed
  -- the observed run lies between the two: it is the one run and corresponds to the other
  let observed := Step.session (Recording.transport answer).observed steps
    (Context.start config ⟨⟨[], r⟩, []⟩)
  obtain ⟨hrecorded, hstate⟩ := Step.session_observed (Recording.transport answer) steps
    (Context.start config ⟨⟨[], r⟩, []⟩)
  change observed.results = recorded.results at hrecorded
  change recorded.state = observed.state.unobserved at hstate
  -- at the start no reply was given, and the lines of all of them are on the input
  have hrelay : Relay observed.state.transport.replies ⟨⟨[], r⟩, []⟩ ⟨⟨input, none⟩, {}⟩ :=
    ⟨⟨rfl, rfl⟩, rfl, rfl⟩
  -- the first run ends with all its replies given, so it is admitted
  obtain ⟨-, hagree⟩ := Correspondence.session_agree
    (s := Context.start config ⟨⟨[], r⟩, []⟩) (t := Context.start config ⟨⟨input, none⟩, {}⟩)
    (fun s (_ : s ∈ steps) => (relay_matches observed.state.transport.replies hread).step s) 0
    List.prefix_rfl
  obtain ⟨hframed, t, hend, hlines⟩ := hagree ⟨_, hrelay, rfl⟩
  change observed.results = framed.results at hframed
  change framed.state = observed.state.withTransport t at hlines
  change Relay observed.state.transport.replies observed.state.transport t at hend
  -- all replies were given, so no line is left
  have hunread : t.source.bytes = [] := List.append_right_eq_self.1 hend.unread
  rw [hlines, hstate]
  exact ⟨hframed.symm.trans hrecorded, rfl, rfl, rfl, rfl, hunread, hend.written⟩

/-- The answer to a query lies one level deep in its reply. -/
theorem Reply.depth_queryReply (v : Value) :
    (Reply.queryReply v).toJson.depth = v.json.depth + 1 := by
  simp [Reply.toJson, Reply.payload, Json.depth, Json.depthOfMembers]

/-- Every reply of the dry-run executor is readable. -/
theorem DryRun.isReadable_reply (m : Message) (e : DryRun) : (DryRun.reply m e).1.IsReadable := by
  have hvalue : ∀ op, (DryRun.value op e).1.json.depth = 0 := by
    intro op
    unfold DryRun.value
    split
    · rfl
    split
    · rfl
    split <;> rfl
  have hquery : ∀ v : Value, v.json.depth = 0 → (Reply.queryReply v).IsReadable := by
    intro v hv
    refine ⟨trivial, ?_⟩
    rw [Reply.depth_queryReply, hv]
    decide
  have herror : (Reply.queryError "empty query").IsReadable := ⟨trivial, by decide⟩
  cases m with
  | query is =>
    unfold DryRun.reply
    dsimp only
    cases is.getLast? with
    | none => exact herror
    | some last => exact hquery _ (hvalue last.op)
  | getConstants target =>
    have hdepth : (Reply.constantsReply target DryRun.constants).toJson.depth = 2 := rfl
    refine ⟨?_, by rw [DryRun.reply, hdepth]; decide⟩
    change ∀ x ∈ DryRun.constants.entries, x.2.isFinite = true
    decide
  | getMethods target =>
    have hdepth : (Reply.methodsReply target DryRun.methods).toJson.depth = 2 := rfl
    refine ⟨trivial, ?_⟩
    rw [DryRun.reply, hdepth]
    decide
  | exec is => exact hquery _ rfl
  | command c => exact hquery _ rfl

/-- The demonstration behind a discovery, in a chunk that is left open. -/
theorem transports_agree_dryRun :
    (∀ m e, (DryRun.reply m e).1.IsReadable) ∧
      let steps : List Step := [.operation (.primitive .fetchConstants),
        .operation (.primitive .beginChunk), .demo "void main() \x7b\x7d" "void main() \x7b\x7d"]
      let input := (Step.replies DryRun.reply steps {} {}).flatMap Reply.line
      (Step.session Lines.transport steps (Context.start {} ⟨⟨input, none⟩, {}⟩)).results =
        (Step.session DryRun.transport steps (Context.start {} DryRun.start)).results :=
  ⟨DryRun.isReadable_reply, (transports_agree DryRun.reply DryRun.isReadable_reply {} {} _).1⟩

end GlBridge
