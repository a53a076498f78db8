import GlBridge.Proofs.Remote.TornFrames

/-!
# One line for each request

What a line-framed transport reads. Main statement: `replies_by_line`. The input is split after each
newline (`splitLines`), and the requests whose frames were written take these lines one by one. What
such a request is answered is a matter of its own line (`Lines.answer`) and, if there is no whole line
left, of how the input ends. Whether a reply can be made of a line plays no role for the next one.

The invariant of a run is that the lines of what is left are those of the whole input without as many
as requests were served (`Lines.consumed_foldl`). Which requests are served is settled by the sink
alone (`Lines.served_of_sink`).

A line need not be read into a text of its own. `Buffered` reads all lines into the same text, in
which a request that fails may leave a part of a line. It is the same transport, since the text is
cleared before each line (`Buffered.request_eq`).
-/

namespace GlBridge

/-! ### Lines -/

/-- Splits after each newline. What stands behind the last one is a line as well, unless it is
empty. -/
def splitLines : Bytes → List Bytes
  | [] => []
  | b :: rest =>
    if b = newline then [b] :: splitLines rest
    else
      match splitLines rest with
      | [] => [[b]]
      | line :: more => (b :: line) :: more

/-- The line ends with a newline. -/
def IsEnded (line : Bytes) : Prop := line.getLast? = some newline

instance (line : Bytes) : Decidable (IsEnded line) :=
  inferInstanceAs (Decidable (line.getLast? = some newline))

/-- A line that ends is not empty. -/
theorem IsEnded.ne_nil {line : Bytes} (h : IsEnded line) : line ≠ [] := by
  rintro rfl
  cases h

/-- No byte is lost or added. -/
theorem flatten_splitLines (bytes : Bytes) : (splitLines bytes).flatten = bytes := by
  induction bytes with
  | nil => rfl
  | cons b rest ih =>
    rw [splitLines]
    split
    · rw [List.flatten_cons, ih]
      rfl
    · split
      next hnone =>
        -- the byte is all there is behind the last newline
        rw [hnone] at ih
        rw [← ih]
        rfl
      next line more hsome =>
        rw [hsome] at ih
        rw [← ih]
        rfl

example : splitLines [1, newline, newline, 2] = [[1, newline], [newline], [2]] := by decide

/-- Where a line can be split off it is the first one. -/
theorem splitLines_of_splitLine {bytes line rest : Bytes} (h : splitLine? bytes = some (line, rest)) :
    splitLines bytes = line :: splitLines rest ∧ IsEnded line := by
  induction bytes generalizing line with
  | nil => cases h
  | cons b bytes ih =>
    rw [splitLine?] at h
    rw [splitLines]
    split at h
    next hb =>
      obtain ⟨rfl, rfl⟩ := Prod.mk.inj (Option.some.inj h)
      exact ⟨if_pos hb, by rw [IsEnded, hb]; rfl⟩
    next hb =>
      obtain ⟨⟨line', rest'⟩, hsplit, heq⟩ := Option.map_eq_some_iff.1 h
      obtain ⟨rfl, rfl⟩ := Prod.mk.inj heq
      obtain ⟨hlines, hended⟩ := ih hsplit
      refine ⟨?_, ?_⟩
      · rw [if_neg hb, hlines]
      · unfold IsEnded at hended ⊢
        rw [List.getLast?_cons, hended]
        rfl

/-- And where none can be split off, what there is is one line, with no end. -/
theorem splitLines_of_not_splitLine {bytes : Bytes} (h : splitLine? bytes = none) :
    splitLines bytes = (if bytes = [] then [] else [bytes]) ∧ ¬IsEnded bytes := by
  induction bytes with
  | nil => exact ⟨rfl, by simp [IsEnded]⟩
  | cons b bytes ih =>
    rw [splitLine?] at h
    split at h
    next => cases h
    next hb =>
      obtain ⟨hlines, hended⟩ := ih (Option.map_eq_none_iff.1 h)
      rw [splitLines, if_neg hb, hlines, if_neg (List.cons_ne_nil b bytes)]
      unfold IsEnded at hended ⊢
      -- the last byte is that of the rest, if there is any, and else it is `b`
      cases bytes with
      | nil => exact ⟨rfl, by simpa using hb⟩
      | cons c bytes => exact ⟨rfl, by rwa [List.getLast?_cons_cons]⟩

/-! ### Answers -/

namespace Lines

/-- The answer to a request, by its line if there is one and by the failure at the end of the input
if there is one. With a failure at the end only ended lines are read as a whole. -/
def answer (failure : Option String) : Option Bytes → Except RemoteError Reply
  | none => .error (failure.elim .closed .io)
  | some line =>
    match failure with
    | none => parseLine line
    | some text => if IsEnded line then parseLine line else .error (.io text)

/-- A line that can be read as a whole before the input ends or fails. -/
def IsWhole (failure : Option String) (line : Bytes) : Prop := failure = none ∨ IsEnded line

/-- **What is answered to a request**, by its line and the failure at the end of the input. -/
structure Answers (failure : Option String) (line : Option Bytes) (r : Except RemoteError Reply) :
    Prop where
  /-- There are no more replies if and only if the input has just ended. -/
  closed : r = .error .closed ↔ line = none ∧ failure = none
  /-- The stream fails if and only if it fails before the line ends or the line is no text. -/
  io : ∀ text, r = .error (.io text) ↔
    (failure = some text ∧ ∀ l ∈ line, ¬IsEnded l) ∨
      (text = invalidText ∧ ∃ l ∈ line, IsWhole failure l ∧ ∀ s, Text.encode s ≠ l)
  /-- The text of a line, without the white space at its end, is read as a reply, -/
  reply : ∀ reply, r = .ok reply ↔ ∃ s, line = some (Text.encode s) ∧
    IsWhole failure (Text.encode s) ∧
    Reply.read? (String.ofList (Text.trimEnd s.toList)) = some reply
  /-- and it is a fault if it is none. -/
  json : ∀ fault, r = .error (.json fault) ↔ fault = .unreadable ∧
    ∃ s, line = some (Text.encode s) ∧ IsWhole failure (Text.encode s) ∧
      Reply.read? (String.ofList (Text.trimEnd s.toList)) = none

/-- A line that can be read as a whole is not one in which the input fails. -/
theorem IsWhole.not_failed {failure : Option String} {line : Bytes} (h : IsWhole failure line)
    (text : String) : ¬(failure = some text ∧ ¬IsEnded line) := by
  rintro ⟨rfl, hended⟩
  exact h.elim (fun h => nomatch h) hended

/-- A whole line is read as a reply, however the input ends. -/
theorem answer_of_whole {failure : Option String} {line : Bytes} (h : IsWhole failure line) :
    answer failure (some line) = parseLine line := by
  rcases h with rfl | h
  · rfl
  · cases failure with
    | none => rfl
    | some text => exact if_pos h

/-- A line in which the input fails is answered with this failure. -/
theorem answer_of_not_whole {failure : Option String} {line : Bytes} (h : ¬IsWhole failure line) :
    ∃ text, failure = some text ∧ ¬IsEnded line ∧
      answer failure (some line) = .error (.io text) := by
  cases failure with
  | none => exact absurd (.inl rfl) h
  | some text =>
    have hended : ¬IsEnded line := fun hended => h (.inr hended)
    exact ⟨text, rfl, hended, if_neg hended⟩

/-- Bytes that are no text are a failure of the stream. -/
theorem parseLine_of_not_text {line : Bytes} (h : ∀ s, Text.encode s ≠ line) :
    parseLine line = .error (.io invalidText) := by
  unfold parseLine
  rw [Text.decode_eq_none_iff.2 h]

/-- A text is read as a reply, or it is a fault. -/
theorem parseLine_encode (s : String) :
    parseLine (Text.encode s) =
      (Reply.read? (String.ofList (Text.trimEnd s.toList))).elim (.error (.json .unreadable)) .ok := by
  simp only [parseLine, Text.decode_encode]
  cases Reply.read? (String.ofList (Text.trimEnd s.toList)) <;> rfl

/-- A whole line that is a text is answered as it should be. -/
theorem answers_of_text {failure : Option String} {s : String}
    (h : IsWhole failure (Text.encode s)) :
    Answers failure (some (Text.encode s)) (parseLine (Text.encode s)) := by
  have hfailure := h.not_failed
  rw [parseLine_encode]
  cases hread : Reply.read? (String.ofList (Text.trimEnd s.toList)) with
  | none => constructor <;> simp [hread, h, hfailure, eq_comm]
  | some reply => constructor <;> simp [hread, h, hfailure]

/-- A whole line that is no text is answered as it should be. -/
theorem answers_of_not_text {failure : Option String} {line : Bytes} (h : IsWhole failure line)
    (htext : ∀ s, Text.encode s ≠ line) : Answers failure (some line) (parseLine line) := by
  have hfailure := h.not_failed
  have hnone : ∀ s, line ≠ Text.encode s := fun s => (htext s).symm
  rw [parseLine_of_not_text htext]
  constructor <;> simp [h, hnone, hfailure, eq_comm]

/-- **Every line is answered as it should be**, also one that is missing or not ended. -/
theorem answer_answers (failure : Option String) (line : Option Bytes) :
    Answers failure line (answer failure line) := by
  cases line with
  | none => cases failure <;> constructor <;> simp [answer, eq_comm]
  | some line =>
    by_cases hwhole : IsWhole failure line
    · rw [answer_of_whole hwhole]
      -- a whole line is a text or not
      by_cases htext : ∃ s, Text.encode s = line
      · obtain ⟨s, rfl⟩ := htext
        exact answers_of_text hwhole
      · exact answers_of_not_text hwhole fun s hs => htext ⟨s, hs⟩
    · obtain ⟨text, rfl, hended, hanswer⟩ := answer_of_not_whole hwhole
      -- the line is cut off by the failure, so none of the other cases applies to it
      have hnot : ∀ s, line = Text.encode s → ¬IsWhole (some text) (Text.encode s) := by
        rintro s rfl
        exact hwhole
      rw [hanswer]
      constructor <;> simp +contextual [hwhole, hended, hnot, eq_comm]

end Lines

/-! ### Reading -/

namespace Source

/-- What a read of a line takes from a source. -/
structure Taken where
  /-- the bytes up to the end of a line, or all there are -/
  line : Bytes
  /-- the failure behind them, if the line does not end and the input fails there -/
  failure : Option String
  rest : Source

/-- Takes the first line, or what there is if no line ends. -/
def takeLine (s : Source) : Taken :=
  match splitLine? s.bytes with
  | some (line, rest) => ⟨line, none, { s with bytes := rest }⟩
  | none => ⟨s.bytes, s.failure, { s with bytes := [] }⟩

/-- From the one source to the other so many lines were taken. -/
structure Consumed (s s' : Source) (count : Nat) : Prop where
  lines : splitLines s'.bytes = (splitLines s.bytes).drop count
  failure : s'.failure = s.failure

/-- Lines are taken one after the other. -/
theorem Consumed.trans {s s' s'' : Source} {m n : Nat} (h : s.Consumed s' m)
    (h' : s'.Consumed s'' n) : s.Consumed s'' (m + n) where
  lines := by rw [h'.lines, h.lines, List.drop_drop]
  failure := h'.failure.trans h.failure

/-- What is left is the lines that were not taken, -/
theorem Consumed.eq {s s' : Source} {count : Nat} (h : s.Consumed s' count) :
    s' = ⟨((splitLines s.bytes).drop count).flatten, s.failure⟩ := by
  rw [← h.lines, flatten_splitLines, ← h.failure]

/-- and what is missing is those that were. -/
theorem Consumed.eq_append {s s' : Source} {count : Nat} (h : s.Consumed s' count) :
    s.bytes = ((splitLines s.bytes).take count).flatten ++ s'.bytes := by
  conv_rhs => rw [← flatten_splitLines s'.bytes, h.lines]
  rw [← List.flatten_append, List.take_append_drop, flatten_splitLines]

end Source

namespace Lines

/-- The reply that is made of what was taken. -/
def ofTaken (taken : Source.Taken) : Except RemoteError Reply :=
  match taken.failure with
  | some text => .error (.io text)
  | none => if taken.line = [] then .error .closed else parseLine taken.line

/-- A reply is made of what is taken, whether or not it can be read. -/
theorem readReply_takeLine (t : Lines) :
    t.readReply = (ofTaken t.source.takeLine, { t with source := t.source.takeLine.rest }) := by
  unfold readReply Source.readLine Source.takeLine
  cases hsplit : splitLine? t.source.bytes with
  | some split =>
    obtain ⟨line, rest⟩ := split
    -- an ended line is not empty, so the input has not ended
    have hline : line ≠ [] := (splitLines_of_splitLine hsplit).2.ne_nil
    simp [ofTaken, hline]
  | none =>
    cases hfailure : t.source.failure with
    | some text => rfl
    | none =>
      by_cases hbytes : t.source.bytes = []
      · simp [ofTaken, hbytes]
      · simp [ofTaken, hbytes]

/-- The line that is taken is the first one. -/
theorem ofTaken_takeLine (s : Source) :
    ofTaken s.takeLine = answer s.failure (splitLines s.bytes).head? ∧
      s.Consumed s.takeLine.rest 1 := by
  unfold Source.takeLine
  cases hsplit : splitLine? s.bytes with
  | some split =>
    obtain ⟨line, rest⟩ := split
    obtain ⟨hlines, hended⟩ := splitLines_of_splitLine hsplit
    refine ⟨?_, by rw [hlines]; rfl, rfl⟩
    rw [hlines, List.head?_cons, answer_of_whole (.inr hended)]
    exact if_neg hended.ne_nil
  | none =>
    -- no line ends any more, so what there is is the last one, if it is one at all
    obtain ⟨hlines, hended⟩ := splitLines_of_not_splitLine hsplit
    refine ⟨?_, by rw [hlines]; dsimp only; split <;> rfl, rfl⟩
    rw [hlines]
    by_cases hbytes : s.bytes = []
    · rw [if_pos hbytes]
      cases s.failure with
      | some text => rfl
      | none => exact if_pos hbytes
    · rw [if_neg hbytes]
      cases s.failure with
      | some text => exact (if_neg hended).symm
      | none => exact if_neg hbytes

/-- **A reply is made of the first line that is left**, and takes it away. -/
theorem readReply_eq_answer (t : Lines) :
    t.readReply.1 = answer t.source.failure (splitLines t.source.bytes).head? ∧
      t.source.Consumed t.readReply.2.source 1 := by
  rw [readReply_takeLine]
  exact ofTaken_takeLine t.source

/-! ### A run -/

/-- One use of the transport. What becomes of the sink before it is up to its owner. -/
structure Use where
  adjust : Sink → Sink := id
  transfer : Transfer

namespace Use

/-- The transport as the use finds it. -/
def found (u : Use) (t : Lines) : Lines := { t with sink := u.adjust t.sink }

/-- Uses the transport, after its owner has seen to the sink. -/
def perform (t : Lines) (u : Use) : Lines := u.transfer.perform transport (u.found t)

/-- How the frame of a message is written. -/
def written (u : Use) (t : Lines) : Except RemoteError Unit :=
  ((u.found t).writeFrame u.transfer.sent.message u.transfer.sent.buffers).1

/-- The use is a request, and its frame was written and flushed. -/
def isServed (u : Use) (t : Lines) : Bool :=
  match u.transfer with
  | .send _ => false
  | .request _ => (u.written t).isOk

end Use

/-- The number of requests whose frames were written and flushed. -/
def served : List Use → Lines → Nat
  | [], _ => 0
  | u :: uses, t => (if u.isServed t then 1 else 0) + served uses (u.perform t)

/-- How the write of a frame ends does not depend on the source, -/
theorem writeFrame_result_of_sink {t t' : Lines} (h : t.sink = t'.sink) (m : Message)
    (buffers : List Bytes) : (t.writeFrame m buffers).1 = (t'.writeFrame m buffers).1 := by
  obtain ⟨source, sink⟩ := t
  obtain ⟨source', sink'⟩ := t'
  obtain rfl : sink = sink' := h
  simp only [writeFrame]
  split_ifs <;> rfl

/-- and so neither does it which requests are served. -/
theorem served_of_sink (uses : List Use) {t t' : Lines} (h : t.sink = t'.sink) :
    served uses t = served uses t' := by
  induction uses generalizing t t' with
  | nil => rfl
  | cons u uses ih =>
    have hfound : (u.found t).sink = (u.found t').sink := congrArg u.adjust h
    -- whether the use is served is up to its own write
    have hserved : u.isServed t = u.isServed t' := by
      unfold Use.isServed Use.written
      rw [writeFrame_result_of_sink hfound]
    have hsink : (u.perform t).sink = (u.perform t').sink := by
      rw [Use.perform, Use.perform, sink_perform_write, sink_perform_write, hfound]
    rw [served, served, hserved, ih hsink]

/-- Writing takes nothing. -/
theorem consumed_writeFrame (t : Lines) (m : Message) (buffers : List Bytes) :
    t.source.Consumed (t.writeFrame m buffers).2.source 0 := by
  rw [source_writeFrame]
  exact ⟨rfl, rfl⟩

/-- **A request that is served takes the first line** and is answered by it. -/
theorem request_served {t : Lines} {m : Message} {buffers : List Bytes}
    (h : (t.writeFrame m buffers).1 = .ok ()) :
    (request m buffers t).1 = answer t.source.failure (splitLines t.source.bytes).head? ∧
      t.source.Consumed (request m buffers t).2.source 1 := by
  have hreply := readReply_eq_answer (t.writeFrame m buffers).2
  rwa [source_writeFrame, ← request_of_written h] at hreply

/-- **A use takes one line or none**, and one if and only if it is a request that is served. -/
theorem Use.consumed (u : Use) (t : Lines) :
    t.source.Consumed (u.perform t).source (if u.isServed t then 1 else 0) := by
  obtain ⟨adjust, transfer⟩ := u
  cases transfer with
  | send s => exact consumed_writeFrame (Use.found ⟨adjust, .send s⟩ t) s.message s.buffers
  | request s =>
    let found := Use.found ⟨adjust, .request s⟩ t
    have hserved : Use.isServed ⟨adjust, .request s⟩ t =
        (found.writeFrame s.message s.buffers).1.isOk := rfl
    rw [hserved]
    cases hwritten : (found.writeFrame s.message s.buffers).1 with
    | ok u => exact (request_served hwritten).2
    | error e =>
      -- it ends with the write, so it leaves what a sending would leave
      have hperform : Use.perform t ⟨adjust, .request s⟩ =
          (found.writeFrame s.message s.buffers).2 :=
        congrArg Prod.snd (request_of_not_written hwritten)
      rw [hperform]
      exact consumed_writeFrame found s.message s.buffers

/-- **A run takes as many lines as requests were served.** -/
theorem consumed_foldl (uses : List Use) (t : Lines) :
    t.source.Consumed (uses.foldl Use.perform t).source (served uses t) := by
  induction uses generalizing t with
  | nil => exact ⟨rfl, rfl⟩
  | cons u uses ih => exact (u.consumed t).trans (ih (u.perform t))

end Lines

/-! ### One text for all lines -/

/-- A line that was read into a text. -/
structure Reading where
  /-- how many bytes were read -/
  count : Except String Nat
  text : String
  rest : Source

/-- Reads a line and adds it to a text, also where the input fails behind it. Bytes that are no text
are dropped. -/
def Source.readLineInto (text : String) (s : Source) : Reading :=
  let taken := s.takeLine
  match Text.decode? taken.line with
  | none => ⟨.error (taken.failure.getD Lines.invalidText), text, taken.rest⟩
  | some added => ⟨taken.failure.elim (.ok taken.line.length) .error, text ++ added, taken.rest⟩

/-- A line-framed transport with the text that it reads lines into. -/
structure Buffered where
  lines : Lines
  text : String

namespace Buffered

/-- The reply that is made of what was read. -/
def reply (reading : Reading) : Except RemoteError Reply :=
  match reading.count with
  | .error text => .error (.io text)
  | .ok 0 => .error .closed
  | .ok (_ + 1) =>
    (Reply.read? (String.ofList (Text.trimEnd reading.text.toList))).elim
      (.error (.json .unreadable)) .ok

/-- Reads the line of a reply into the text, which is cleared before. -/
def readReply (b : Buffered) : Except RemoteError Reply × Buffered :=
  let cleared := { b with text := "" }
  let reading := cleared.lines.source.readLineInto cleared.text
  (reply reading, ⟨{ b.lines with source := reading.rest }, reading.text⟩)

/-- Writes the frame of a message and reads the reply to it. -/
def request (message : Message) (buffers : List Bytes) (b : Buffered) :
    Except RemoteError Reply × Buffered :=
  match b.lines.writeFrame message buffers with
  | (.error e, lines) => (.error e, { b with lines })
  | (.ok (), lines) => readReply { b with lines }

/-- The line-framed transport with one text for all lines. -/
def transport : Transport Buffered where
  send message buffers b :=
    let (result, lines) := b.lines.writeFrame message buffers
    (result, { b with lines })
  request := request

/-- A use of the transport, as `Lines.Use.perform`. -/
def perform (b : Buffered) (u : Lines.Use) : Buffered :=
  u.transfer.perform transport { b with lines := u.found b.lines }

/-- What is read into an empty text is the line and nothing else. -/
theorem reply_readLineInto (s : Source) :
    reply (s.readLineInto "") = Lines.ofTaken s.takeLine ∧
      (s.readLineInto "").rest = s.takeLine.rest := by
  unfold Source.readLineInto
  obtain ⟨line, failure, rest⟩ := s.takeLine
  cases hdecode : Text.decode? line with
  | none =>
    -- no bytes at all would be the empty text
    have hline : line ≠ [] := by
      rintro rfl
      exact absurd rfl (Text.decode_eq_none_iff.1 hdecode "")
    cases failure with
    | none => simp [reply, Lines.ofTaken, hdecode, hline, Lines.parseLine]
    | some e => simp [reply, Lines.ofTaken, hdecode]
  | some added =>
    cases failure with
    | some e => simp [reply, Lines.ofTaken, hdecode]
    | none =>
      cases line with
      | nil => simp [reply, Lines.ofTaken, hdecode]
      | cons c line =>
        have hparse : Lines.parseLine (c :: line) = reply ⟨.ok (line.length + 1), added, rest⟩ := by
          rw [← Text.decode_eq_some_iff.1 hdecode, Lines.parseLine_encode]
          rfl
        simp [Lines.ofTaken, hdecode, hparse]

/-- **A reply is read as without the text**, since this is cleared before. -/
theorem readReply_eq (b : Buffered) :
    b.readReply.1 = b.lines.readReply.1 ∧ b.readReply.2.lines = b.lines.readReply.2 := by
  obtain ⟨hreply, hrest⟩ := reply_readLineInto b.lines.source
  simp only [readReply, Lines.readReply_takeLine, hreply, hrest, and_self]

/-- **It does not matter what the text holds.** -/
theorem request_eq (b : Buffered) (m : Message) (buffers : List Bytes) :
    (b.request m buffers).1 = (Lines.request m buffers b.lines).1 ∧
      (b.request m buffers).2.lines = (Lines.request m buffers b.lines).2 := by
  unfold request Lines.request
  rcases b.lines.writeFrame m buffers with ⟨e | u, lines⟩
  · exact ⟨rfl, rfl⟩
  · exact readReply_eq { b with lines }

/-- A use of the transport does to its lines what it does without the text. -/
theorem lines_perform (b : Buffered) (u : Lines.Use) :
    (b.perform u).lines = u.perform b.lines := by
  obtain ⟨adjust, transfer⟩ := u
  cases transfer with
  | send s => rfl
  | request s => exact (request_eq _ s.message s.buffers).2

/-- So does a run. -/
theorem lines_foldl (b : Buffered) (uses : List Lines.Use) :
    (uses.foldl perform b).lines = uses.foldl Lines.Use.perform b.lines := by
  induction uses generalizing b with
  | nil => rfl
  | cons u uses ih => rw [List.foldl_cons, List.foldl_cons, ih, lines_perform]

end Buffered

/-! ### Main statement -/

/-- **Every request has its own line.** Use a line-framed transport in any way on any input, with a
sink that may fail and recover between the uses. As many lines of the input are taken as requests were
served, that is, written and flushed, and which these are does not depend on the input. The next
request that is served is answered by the next line and takes it away. What else there is in the
input plays no role, except its failure at the end for a line that is missing or not ended. Sending and
requests that were not written take nothing. All this holds also if the lines are read into one text,
whatever it holds in the beginning. -/
theorem replies_by_line (source : Source) (sink : Sink) (uses : List Lines.Use) :
    let start : Lines := ⟨source, sink⟩
    let t := uses.foldl Lines.Use.perform start
    let count := Lines.served uses start
    let all := splitLines source.bytes
    t.source = ⟨(all.drop count).flatten, source.failure⟩ ∧
      source.bytes = (all.take count).flatten ++ t.source.bytes ∧
      (∀ source', Lines.served uses ⟨source', sink⟩ = count) ∧
      (∀ text, (uses.foldl Buffered.perform ⟨start, text⟩).lines = t) ∧
      ∀ (sink' : Sink) (s : Sent),
        let found : Lines := { t with sink := sink' }
        let write := found.writeFrame s.message s.buffers
        let request := Lines.transport.request s.message s.buffers found
        (Lines.transport.send s.message s.buffers found).2.source = t.source ∧
        (∀ e, write.1 = .error e → request.1 = .error e ∧ request.2.source = t.source) ∧
        (write.1 = .ok () →
          request.1 = Lines.answer source.failure all[count]? ∧
          Lines.Answers source.failure all[count]? request.1 ∧
          request.2.source = ⟨(all.drop (count + 1)).flatten, source.failure⟩) ∧
        ∀ text, (Buffered.transport.request s.message s.buffers ⟨found, text⟩).1 = request.1 := by
  intro start t count all
  have hrun : source.Consumed t.source count := Lines.consumed_foldl uses start
  -- which requests are served is up to the sink, and that is the same
  have hserved : ∀ source', Lines.served uses ⟨source', sink⟩ = count := by
    intro source'
    have hsink : (⟨source', sink⟩ : Lines).sink = start.sink := rfl
    exact Lines.served_of_sink uses hsink
  refine ⟨hrun.eq, hrun.eq_append, hserved,
    fun text => Buffered.lines_foldl ⟨start, text⟩ uses, fun sink' s => ?_⟩
  intro found write request
  refine ⟨?_, fun e he => ?_, fun hwrite => ?_, fun text => ?_⟩
  · exact Lines.source_writeFrame found s.message s.buffers
  · have hrequest : request = (.error e, write.2) := Lines.request_of_not_written he
    rw [hrequest]
    exact ⟨rfl, Lines.source_writeFrame found s.message s.buffers⟩
  · -- the first line that is left is the one that the count leads to
    obtain ⟨hanswer, hnext⟩ := Lines.request_served hwrite
    have hline : (splitLines t.source.bytes).head? = all[count]? := by
      rw [hrun.lines, List.head?_drop]
    have hrequest : request.1 = Lines.answer source.failure all[count]? := by
      rw [← hline, ← hrun.failure]
      exact hanswer
    refine ⟨hrequest, ?_, (hrun.trans hnext).eq⟩
    rw [hrequest]
    exact Lines.answer_answers _ _
  · exact (Buffered.request_eq ⟨found, text⟩ s.message s.buffers).1

end GlBridge
