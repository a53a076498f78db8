import GlBridge.Proofs.Text.Utf8
import GlBridge.Proofs.Wire.RoundTrip
import GlBridge.Remote.Lines

/-!
# The stream of frames can be taken apart again

A line-framed transport writes text and bytes into one stream, and only the headers tell where
the one ends and the other begins. `readFrames?` is the reader of the stream: up to the first
newline it reads a header, and then it takes as many bytes as the header announces.

`readFrames_written` says that the reader gets back exactly the messages and buffers that
were handed over, with no byte left. The bytes of the buffers may be anything. What matters is that
the header has no newline in it, since every control character of a text is escaped
(`Message.noControl_headerBytes`), and that the announced lengths are right
(`takeBuffers_flatten`); so a frame is read whatever follows it (`readFrame_frame`).
-/

namespace GlBridge

/-! ### Reading -/

/-- Takes buffers of the given lengths from the front. -/
def takeBuffers : List UInt64 → Bytes → Option (List Bytes × Bytes)
  | [], bytes => some ([], bytes)
  | n :: lengths, bytes =>
    if bytes.length < n.toNat then none
    else
      (takeBuffers lengths (bytes.drop n.toNat)).map fun (buffers, rest) =>
        (bytes.take n.toNat :: buffers, rest)

/-- Takes a frame from the front: a header line, and the bytes that it announces. -/
def readFrame? (bytes : Bytes) : Option (Sent × Bytes) := do
  let (line, rest) ← splitLine? bytes
  let header ← (Text.decode? line.dropLast).bind FrameHeader.read?
  let (buffers, rest) ← takeBuffers header.lengths rest
  return (⟨header.message, buffers⟩, rest)

/-- Behind a line there is less left than before it. -/
theorem length_of_splitLine {bytes line rest : Bytes} (h : splitLine? bytes = some (line, rest)) :
    rest.length < bytes.length := by
  induction bytes generalizing line with
  | nil => cases h
  | cons b bytes ih =>
    rw [splitLine?] at h
    split at h
    · cases h
      exact Nat.lt_succ_self _
    · obtain ⟨⟨line', rest'⟩, hsplit, heq⟩ := Option.map_eq_some_iff.1 h
      cases heq
      exact Nat.lt_succ_of_lt (ih hsplit)

theorem length_of_takeBuffers {lengths : List UInt64} {bytes rest : Bytes} {buffers : List Bytes}
    (h : takeBuffers lengths bytes = some (buffers, rest)) : rest.length ≤ bytes.length := by
  induction lengths generalizing bytes buffers with
  | nil => cases h; exact Nat.le_refl _
  | cons n lengths ih =>
    rw [takeBuffers] at h
    split at h
    · cases h
    · obtain ⟨⟨buffers', rest'⟩, htake, heq⟩ := Option.map_eq_some_iff.1 h
      cases heq
      exact (ih htake).trans (List.length_drop ▸ Nat.sub_le _ _)

/-- **A frame takes something from the stream**, so that a reader of frames comes to an end. -/
theorem length_of_readFrame {bytes rest : Bytes} {s : Sent}
    (h : readFrame? bytes = some (s, rest)) : rest.length < bytes.length := by
  simp only [readFrame?, Option.bind_eq_bind, Option.bind_eq_some_iff] at h
  obtain ⟨⟨line, behind⟩, hsplit, header, -, ⟨buffers, rest'⟩, htake, heq⟩ := h
  cases heq
  exact (length_of_takeBuffers htake).trans_lt (length_of_splitLine hsplit)

/-- Reads frames until no byte is left. -/
def readFrames? (bytes : Bytes) : Option (List Sent) :=
  if bytes = [] then some []
  else
    match h : readFrame? bytes with
    | none => none
    | some (s, rest) =>
      have := length_of_readFrame h
      (readFrames? rest).map (s :: ·)
termination_by bytes.length

theorem readFrames_nil : readFrames? [] = some [] := by
  rw [readFrames?, if_pos rfl]

/-- The first frame is read first, and the rest is read as a stream. -/
theorem readFrames_of_readFrame {bytes rest : Bytes} {s : Sent}
    (h : readFrame? bytes = some (s, rest)) :
    readFrames? bytes = (readFrames? rest).map (s :: ·) := by
  -- no frame is empty
  have hne : bytes ≠ [] := by
    rintro rfl
    exact absurd (length_of_readFrame h) (Nat.not_lt_zero _)
  rw [readFrames?, if_neg hne]
  split
  · rename_i hnone
    rw [h] at hnone
    cases hnone
  · rename_i s' rest' hsome
    rw [h] at hsome
    cases hsome
    rfl

/-! ### Frames -/

/-- A message with its buffers that a reader can take apart: the header stays within the limit of
depth, and the lengths of the buffers are those of sequences in memory. -/
structure Sent.IsReadable (s : Sent) : Prop where
  depth : (FrameHeader.ofBuffers s.message s.buffers).toJson.depth ≤ Json.depthLimit
  lengths : ∀ b ∈ s.buffers, b.length < 2 ^ 64

/-- What is written for a message with its buffers. -/
def Sent.frame (s : Sent) : Bytes := s.message.frame s.buffers

/-- **No header has a control byte in it**, whatever texts its message carries. -/
theorem Message.noControl_headerBytes (m : Message) (buffers : List Bytes) :
    ∀ b ∈ m.headerBytes buffers, 0x20 ≤ b.toNat := by
  refine Text.noControl_encode ?_
  rw [FrameHeader.render, Json.render, String.toList_ofList]
  exact Json.noControl_write _

/-- A text without control bytes is a line as soon as a newline is put behind it. -/
theorem splitLine_append {line : Bytes} (h : ∀ b ∈ line, 0x20 ≤ b.toNat) (rest : Bytes) :
    splitLine? (line ++ newline :: rest) = some (line ++ [newline], rest) := by
  induction line with
  | nil => rfl
  | cons b line ih =>
    -- a newline is a control byte, and there is none before the end of the line
    have hb : b ≠ newline := by
      rintro rfl
      exact absurd (h newline List.mem_cons_self) (by decide)
    rw [List.cons_append, splitLine?, if_neg hb, ih fun d hd => h d (List.mem_cons_of_mem b hd)]
    rfl

/-- **Buffers are found again by their lengths**, whatever their bytes and whatever follows. -/
theorem takeBuffers_flatten {buffers : List Bytes} (h : ∀ b ∈ buffers, b.length < 2 ^ 64)
    (rest : Bytes) :
    takeBuffers (buffers.map fun b => UInt64.ofNat b.length) (buffers.flatten ++ rest) =
      some (buffers, rest) := by
  induction buffers with
  | nil => rfl
  | cons b buffers ih =>
    have hlen : (UInt64.ofNat b.length).toNat = b.length :=
      UInt64.toNat_ofNat_of_lt' (h b List.mem_cons_self)
    have henough : ¬(b ++ (buffers.flatten ++ rest)).length < b.length := by
      rw [List.length_append]
      omega
    rw [List.map_cons, List.flatten_cons, List.append_assoc, takeBuffers, hlen, if_neg henough,
      List.drop_left, List.take_left, ih fun d hd => h d (List.mem_cons_of_mem b hd)]
    rfl

/-- **A frame is taken from the front**, whatever follows it. -/
theorem readFrame_frame {s : Sent} (h : s.IsReadable) (rest : Bytes) :
    readFrame? (s.frame ++ rest) = some (s, rest) := by
  obtain ⟨m, buffers⟩ := s
  -- the three parts of the reader one by one: the line, the header in it, the buffers behind it
  have hsplit : splitLine? ((⟨m, buffers⟩ : Sent).frame ++ rest) =
      some (m.headerBytes buffers ++ [newline], buffers.flatten ++ rest) := by
    rw [Sent.frame, Message.frame, List.append_assoc]
    exact splitLine_append (m.noControl_headerBytes buffers) _
  have hheader : (Text.decode? (m.headerBytes buffers ++ [newline]).dropLast).bind
      FrameHeader.read? = some (FrameHeader.ofBuffers m buffers) := by
    rw [List.dropLast_concat, Message.headerBytes, Text.decode_encode, Option.bind_some,
      FrameHeader.read_render h.depth]
  have htake : takeBuffers (FrameHeader.ofBuffers m buffers).lengths (buffers.flatten ++ rest) =
      some (buffers, rest) := takeBuffers_flatten h.lengths rest
  unfold readFrame?
  simp only [hsplit, hheader, htake, Option.bind_eq_bind, Option.bind_some]
  rfl

/-- **Frames one after the other are read as they are**, with no byte left. -/
theorem readFrames_flatMap {sents : List Sent} (h : ∀ s ∈ sents, s.IsReadable) :
    readFrames? (sents.flatMap Sent.frame) = some sents := by
  induction sents with
  | nil => exact readFrames_nil
  | cons s rest ih =>
    -- the frames that follow are the rest behind the first one
    rw [List.flatMap_cons, readFrames_of_readFrame (readFrame_frame (h s List.mem_cons_self) _),
      ih fun d hd => h d (List.mem_cons_of_mem s hd)]
    rfl

/-! ### Writing -/

/-- One use of a transport. -/
inductive Transfer where
  | send (s : Sent)
  | request (s : Sent)

namespace Transfer

/-- The message that is handed over, with its buffers. -/
def sent : Transfer → Sent
  | .send s => s
  | .request s => s

/-- The state of the transport after a use, whether it succeeded or not. -/
def perform {σ : Type} (tr : Transport σ) (s : σ) : Transfer → σ
  | .send x => (tr.send x.message x.buffers s).2
  | .request x => (tr.request x.message x.buffers s).2

end Transfer

namespace Lines

/-- The sink takes everything. -/
structure NeverFails (t : Lines) : Prop where
  room : t.sink.room = none
  flushFails : t.sink.flushFails = false

/-- The transport after some bytes were written. -/
def writing (t : Lines) (bytes : Bytes) : Lines :=
  { t with sink := { t.sink with written := t.sink.written ++ bytes } }

/-- A frame is written as a whole. -/
theorem writeFrame_of_neverFails {t : Lines} (h : t.NeverFails) (m : Message)
    (buffers : List Bytes) : t.writeFrame m buffers = (.ok (), t.writing (m.frame buffers)) := by
  obtain ⟨source, written, room, flushFails⟩ := t
  obtain ⟨hroom, hflush⟩ := h
  dsimp only at hroom hflush
  subst hroom hflush
  have hbytes : written ++ m.headerBytes buffers ++ newline :: buffers.flatten =
      written ++ m.frame buffers := List.append_assoc _ _ _
  simp only [writeFrame, Sink.write, writing, Bool.not_true, Bool.false_eq_true, if_false, hbytes]

/-- A request writes its frame, and then it reads a reply. -/
theorem request_of_neverFails {t : Lines} (h : t.NeverFails) (m : Message)
    (buffers : List Bytes) : request m buffers t = (t.writing (m.frame buffers)).readReply := by
  unfold request
  rw [writeFrame_of_neverFails h]

/-- Reading a reply writes nothing. -/
theorem sink_readReply (t : Lines) : t.readReply.2.sink = t.sink := by
  unfold readReply
  match t.source.readLine with
  | (.error _, _) => rfl
  | (.ok none, _) => rfl
  | (.ok (some _), _) => rfl

/-- A use of the transport adds its frame to what was written. -/
theorem sink_perform {t : Lines} (h : t.NeverFails) (x : Transfer) :
    (x.perform transport t).sink = (t.writing x.sent.frame).sink := by
  cases x with
  | send s =>
    exact congrArg (fun out => out.2.sink) (writeFrame_of_neverFails h s.message s.buffers)
  | request s =>
    have hrequest := request_of_neverFails h s.message s.buffers
    exact (congrArg (fun out => out.2.sink) hrequest).trans (sink_readReply _)

/-- **Every use of the transport writes the frame of its message**, also a request whose reply
cannot be read. -/
theorem written_foldl {t : Lines} (h : t.NeverFails) (transfers : List Transfer) :
    (transfers.foldl (Transfer.perform transport) t).sink.written =
      t.sink.written ++ transfers.flatMap fun x => x.sent.frame := by
  induction transfers generalizing t with
  | nil => exact (List.append_nil _).symm
  | cons x rest ih =>
    -- the sink after `x` is the one before with a frame added, so it takes everything too
    have hsink := sink_perform h x
    have hnext : (x.perform transport t).NeverFails := by
      constructor
      · rw [hsink]
        exact h.room
      · rw [hsink]
        exact h.flushFails
    rw [List.foldl_cons, ih hnext, hsink, List.flatMap_cons, ← List.append_assoc]
    rfl

end Lines

/-- **The stream decodes uniquely.** Let any messages and buffers be handed to a line-framed
transport whose writer takes everything. The reader that reads a header up to each newline and then
takes the bytes it announces gets back these messages and buffers, in order, and no byte is left.
In particular no header has a newline or another control byte in it. -/
theorem readFrames_written (source : Source) (transfers : List Transfer)
    (h : ∀ x ∈ transfers, x.sent.IsReadable) :
    readFrames? (transfers.foldl (Transfer.perform Lines.transport) ⟨source, {}⟩).sink.written =
        some (transfers.map Transfer.sent) ∧
      ∀ (m : Message) (buffers : List Bytes), ∀ b ∈ m.headerBytes buffers, 0x20 ≤ b.toNat := by
  refine ⟨?_, Message.noControl_headerBytes⟩
  have hsents : ∀ s ∈ transfers.map Transfer.sent, s.IsReadable := by
    intro s hs
    obtain ⟨x, hx, rfl⟩ := List.mem_map.1 hs
    exact h x hx
  -- what was written is the frames one after the other
  have hframes : (transfers.foldl (Transfer.perform Lines.transport) ⟨source, {}⟩).sink.written =
      (transfers.map Transfer.sent).flatMap Sent.frame := by
    rw [Lines.written_foldl ⟨rfl, rfl⟩, List.flatMap_map]
    rfl
  rw [hframes, readFrames_flatMap hsents]

/-- A buffer of newlines, quotes and braces, an empty one, and a newline in a text. -/
theorem readFrames_written_awkward :
    let transfers : List Transfer :=
      [.send ⟨.exec [.exec "f" []], [[10, 34, 123, 10], []]⟩, .request ⟨.getMethods "a\nb", []⟩]
    (∀ x ∈ transfers, x.sent.IsReadable) ∧
      readFrames?
          (transfers.foldl (Transfer.perform Lines.transport) ⟨⟨[], none⟩, {}⟩).sink.written =
        some (transfers.map Transfer.sent) := by
  intro transfers
  have hreadable : ∀ x ∈ transfers, x.sent.IsReadable := by
    intro x hx
    simp only [transfers, List.mem_cons, List.not_mem_nil, or_false] at hx
    rcases hx with rfl | rfl
    · exact ⟨by decide, by decide⟩
    · exact ⟨by decide, by decide⟩
  exact ⟨hreadable, (readFrames_written ⟨[], none⟩ transfers hreadable).1⟩

end GlBridge
