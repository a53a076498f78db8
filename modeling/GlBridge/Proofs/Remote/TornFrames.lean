import GlBridge.Proofs.Remote.FrameStream

/-!
# A stream that takes only so much

What a line-framed transport leaves behind on a sink with room for only so many bytes. Main
statement: `written_up_to_room`. The frames of all uses of the transport are cut at one point, so
what arrives is whole frames and at most one torn one (`take_flatMap_frame`), and how the write of a
frame ends is a matter of where in it the room ends (`Lines.WriteVerdict`).

Nothing has to be remembered between the uses but how much room is left. A write that does not fit
uses up all of it, so nothing is written after a torn frame. With `Lines.writeFrame_of_room` for one
frame the run is an induction on the uses (`Lines.sink_foldl_of_room`).

A frame need not be written in one go. `Lines.writeFrameIn` writes the text of the header in pieces,
then the newline, and then buffer by buffer, up to the first piece that is refused. This makes no
difference (`Lines.writeFrameIn_eq`), since a piece is refused exactly if what there is up to its end
does not fit.
-/

namespace GlBridge

/-! ### Writing in pieces -/

namespace Sink

/-- **What is written in two parts is written as one**, and the second part is not begun if the
first one does not fit. -/
theorem write_append (s : Sink) (front back : Bytes) :
    s.write (front ++ back) =
      if (s.write front).1 then (s.write front).2.write back else (false, (s.write front).2) := by
  obtain ⟨written, room, flushFails⟩ := s
  cases room with
  | none => simp [write]
  | some room =>
    by_cases hfits : front.length ≤ room
    · -- the back finds what room the front leaves
      have hback : front.length + back.length ≤ room ↔ back.length ≤ room - front.length := by omega
      simp [write, hfits, List.take_append, List.take_of_length_le hfits, hback, Nat.sub_sub]
    · have hnone : room - front.length = 0 := by omega
      have hboth : ¬front.length + back.length ≤ room := by omega
      have hleft : room - (front.length + back.length) = 0 := by omega
      simp [write, hfits, List.take_append, hnone, hboth, hleft]

/-- A part that does not fit leaves no room, so what is in the sink in the end does not depend on
where writing stopped. -/
theorem write_append_state (s : Sink) (front back : Bytes) :
    (s.write (front ++ back)).2 = ((s.write front).2.write back).2 := by
  obtain ⟨written, room, flushFails⟩ := s
  cases room with
  | none => simp [write]
  | some room => simp [write, List.take_append, Nat.sub_sub]

/-- Writes pieces one after the other, up to the first that is refused. -/
def writePieces : List Bytes → Sink → Bool × Sink
  | [], s => (true, s)
  | piece :: pieces, s =>
    let (taken, s) := s.write piece
    if taken then s.writePieces pieces else (false, s)

/-- Pieces are written as if they were one. -/
theorem writePieces_eq (pieces : List Bytes) (s : Sink) :
    s.writePieces pieces = s.write pieces.flatten := by
  induction pieces generalizing s with
  | nil =>
    obtain ⟨written, room, flushFails⟩ := s
    cases room <;> simp [writePieces, write]
  | cons piece pieces ih =>
    rw [List.flatten_cons, write_append, ← ih]
    rfl

end Sink

namespace Lines

/-- Writes a frame and flushes it, with the text of its header in these pieces, and each buffer on
its own. -/
def writeFrameIn (pieces : List Bytes) (buffers : List Bytes) (t : Lines) :
    Except RemoteError Unit × Lines :=
  let (taken, sink) := t.sink.writePieces pieces
  if !taken then (.error (.json (.refused Sink.fullText)), { t with sink })
  else
    let (taken, sink) := sink.writePieces ([newline] :: buffers)
    if !taken then (.error (.io Sink.fullText), { t with sink })
    else if sink.flushFails then (.error (.io Sink.flushText), { t with sink })
    else (.ok (), { t with sink })

/-- **It does not matter in which pieces a frame is written.** -/
theorem writeFrameIn_eq {m : Message} {buffers pieces : List Bytes}
    (h : pieces.flatten = m.headerBytes buffers) (t : Lines) :
    t.writeFrameIn pieces buffers = t.writeFrame m buffers := by
  unfold writeFrameIn writeFrame
  simp only [Sink.writePieces_eq, h, List.flatten_cons, List.singleton_append]

/-! ### One frame -/

/-- **How the write of a frame ends** that finds room for `left` more bytes. -/
structure WriteVerdict (left : Nat) (flushFails : Bool) (s : Sent) (r : Except RemoteError Unit) :
    Prop where
  /-- It fails as a text does if and only if the text of the header does not fit, -/
  json : (∃ fault, r = .error (.json fault)) ↔ left < (s.message.headerBytes s.buffers).length
  /-- and as a stream does if and only if the room ends behind the header or the flush fails. -/
  io : (∃ text, r = .error (.io text)) ↔
    ((s.message.headerBytes s.buffers).length ≤ left ∧ left < s.frame.length) ∨
      (s.frame.length ≤ left ∧ flushFails = true)
  ok : r = .ok () ↔ s.frame.length ≤ left ∧ flushFails = false
  jsonFault : ∀ fault, r = .error (.json fault) → fault = .refused Sink.fullText
  ioText : ∀ text, r = .error (.io text) →
    text = if left < s.frame.length then Sink.fullText else Sink.flushText

/-- Whatever fails, the frame is taken as far as it fits. -/
theorem writeFrame_state (t : Lines) (m : Message) (buffers : List Bytes) :
    (t.writeFrame m buffers).2 = { t with sink := (t.sink.write (m.frame buffers)).2 } := by
  rw [Message.frame, Sink.write_append, ← newline]
  -- if the header does not fit, the rest is not begun, and there is no room for it either
  cases hheader : (t.sink.write (m.headerBytes buffers)).1 with
  | false => simp [writeFrame, hheader]
  | true =>
    cases hrest : ((t.sink.write (m.headerBytes buffers)).2.write (newline :: buffers.flatten)).1 with
    | false => simp [writeFrame, hheader, hrest]
    | true =>
      simp only [writeFrame, hheader, hrest, Bool.not_true, Bool.false_eq_true, if_false, if_true]
      split <;> rfl

/-- Writing reads nothing. -/
theorem source_writeFrame (t : Lines) (m : Message) (buffers : List Bytes) :
    (t.writeFrame m buffers).2.source = t.source := by
  rw [writeFrame_state]

/-- What a write fails with depends on where in the frame the room ends. -/
theorem writeFrame_result {t : Lines} {left : Nat} (h : t.sink.room = some left) (m : Message)
    (buffers : List Bytes) :
    (t.writeFrame m buffers).1 =
      if left < (m.headerBytes buffers).length then .error (.json (.refused Sink.fullText))
      else if left < (m.frame buffers).length then .error (.io Sink.fullText)
      else if t.sink.flushFails then .error (.io Sink.flushText) else .ok () := by
  obtain ⟨source, written, room, flushFails⟩ := t
  obtain rfl : room = some left := h
  -- behind the header there is as much less room as it is long
  have hbehind : left - (m.headerBytes buffers).length < (newline :: buffers.flatten).length ↔
      left < (m.frame buffers).length := by
    simp only [Message.frame, List.length_append, List.length_cons]
    omega
  simp only [writeFrame, Sink.write, Bool.not_eq_true', decide_eq_false_iff_not, not_le, hbehind]
  split
  · rfl
  · split
    · rfl
    · cases flushFails <;> rfl

/-- **The write of a frame ends as the room decides.** -/
theorem writeFrame_verdict {t : Lines} {left : Nat} (h : t.sink.room = some left) (s : Sent) :
    WriteVerdict left t.sink.flushFails s (t.writeFrame s.message s.buffers).1 := by
  -- the header is shorter than the frame, so that the cases exclude each other
  have hlength : (s.message.headerBytes s.buffers).length < s.frame.length := by
    simp [Sent.frame, Message.frame]
  rw [writeFrame_result h, ← Sent.frame]
  split
  next hheader => constructor <;> simp <;> omega
  next hheader =>
    split
    next hframe => constructor <;> simp [hframe] <;> omega
    next hframe =>
      cases hflush : t.sink.flushFails with
      | true => constructor <;> simp [hframe] <;> omega
      | false => constructor <;> simp <;> omega

/-- A request whose frame was not written ends there. -/
theorem request_of_not_written {t : Lines} {m : Message} {buffers : List Bytes} {e : RemoteError}
    (h : (t.writeFrame m buffers).1 = .error e) :
    request m buffers t = (.error e, (t.writeFrame m buffers).2) := by
  unfold request
  split
  next heq => rw [heq] at h; cases h; rw [heq]
  next heq => rw [heq] at h; cases h

/-- And otherwise a reply is read. -/
theorem request_of_written {t : Lines} {m : Message} {buffers : List Bytes}
    (h : (t.writeFrame m buffers).1 = .ok ()) :
    request m buffers t = (t.writeFrame m buffers).2.readReply := by
  unfold request
  split
  next heq => rw [heq] at h; cases h
  next heq => rw [heq]

/-! ### The stream -/

/-- What becomes of the sink in one use, whatever fails in it. -/
theorem sink_perform_write (t : Lines) (x : Transfer) :
    (x.perform transport t).sink = (t.sink.write x.sent.frame).2 := by
  cases x with
  | send s => exact congrArg Lines.sink (writeFrame_state t s.message s.buffers)
  | request s =>
    -- reading the reply leaves the sink as the write left it
    have hstate := congrArg Lines.sink (writeFrame_state t s.message s.buffers)
    change (request s.message s.buffers t).2.sink = _
    unfold request
    split
    next heq => rw [heq] at hstate; exact hstate
    next heq => rw [heq] at hstate; exact (sink_readReply _).trans hstate

/-- **The sink gets the frames as if they were written in one go.** -/
theorem sink_foldl (t : Lines) (transfers : List Transfer) :
    (transfers.foldl (Transfer.perform transport) t).sink =
      (t.sink.write (transfers.flatMap fun x => x.sent.frame)).2 := by
  induction transfers generalizing t with
  | nil =>
    -- no frame takes no room
    obtain ⟨source, written, room, flushFails⟩ := t
    cases room <;> simp [Sink.write]
  | cons x rest ih =>
    rw [List.foldl_cons, ih, sink_perform_write, List.flatMap_cons, Sink.write_append_state]

end Lines

/-- **A stream of frames is cut at one point.** What fits is whole frames, and if some are left, a
part of the next one. -/
theorem take_flatMap_frame (transfers : List Transfer) (room : Nat) :
    ∃ whole rest torn, transfers = whole ++ rest ∧
      (transfers.flatMap fun x => x.sent.frame).take room =
        (whole.flatMap fun x => x.sent.frame) ++ torn ∧
      (rest = [] ∧ torn = [] ∨ ∃ x after, rest = x :: after ∧ torn <+: x.sent.frame ∧
        torn.length < x.sent.frame.length) := by
  induction transfers generalizing room with
  | nil => exact ⟨[], [], [], rfl, by simp, .inl ⟨rfl, rfl⟩⟩
  | cons x transfers ih =>
    rw [List.flatMap_cons, List.take_append]
    rcases Nat.lt_or_ge room x.sent.frame.length with htorn | hfits
    · -- the cut is in this frame
      refine ⟨[], x :: transfers, x.sent.frame.take room, rfl, ?_,
        .inr ⟨x, transfers, rfl, List.take_prefix _ _, ?_⟩⟩
      · rw [Nat.sub_eq_zero_of_le htorn.le, List.take_zero, List.append_nil]
        rfl
      · rw [List.length_take]
        omega
    · -- this frame fits, and the cut is somewhere behind it
      obtain ⟨whole, rest, torn, rfl, htake, hrest⟩ := ih (room - x.sent.frame.length)
      refine ⟨x :: whole, rest, torn, rfl, ?_, hrest⟩
      rw [List.take_of_length_le hfits, htake, List.flatMap_cons, List.append_assoc]

/-- **A writer that takes only so much cuts the stream at one point.** Let messages and buffers be
sent and requested over a sink with room for `room` bytes, whose flushes all succeed or all fail. The
sink takes as much of the frames of all calls as there is room for, that is, whole frames and at most
a torn one. How the write of the next frame ends is a matter of the room that the ones before it left,
and of nothing else, no matter in which pieces it is written. A request whose frame was not written
fails for that reason and reads nothing. -/
theorem written_up_to_room (source : Source) (written : Bytes) (room : Nat) (flushFails : Bool)
    (transfers : List Transfer) :
    let start : Lines := ⟨source, ⟨written, some room, flushFails⟩⟩
    let stream := transfers.flatMap fun x => x.sent.frame
    let t := transfers.foldl (Transfer.perform Lines.transport) start
    let left := room - stream.length
    t.sink = ⟨written ++ stream.take (min room stream.length), some left, flushFails⟩ ∧
      (∃ whole rest torn, transfers = whole ++ rest ∧
        stream.take (min room stream.length) = (whole.flatMap fun x => x.sent.frame) ++ torn ∧
        (rest = [] ∧ torn = [] ∨ ∃ x after, rest = x :: after ∧ torn <+: x.sent.frame ∧
          torn.length < x.sent.frame.length)) ∧
      ∀ s : Sent,
        let write := t.writeFrame s.message s.buffers
        Lines.WriteVerdict left flushFails s write.1 ∧
        (∀ pieces, pieces.flatten = s.message.headerBytes s.buffers →
          t.writeFrameIn pieces s.buffers = write) ∧
        Lines.transport.send s.message s.buffers t = write ∧
        write.2.source = t.source ∧
        ∀ e, write.1 = .error e →
          Lines.transport.request s.message s.buffers t = (.error e, write.2) := by
  intro start stream t left
  have hsink : t.sink = ⟨written ++ stream.take room, some left, flushFails⟩ :=
    Lines.sink_foldl start transfers
  have hroom : t.sink.room = some left := by rw [hsink]
  have hmin : stream.take (min room stream.length) = stream.take room := by
    rw [List.take_eq_take_iff]
    omega
  rw [hmin]
  refine ⟨hsink, take_flatMap_frame transfers room, fun s => ⟨?_, ?_, rfl, ?_, ?_⟩⟩
  · have hverdict := Lines.writeFrame_verdict hroom s
    rwa [hsink] at hverdict
  · exact fun pieces hpieces => Lines.writeFrameIn_eq hpieces t
  · exact Lines.source_writeFrame t s.message s.buffers
  · exact fun e he => Lines.request_of_not_written he

end GlBridge
