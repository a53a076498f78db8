import GlBridge.Text.Bytes
import GlBridge.Wire.Message

/-!
# Frames

A message leaves for a byte stream as a frame: a header line and then the bytes of
its buffers, one after the other. The header names the message and the length of
each buffer, so that a reader knows where the frame ends.
-/

namespace GlBridge

/-- What the header line of a frame says. -/
structure FrameHeader where
  message : Message
  /-- the length of each buffer that follows -/
  lengths : List UInt64

namespace FrameHeader

/-- The fields of a header in declared order. -/
def fieldNames : List String := ["message", "buffers"]

/-- The header for a message with its buffers. -/
def ofBuffers (message : Message) (buffers : List Bytes) : FrameHeader :=
  ⟨message, buffers.map fun b => UInt64.ofNat b.length⟩

/-- The tree of a length. -/
def lengthToJson (n : UInt64) : Json := .number (.ofNat n.toNat n.toNat_lt)

/-- Reads a length: an integer, and not a negative one. -/
def length? : Json → Option UInt64
  | .number (.integer i _) => if 0 ≤ i then some (UInt64.ofNat i.toNat) else none
  | _ => none

/-- The tree of a header. -/
def toJson (h : FrameHeader) : Json :=
  .object [("message", h.message.toJson), ("buffers", .array (h.lengths.map lengthToJson))]

/-- The text of a header. -/
def render (h : FrameHeader) : String := h.toJson.render

/-- Reads a header from a tree. -/
def ofJson? (j : Json) : Option FrameHeader :=
  match j.fields? fieldNames with
  | some [message, lengths] => do
    return ⟨← Message.ofJson? message, ← lengths.items?.bind (·.mapM length?)⟩
  | _ => none

/-- Reads a header from a text. -/
def read? (s : String) : Option FrameHeader :=
  (((Json.read? s.toList).map (Json.restrict fieldNames)).filter Json.isSound).bind ofJson?

end FrameHeader

namespace Message

/-- The bytes of the header line, without the newline. -/
def headerBytes (m : Message) (buffers : List Bytes) : Bytes :=
  Text.encode (FrameHeader.ofBuffers m buffers).render

/-- The bytes of a frame: header line, newline, buffers. -/
def frame (m : Message) (buffers : List Bytes) : Bytes :=
  m.headerBytes buffers ++ 10 :: buffers.flatten

end Message

end GlBridge
