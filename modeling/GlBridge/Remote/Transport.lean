import GlBridge.Remote.Error
import GlBridge.Text.Bytes

/-!
# Transports

A `Transport σ` carries messages to an executor, over states of type `σ`: `send` for
those without a reply, `request` for the others. Buffers travel next to a message, in
the order in which the executor takes them. Either call may fail in any way, and a
failed call may change the state as well.

`Recording` is the transport that keeps every message and answers requests itself.
-/

namespace GlBridge

/-- A channel to an executor. -/
structure Transport (σ : Type) where
  send : Message → List Bytes → σ → Except RemoteError Unit × σ
  request : Message → List Bytes → σ → Except RemoteError Reply × σ

/-- A message as it was handed to a transport. -/
structure Sent where
  message : Message
  buffers : List Bytes

/-- The messages so far, in order, and the state of whoever answers. -/
structure Recording (ρ : Type) where
  sent : List Sent
  responder : ρ

namespace Recording

variable {ρ : Type}

/-- Adds a message to those sent. -/
def record (message : Message) (buffers : List Bytes) (r : Recording ρ) : Recording ρ :=
  { r with sent := r.sent ++ [⟨message, buffers⟩] }

/-- The recording transport whose requests are answered by `answer`. It never fails. -/
def transport (answer : Message → ρ → Reply × ρ) : Transport (Recording ρ) where
  send message buffers r := (.ok (), r.record message buffers)
  request message buffers r :=
    let (reply, responder) := answer message r.responder
    (.ok reply, { r.record message buffers with responder })

end Recording

end GlBridge
