import GlBridge.Device.Memory
import GlBridge.Main
import GlBridge.Proofs.Device.MemoryBuild
import GlBridge.Proofs.Device.ProgramBuild
import GlBridge.Proofs.Linear.LookAt
import GlBridge.Proofs.Linear.Projection
import GlBridge.Proofs.Remote.Agreement
import GlBridge.Proofs.Remote.Batching
import GlBridge.Proofs.Remote.Chunks
import GlBridge.Proofs.Remote.Constants
import GlBridge.Proofs.Remote.FreshKeys
import GlBridge.Proofs.Remote.Refusal
import GlBridge.Proofs.Remote.MatrixUpload
import GlBridge.Proofs.Remote.ReplyLines
import GlBridge.Proofs.Remote.Scopes
import GlBridge.Proofs.Remote.Tracing
import GlBridge.Proofs.Remote.WellFormed
import GlBridge.Proofs.Studio.Arguments
import GlBridge.Proofs.Studio.Output
import GlBridge.Proofs.Studio.Safety
import GlBridge.Proofs.Studio.Transcript
import GlBridge.Proofs.Wire.Acceptance
