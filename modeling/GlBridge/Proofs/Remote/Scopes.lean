import GlBridge.Proofs.Device.Memory
import GlBridge.Proofs.Remote.Conduct
import GlBridge.Proofs.Remote.Queue

/-!
# Scopes are balanced

A script on a context, with scopes nested in any way, closes each chunk that it opens once, and
so it ends at the depth at which it began, whichever of its steps fail and whether or not closing
succeeds. The main statement is `scopes_balanced`, for contexts over any transport and for the
device in memory.

How a script proceeds is the same for every device (`Script.watch_proceeds`), provided that calls
and closings do not themselves report a chunk as dropped (`Script.Quiet`). A context does not, for
it reports under its own target only (`Context.reporting_operation`), so the reports of dropped
chunks are those of the scopes and can be counted.

What is left is the depth. A beginning leads up by one, a call stays and an end leads down by
one, each whether it succeeds or fails, and deeds that are nested add up to nothing
(`Script.Deed.Balanced.keeps`). On the device in memory an end that is refused does not lead down,
which is why the depth is said there of devices that do not refuse it.
-/

namespace GlBridge

variable {σ : Type}

namespace Context

/-! ### What a context reports -/

/-- The conduct of reporting under the target of contexts only. -/
abbrev reportsOwn : Conduct (Context σ) :=
  Conduct.reporting fun e => e.target = "jupytergl_remote::context"

variable (tr : Transport σ)

/-- Where nothing is reported, nothing is reported under another target. -/
theorem reporting_of_silent {α : Type} {x : Remote σ α} (h : ∀ c, (x c).events = []) :
    reportsOwn.Governs x := by
  intro c e he
  rw [h c] at he
  cases he

/-- An event under the own target may be reported. -/
theorem reporting_emit {e : Event} (h : e.target = "jupytergl_remote::context") :
    reportsOwn.Governs (Action.emit e : Remote σ Unit) :=
  Conduct.governs_emit fun _ => List.forall_mem_singleton.2 h

/-- The trace is reported under the own target. -/
theorem reporting_traced {e : Event} (h : e.target = "jupytergl_remote::context") :
    reportsOwn.Governs (traced e : Remote σ Unit) := by
  refine Conduct.governs_get.bind fun c => ?_
  cases c.config.trace with
  | false => exact Conduct.governs_pure _
  | true => exact reporting_emit h

theorem reporting_send (m : Message) (bs : List Bytes) : reportsOwn.Governs (send tr m bs) :=
  reporting_of_silent fun _ => rfl

theorem reporting_request (m : Message) (bs : List Bytes) : reportsOwn.Governs (request tr m bs) :=
  reporting_of_silent fun _ => rfl

theorem reporting_takePending : reportsOwn.Governs (takePending : Remote σ _) :=
  reporting_of_silent fun _ => rfl

theorem reporting_modify (f : Context σ → Context σ) :
    reportsOwn.Governs (Action.modify f : Remote σ Unit) :=
  reporting_of_silent fun _ => rfl

/-- A flush reports itself only, if it sends anything. -/
theorem reporting_flush : reportsOwn.Governs (flush tr) := by
  refine Conduct.governs_get.bind fun c => ?_
  cases c.pending.isEmpty with
  | true => exact Conduct.governs_pure _
  | false =>
    exact reporting_takePending.bind fun _ => (reporting_emit rfl).bind fun _ =>
      reporting_send tr _ _

/-- A call reports its trace, and perhaps a flush. -/
theorem reporting_exec (op : String) (args : List Value) :
    reportsOwn.Governs (exec tr op args) := by
  refine (reporting_traced rfl).bind fun _ => (reporting_modify _).bind fun _ => ?_
  refine Conduct.governs_get.bind fun c => ?_
  split
  · exact reporting_flush tr
  · exact Conduct.governs_pure _

theorem reporting_query (op : String) (args : List Value) :
    reportsOwn.Governs (query tr op args) := by
  refine (reporting_traced rfl).bind fun _ => reporting_takePending.bind fun _ => ?_
  refine (reporting_request tr _ _).bind fun reply => ?_
  cases reply with
  | queryReply data => exact Conduct.governs_pure _
  | _ => exact Conduct.governs_fail _

theorem reporting_fetchConstants : reportsOwn.Governs (fetchConstants tr) := by
  refine (reporting_flush tr).bind fun _ => (reporting_traced rfl).bind fun _ => ?_
  refine Conduct.governs_get.bind fun c => (reporting_request tr _ _).bind fun reply => ?_
  cases reply with
  | constantsReply target data =>
    exact (reporting_emit rfl).bind fun _ => (reporting_modify _).bind fun _ =>
      Conduct.governs_pure _
  | _ => exact Conduct.governs_fail _

theorem reporting_fetchMethods : reportsOwn.Governs (fetchMethods tr) := by
  refine (reporting_flush tr).bind fun _ => (reporting_traced rfl).bind fun _ => ?_
  refine Conduct.governs_get.bind fun c => (reporting_request tr _ _).bind fun reply => ?_
  cases reply with
  | methodsReply target data => exact Conduct.governs_pure _
  | _ => exact Conduct.governs_fail _

/-- The end of a chunk reports that none was open, or a flush. -/
theorem reporting_endChunk : reportsOwn.Governs (endChunk tr) := by
  refine Conduct.governs_get.bind fun c => ?_
  split
  · exact (reporting_emit rfl).bind fun _ => reporting_flush tr
  · exact (reporting_modify _).bind fun _ => reporting_flush tr
  · exact reporting_modify _

/-- What is made an answer is reported no differently. -/
theorem reporting_answering {α : Type} {f : α → Answer} {x : Remote σ α}
    (h : reportsOwn.Governs x) : reportsOwn.Governs (answering f x) :=
  Conduct.Governs.bind h fun _ => Conduct.governs_pure _

/-- **A context reports under its own target only.** -/
theorem reporting_operation (o : Operation) : reportsOwn.Governs (o.perform tr) := by
  refine governs_operation (fun p => ?_) o
  cases p with
  | exec op args => exact reporting_answering (reporting_exec tr op args)
  | execWithBuffer op args buffer =>
    exact reporting_answering ((reporting_modify _).bind fun _ => reporting_exec tr op args)
  | query op args => exact reporting_answering (reporting_query tr op args)
  | flush => exact reporting_answering (reporting_flush tr)
  | fetchConstants => exact reporting_answering (reporting_fetchConstants tr)
  | fetchMethods => exact reporting_answering (reporting_fetchMethods tr)
  | orbitView args render =>
    exact reporting_answering ((reporting_flush tr).bind fun _ =>
      (reporting_traced rfl).bind fun _ => reporting_send tr _ _)
  | beginChunk => exact reporting_answering (reporting_modify _)
  | endChunk => exact reporting_answering (reporting_endChunk tr)

/-- A report of a dropped chunk stands under another target. -/
theorem filter_isDrop_of_own {es : List Event}
    (h : ∀ e ∈ es, e.target = "jupytergl_remote::context") : es.filter Event.isDrop = [] := by
  rw [List.filter_eq_nil_iff]
  intro e he hdrop
  have htarget := h e he
  cases e with
  | scopeFlushFailed error =>
    -- such a report comes from the scope itself
    have hchunk : "jupytergl_engine::device::chunk" = "jupytergl_remote::context" := htarget
    exact absurd hchunk (by decide)
  | _ => cases hdrop

/-! ### Scripts on a context -/

/-- An operation that neither opens nor closes a chunk. -/
abbrev Inner : Type := { o : Operation // Matches.isChunk o = false }

/-- Carries out such an operation. -/
def Inner.perform (o : Inner) : Remote σ Answer := o.1.perform tr

/-- Neither the calls of a context nor its closings report dropped chunks. -/
theorem quiet : Script.Quiet (gl tr) (Inner.perform tr) where
  calls o c := filter_isDrop_of_own (reporting_operation tr o.1 c)
  closing c := filter_isDrop_of_own (reporting_endChunk tr c)

variable {tr} {script : Script Inner} {c d : Context σ}
  {ds : List (Script.Deed Inner Answer RemoteError)}

/-- Balanced deeds end at the depth at which they began. -/
theorem depth_balanced (hbalanced : Script.Deed.Balanced ds)
    (hpath : Path (Script.Deed.Does (gl tr) (Inner.perform tr)) ds c d) : d.depth = c.depth := by
  -- the depth is the level of the deeds: up by one, the same, down by one
  refine hbalanced.keeps (P := fun n (c : Context σ) => c.depth = n) ?_ ?_ ?_ hpath rfl
  · rintro n c d rfl hdepth
    exact congrArg (· + 1) hdepth
  · rintro o r n c d ⟨-, rfl⟩ hdepth
    exact (Operation.depth_perform tr o.2 c).trans hdepth
  · rintro r n c d ⟨-, rfl⟩ hdepth
    have hclosed : (endChunk tr c).state.depth = c.depth - 1 := depth_endChunk tr c
    rw [hdepth] at hclosed
    exact hclosed

/-- Deeds on a settled context leave it settled. -/
theorem settled_path (hpath : Path (Script.Deed.Does (gl tr) (Inner.perform tr)) ds c d)
    (h : c.Settled) : d.Settled := by
  refine hpath.preserves (P := Settled) (fun deed _ c d hdoes hc => ?_) h
  cases deed with
  | opened =>
    -- each of the three deeds leaves a settled context settled
    obtain rfl := hdoes
    exact hc.beginChunk
  | called o r =>
    obtain ⟨-, rfl⟩ := hdoes
    exact Operation.settled_perform tr o.1 hc
  | closed r =>
    obtain ⟨-, rfl⟩ := hdoes
    exact hc.endChunk tr

end Context

/-! ### Main statement -/

/-- **Scopes are balanced on every exit.** Take any script of calls and nested scopes on any
context, and watch what it does. It proceeds as it should: it stops at its first failing step,
closes each chunk that it opened once and in its place, and results in its first failure, while
every other failure, which is one of closing, is only reported. It ends at the depth at which it
began, and outside of chunks nothing is held then, if that was so at all, as it is of every
context that steps can lead to. The device in memory behaves likewise by its own record. -/
theorem scopes_balanced (tr : Transport σ) (c : Context σ) (script : Script Context.Inner)
    (m : Memory) (memoryScript : Script Memory.Inner) :
    (let seen := script.watch (Context.gl tr) (Context.Inner.perform tr) ⟨c, []⟩
      let out := script.run (Context.gl tr) (Context.Inner.perform tr) c
      out = ⟨seen.result, seen.state.inner, seen.events⟩ ∧
        script.Proceeds RemoteError.message seen.state.record out ∧
        out.state.depth = c.depth ∧
        (c.Settled → c.depth = 0 → out.state.Drained) ∧
        ∀ config t history,
          (Step.session tr history (Context.start config t)).state.Settled) ∧
    (let out := memoryScript.run Memory.gl Memory.Inner.perform m
      ∃ ds, memoryScript.Proceeds Memory.Failure.message ds out ∧
        out.state.calls = m.calls ++ ds.map Memory.nameOfDeed ∧
        (m.refuses ≠ some .endChunk → out.state.depth = m.depth)) := by
  refine ⟨?_, ?_⟩
  · intro seen out
    -- watching the script does not change it, and the record is as it should be
    obtain ⟨hseen, hproceeds⟩ := Script.watch_proceeds (Context.quiet tr) script c
    -- the deeds lead from `c` to where the run ended
    obtain ⟨ds, haccounts, hcourse⟩ := Script.run_course (Context.quiet tr) script c
    have hdepth : out.state.depth = c.depth :=
      Context.depth_balanced hcourse.balanced haccounts.path
    refine ⟨hseen, hproceeds, hdepth, fun hsettled hzero => ?_, fun config t history => ?_⟩
    · exact (Context.settled_path haccounts.path hsettled).drained (hdepth.trans hzero)
    · exact Step.settled_session tr history (Context.settled_start config t)
  · intro out
    obtain ⟨ds, haccounts, hcourse⟩ := Script.run_course Memory.quiet memoryScript m
    refine ⟨ds, ⟨hcourse, hcourse.balanced, haccounts.first, haccounts.others⟩,
      Memory.calls_path haccounts.path, fun h => ?_⟩
    exact Memory.depth_balanced hcourse.balanced haccounts.path h

/-- A call that fails in the inner of two scopes, neither of which can be closed: each is closed
once, and the two failures of closing are only reported. -/
example :
    let fails : Memory.Inner := ⟨⟨_, .linkProgram 0⟩, rfl⟩
    let out := (Script.scope (.scope (.call fails .done) .done) .done).run Memory.gl
      Memory.Inner.perform { refuses := some .endChunk }
    out.state.calls = [.beginChunk, .beginChunk, .linkProgram, .endChunk, .endChunk] ∧
      out.events = List.replicate 2
        (.scopeFlushFailed (Memory.Failure.refused .endChunk).message) :=
  ⟨rfl, rfl⟩

end GlBridge
