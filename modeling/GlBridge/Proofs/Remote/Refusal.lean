import GlBridge.Proofs.Remote.Course
import GlBridge.Proofs.Remote.Observed
import GlBridge.Remote.Lines

/-!
# Refused calls leave no trace

Two operations pass on a text of the caller's: the one that hands over a shader's source, and the
one that asks for the location of a uniform. A text that the executor would take for a reference
is refused before anything else is done, so that the context cannot tell a refused call from none.
Main statement: `refusal_is_atomic`.

Along a run, refused calls are written as additional steps: a run over `Step ⊕ Refused` has the
steps of a program on the left and, anywhere between them, refused calls on the right. What the
executor sees is the restriction to the left (`Refused.session_whole`).

A refusal is told apart from other failures by its error. This takes a transport that does not
itself fail with an error of this kind (`Transport.IsNeutral`), as neither of the two here does.
-/

namespace GlBridge

variable {σ : Type}

/-! ### Refused calls -/

/-- The text begins as references to objects or to buffers do. -/
def BeginsAsReference (text : String) : Prop :=
  "key".toList <+: text.toList ∨ "buffer".toList <+: text.toList

/-- What is checked is how the text begins. -/
theorem isReference_iff {text : String} : isReference text = true ↔ BeginsAsReference text := by
  unfold isReference Text.startsWith handleLead bufferLead BeginsAsReference
  rw [Bool.or_eq_true, List.isPrefixOf_iff_prefix, List.isPrefixOf_iff_prefix]

theorem isReference_eq_false {text : String} (h : ¬ BeginsAsReference text) :
    isReference text = false :=
  Bool.eq_false_iff.2 fun href => h (isReference_iff.1 href)

/-- The two calls that pass on a text of the caller's. -/
inductive Worded where
  | source (shader : Handle)
  | location (program : Handle)

namespace Worded

/-- The call with a given text. -/
def operation : Worded → String → Operation
  | .source shader, text => .shaderSource shader text
  | .location program, text => .getUniformLocation program text

/-- With such a text either of the two calls is refused. -/
theorem primitive_of_reference (w : Worded) {text : String} (h : BeginsAsReference text) :
    (w.operation text).primitive? = .error (.reference text) := by
  have hreference : isReference text = true := isReference_iff.2 h
  cases w with
  | source shader => exact (Operation.primitive_shaderSource shader text).trans (if_pos hreference)
  | location program =>
    exact (Operation.primitive_getUniformLocation program text).trans (if_pos hreference)

end Worded

/-- A call with a text for which it is refused. -/
structure Refused where
  call : Worded
  text : String
  begins : BeginsAsReference text

namespace Refused

def operation (r : Refused) : Operation := r.call.operation r.text

def step (r : Refused) : Step := .operation r.operation

/-- What a refused call fails with. -/
def error (r : Refused) : RemoteError := .protocol (.reference r.text)

/-- **A refused call does nothing.** -/
theorem perform_operation (r : Refused) (tr : Transport σ) (c : Context σ) :
    r.operation.perform tr c = ⟨.error r.error, c, []⟩ :=
  Operation.perform_of_error tr (r.call.primitive_of_reference r.begins) c

/-- A refused call does nothing as a step either. -/
theorem perform_step (r : Refused) (tr : Transport σ) (c : Context σ) :
    r.step.perform tr c = ⟨.error (.remote r.error), c, []⟩ := by
  -- the step ends with the operation, since this fails
  have hfail : ((r.operation.perform tr).mapError StepError.remote c).result =
      .error (.remote r.error) := by
    rw [Action.mapError_apply, r.perform_operation]
    rfl
  refine (Action.bind_of_error hfail).trans ?_
  rw [Action.mapError_apply, r.perform_operation]

/-- A program that goes on after a refused call goes on as if the call had not been made. -/
theorem attempt_bind {ε α : Type} (r : Refused) (tr : Transport σ)
    (rest : Action (Context σ) ε α) :
    ((r.operation.perform tr).attempt >>= fun _ => rest) = rest := by
  funext c
  rw [Action.attempt_bind_apply, r.perform_operation]
  rfl

end Refused

/-! ### Runs with refused calls among their steps -/

namespace Refused

/-- The run with the refused calls. -/
def whole (run : List (Step ⊕ Refused)) : List Step := run.map (Sum.elim id step)

/-- The run without them. -/
def kept (run : List (Step ⊕ Refused)) : List Step := run.filterMap Sum.getLeft?

/-- Of the results of the whole run, those of the steps that are kept. -/
def keptResults {α : Type} (run : List (Step ⊕ Refused)) (results : List α) : List α :=
  (run.zip results).filterMap fun p => p.1.getLeft?.map fun _ => p.2

/-- **Refused calls leave no trace in a run.** The steps between them leave the same state, report
the same events and come to the same results. -/
theorem session_whole (tr : Transport σ) (run : List (Step ⊕ Refused)) (c : Context σ) :
    (Step.session tr (whole run) c).state = (Step.session tr (kept run) c).state ∧
      (Step.session tr (whole run) c).events = (Step.session tr (kept run) c).events ∧
      keptResults run (Step.session tr (whole run) c).results =
        (Step.session tr (kept run) c).results := by
  induction run generalizing c with
  | nil => exact ⟨rfl, rfl, rfl⟩
  | cons item rest ih =>
    cases item with
    | inl s =>
      -- a step takes both runs to the same state
      obtain ⟨hstate, hevents, hresults⟩ := ih (s.perform tr c).state
      exact ⟨hstate, congrArg ((s.perform tr c).events ++ ·) hevents,
        congrArg ((s.perform tr c).result :: ·) hresults⟩
    | inr r =>
      -- a refused call takes the whole run nowhere
      have hsession : Step.session tr (whole (.inr r :: rest)) c =
          ⟨.error (.remote r.error) :: (Step.session tr (whole rest) c).results,
            (Step.session tr (whole rest) c).state, (Step.session tr (whole rest) c).events⟩ := by
        show Action.session (r.step.perform tr :: (whole rest).map (Step.perform tr)) c = _
        rw [Action.session_cons, r.perform_step]
        rfl
      rw [hsession]
      exact ih c

/-- Each refused call fails, and for its text. -/
theorem results_whole {tr : Transport σ} {run : List (Step ⊕ Refused)} (c : Context σ)
    {r : Refused} {result : Except StepError StepAnswer}
    (h : (Sum.inr r, result) ∈ run.zip (Step.session tr (whole run) c).results) :
    result = .error (.remote r.error) := by
  induction run generalizing c with
  | nil => cases h
  | cons item rest ih =>
    rcases List.mem_cons.1 h with heq | hrest
    · obtain ⟨rfl, rfl⟩ := Prod.mk.inj heq
      exact congrArg Outcome.result (r.perform_step tr c)
    · exact ih _ hrest

end Refused

/-! ### Calls that are not refused -/

/-- The transport never fails with the error that stands for a refusal. -/
structure Transport.IsNeutral (tr : Transport σ) : Prop where
  send : ∀ m bs s text, (tr.send m bs s).1 ≠ .error (.protocol (.reference text))
  request : ∀ m bs s text, (tr.request m bs s).1 ≠ .error (.protocol (.reference text))

/-- A transport that records never fails. -/
theorem Recording.isNeutral {ρ : Type} (answer : Message → ρ → Reply × ρ) :
    (Recording.transport answer).IsNeutral := by
  constructor
  · intro m bs r text heq
    cases heq
  · intro m bs r text heq
    cases heq

namespace Lines

/-- A frame that cannot be written is no refusal. -/
theorem writeFrame_ne_refusal (t : Lines) (m : Message) (buffers : List Bytes) (text : String) :
    (t.writeFrame m buffers).1 ≠ .error (.protocol (.reference text)) := by
  unfold writeFrame
  dsimp only
  -- whatever a write fails with, it is a failure of the stream
  split
  · simp
  · split
    · simp
    · split <;> simp

/-- A reply that cannot be read is no refusal. -/
theorem readReply_ne_refusal (t : Lines) (text : String) :
    t.readReply.1 ≠ .error (.protocol (.reference text)) := by
  unfold readReply
  match t.source.readLine with
  | (.error _, _) => simp
  | (.ok none, _) => simp
  | (.ok (some line), _) =>
    dsimp only
    unfold parseLine
    split
    next => simp
    next => split <;> simp

/-- The transport over lines fails for reasons of its stream only. -/
theorem isNeutral : transport.IsNeutral where
  send m bs t text := writeFrame_ne_refusal t m bs text
  request m bs t text := by
    show (request m bs t).1 ≠ _
    unfold request
    match h : t.writeFrame m bs with
    | (.error e, next) =>
      -- the request ends where the write failed
      have hwrite := writeFrame_ne_refusal t m bs text
      rw [h] at hwrite
      intro heq
      exact hwrite (congrArg Except.error (Except.error.inj heq))
    | (.ok _, next) => exact readReply_ne_refusal next text

end Lines

namespace Context

variable {tr : Transport σ} {op : String} {args : List Value}

/-- A call for its effect fails as its transport does, if at all. -/
theorem exec_ne_refusal (h : tr.IsNeutral) (c : Context σ) (text : String) :
    (exec tr op args c).result ≠ .error (.protocol (.reference text)) := by
  by_cases hdepth : c.depth = 0
  · -- the outcome of sending the call is the result
    rw [exec_sends tr c op args hdepth]
    exact h.send _ _ _ text
  · rw [exec_of_inside tr c op args hdepth]
    exact nofun

/-- A query fails as its transport does, or for the kind of its reply. -/
theorem query_ne_refusal (h : tr.IsNeutral) (c : Context σ) (text : String) :
    (query tr op args c).result ≠ .error (.protocol (.reference text)) := by
  rw [query_apply]
  have hrequest := h.request (.query (c.pending ++ [.query op args])) c.buffers c.transport text
  cases hr : (tr.request (.query (c.pending ++ [.query op args])) c.buffers c.transport).1 with
  | error e =>
    rw [hr] at hrequest
    intro heq
    exact hrequest (congrArg Except.error (Except.error.inj heq))
  | ok reply => cases reply <;> exact nofun

/-- What is not a handle is not refused: the answer is at fault, and no text. -/
theorem checked_handle_ne_refusal (v : Value) (c : Context σ) (text : String) :
    ((checked (Handle.ofValue v) >>= fun handle => pure (some handle)) c).result ≠
      .error (.protocol (.reference text)) := by
  have hviolation : Handle.ofValue v ≠ .error (.reference text) := by
    unfold Handle.ofValue
    split
    · split
      · exact nofun
      · exact nofun
    · exact nofun
  match hv : Handle.ofValue v with
  | .error violation =>
    rw [hv] at hviolation
    intro heq
    cases heq
    exact hviolation rfl
  | .ok handle => exact nofun

/-- The question for a location is no refusal if its text is none, whatever is answered. -/
theorem location_ne_refusal (h : tr.IsNeutral) (c : Context σ) (program : Handle) {name : String}
    (hname : isReference name = false) (text : String) :
    (getUniformLocation tr program name c).result ≠ .error (.protocol (.reference text)) := by
  have hquery : (query tr "getUniformLocation" [program.argument, .string name] c).result ≠
      .error (.protocol (.reference text)) := query_ne_refusal h c text
  unfold getUniformLocation
  rw [Operation.checked_bind_of_ok (literal_of_plain hname)]
  cases hr : (query tr "getUniformLocation" [program.argument, .string name] c).result with
  | error e =>
    rw [hr] at hquery
    rw [Action.bind_of_error hr]
    exact fun heq => hquery (congrArg Except.error (Except.error.inj heq))
  | ok v =>
    rw [Action.bind_of_ok hr]
    -- null is no location, and anything else is to be a handle
    cases v.json with
    | null => exact nofun
    | _ => exact checked_handle_ne_refusal v _ text

/-- A call for its effect that fails was handed over. -/
theorem exchanges_of_exec_error {c : Context (Observed σ)} {e : RemoteError}
    (h : (exec tr.observed op args c).result = .error e) :
    (exec tr.observed op args c).state.transport.exchanges ≠ c.transport.exchanges := by
  by_cases hdepth : c.depth = 0
  · rw [exec_sends _ c op args hdepth]
    exact fun heq => List.cons_ne_nil _ _ (List.append_right_eq_self.1 heq)
  · rw [exec_of_inside _ c op args hdepth] at h
    cases h

/-- A call for a value always is. -/
theorem exchanges_query (c : Context (Observed σ)) :
    (query tr.observed op args c).state.transport.exchanges ≠ c.transport.exchanges := by
  rw [query_apply]
  exact fun heq => List.cons_ne_nil _ _ (List.append_right_eq_self.1 heq)

end Context

namespace Worded

variable {tr : Transport σ} {text : String}

/-- A source that is not refused is handed over in a call for its effect. -/
theorem perform_source (shader : Handle) (h : isReference text = false) (c : Context σ) :
    ((source shader).operation text).perform tr c =
      answering (fun _ => .done)
        (Context.exec tr "shaderSource" [shader.argument, .string text]) c := by
  show answering _ ((Context.gl tr).shaderSource shader text) c = _
  rw [answering_apply, answering_apply, Operation.shaderSource_of_plain tr shader h]

/-- **A call whose text is no reference does not fail for it.** -/
theorem perform_ne_refusal (w : Worded) (htr : tr.IsNeutral) (h : ¬ BeginsAsReference text)
    (c : Context σ) :
    ((w.operation text).perform tr c).result ≠ .error (.protocol (.reference text)) := by
  have hplain := isReference_eq_false h
  intro hfail
  cases w with
  | source shader =>
    rw [perform_source shader hplain] at hfail
    exact Context.exec_ne_refusal htr c text (answering_error.1 hfail)
  | location program =>
    exact Context.location_ne_refusal htr c program hplain text (answering_error.1 hfail)

/-- A call that is not refused but fails was handed to the transport. -/
theorem exchanges_of_error (w : Worded) (h : ¬ BeginsAsReference text) {c : Context (Observed σ)}
    {e : RemoteError} (hfail : ((w.operation text).perform tr.observed c).result = .error e) :
    ((w.operation text).perform tr.observed c).state.transport.exchanges ≠
      c.transport.exchanges := by
  have hplain := isReference_eq_false h
  cases w with
  | source shader =>
    rw [perform_source shader hplain] at hfail ⊢
    rw [Context.state_answering]
    exact Context.exchanges_of_exec_error (answering_error.1 hfail)
  | location program =>
    have hstate : (((location program).operation text).perform tr.observed c).state =
        (Context.query tr.observed "getUniformLocation" [program.argument, .string text] c).state :=
      (Context.state_answering _ _ c).trans
        (Operation.location_sameEffect tr.observed program (literal_of_plain hplain) c).1
    rw [hstate]
    exact Context.exchanges_query c

end Worded

/-! ### The main statement -/

/-- **Refusal is atomic.** In any context, a call with a text of the caller's fails for that text
and leaves nothing handed over if and only if the text begins as references do. Then it emits no
record and leaves the context as it was, so that refused calls among the steps of a run, in chunks
or not, change neither what is sent nor how the other steps come out; nor do they change a program
that goes on after them, inside a scope or outside. Over a transport that does not fail like this
by itself, which holds of the recording one and of the one over lines, the error alone tells that
a call was refused. -/
theorem refusal_is_atomic (tr : Transport σ) (c : Context σ) :
    (∀ (call : Worded) (text : String),
      let refusal : Except RemoteError Answer := .error (.protocol (.reference text))
      let watched := (call.operation text).perform tr.observed c.underObservation
      (BeginsAsReference text ↔
        watched.result = refusal ∧ watched.state.transport.exchanges = []) ∧
      (BeginsAsReference text → (call.operation text).perform tr c = ⟨refusal, c, []⟩) ∧
      (tr.IsNeutral →
        (((call.operation text).perform tr c).result = refusal ↔ BeginsAsReference text))) ∧
    (∀ run : List (Step ⊕ Refused),
      let whole := Step.session tr (Refused.whole run) c
      let plain := Step.session tr (Refused.kept run) c
      let watched := fun steps => (Step.session tr.observed steps c.underObservation).state
      (watched (Refused.whole run)).transport.exchanges =
        (watched (Refused.kept run)).transport.exchanges ∧
      whole.state = plain.state ∧ whole.events = plain.events ∧
      Refused.keptResults run whole.results = plain.results ∧
      ∀ r result, (Sum.inr r, result) ∈ run.zip whole.results →
        result = .error (.remote r.error)) ∧
    (∀ (ε α : Type) (r : Refused) (rest : Action (Context σ) ε α),
      ((r.operation.perform tr).attempt >>= fun _ => rest) c = rest c) ∧
    (∀ (ρ : Type) (answer : Message → ρ → Reply × ρ), (Recording.transport answer).IsNeutral) ∧
    Lines.transport.IsNeutral := by
  refine ⟨fun call text => ⟨⟨fun h => ?_, fun ⟨hfail, hexchanges⟩ => ?_⟩, fun h => ?_,
    fun htr => ⟨fun hfail => ?_, fun h => ?_⟩⟩, fun run => ?_,
    fun ε α r rest => congrFun (r.attempt_bind tr rest) c, fun ρ => Recording.isNeutral,
    Lines.isNeutral⟩
  · have hperform := (Refused.mk call text h).perform_operation tr.observed c.underObservation
    exact ⟨congrArg Outcome.result hperform,
      congrArg (fun out => out.state.transport.exchanges) hperform⟩
  · -- a call that is not refused fails only after something was handed over
    refine Classical.byContradiction fun hplain => ?_
    exact call.exchanges_of_error hplain hfail hexchanges
  · exact (Refused.mk call text h).perform_operation tr c
  · refine Classical.byContradiction fun hplain => ?_
    exact call.perform_ne_refusal htr hplain c hfail
  · exact congrArg Outcome.result ((Refused.mk call text h).perform_operation tr c)
  · -- what is handed over is a part of the state, once the transport is observed
    have hwatched := Refused.session_whole tr.observed run c.underObservation
    obtain ⟨hstate, hevents, hresults⟩ := Refused.session_whole tr run c
    have hexchanges := congrArg (fun d : Context (Observed σ) => d.transport.exchanges) hwatched.1
    exact ⟨hexchanges, hstate, hevents, hresults, fun r result => Refused.results_whole c⟩

end GlBridge
