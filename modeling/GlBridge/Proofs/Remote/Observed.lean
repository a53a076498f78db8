import GlBridge.Proofs.Remote.Lift

/-!
# Transports under observation

`Transport.observed` is a transport that keeps a record of how it was used: every message it was
handed, with what came of it (`Exchange`). Observation changes nothing
(`Transport.observed_matches`), so what is found out about an observed context is true of
the plain one.
-/

namespace GlBridge

/-- One use of a transport: what it was handed and what came of it. -/
inductive Exchange where
  | send (sent : Sent) (result : Except RemoteError Unit)
  | request (sent : Sent) (result : Except RemoteError Reply)

namespace Exchange

/-- The message that was handed over, with its buffers. -/
def sent : Exchange → Sent
  | .send s _ => s
  | .request s _ => s

/-- The reply that was received, if any. -/
def reply? : Exchange → Option Reply
  | .request _ (.ok reply) => some reply
  | _ => none

end Exchange

/-- The state of a transport under observation. -/
structure Observed (σ : Type) where
  inner : σ
  /-- the uses so far, in order -/
  exchanges : List Exchange := []

variable {σ : Type}

namespace Transport

/-- The same transport, with a record of how it was used. -/
def observed (tr : Transport σ) : Transport (Observed σ) where
  send m bs o :=
    let (result, inner) := tr.send m bs o.inner
    (result, ⟨inner, o.exchanges ++ [.send ⟨m, bs⟩ result]⟩)
  request m bs o :=
    let (result, inner) := tr.request m bs o.inner
    (result, ⟨inner, o.exchanges ++ [.request ⟨m, bs⟩ result]⟩)

/-- What was sent is recorded with what came of it. -/
@[simp] theorem observed_send (tr : Transport σ) (m : Message) (bs : List Bytes)
    (o : Observed σ) :
    tr.observed.send m bs o =
      ((tr.send m bs o.inner).1, ⟨(tr.send m bs o.inner).2,
        o.exchanges ++ [.send ⟨m, bs⟩ (tr.send m bs o.inner).1]⟩) := rfl

/-- A request is recorded with its reply, or with the failure in its place. -/
@[simp] theorem observed_request (tr : Transport σ) (m : Message) (bs : List Bytes)
    (o : Observed σ) :
    tr.observed.request m bs o =
      ((tr.request m bs o.inner).1, ⟨(tr.request m bs o.inner).2,
        o.exchanges ++ [.request ⟨m, bs⟩ (tr.request m bs o.inner).1]⟩) := rfl

/-- **Observation changes nothing.** -/
theorem observed_matches (tr : Transport σ) :
    Transport.Matches (fun _ => True) (fun o t => o.inner = t) tr.observed tr where
  send m bs o t _ := ⟨trivial, by rintro rfl; exact ⟨rfl, rfl⟩⟩
  request m bs o t _ := ⟨trivial, by rintro rfl; exact ⟨rfl, rfl⟩⟩

end Transport

namespace Recording

variable {ρ : Type} (answer : Message → ρ → Reply × ρ) (m : Message) (bs : List Bytes)
  (r : Recording ρ)

@[simp] theorem transport_send : (transport answer).send m bs r = (.ok (), r.record m bs) := rfl

@[simp] theorem transport_request :
    (transport answer).request m bs r = (.ok (answer m r.responder).1,
      { r.record m bs with responder := (answer m r.responder).2 }) := rfl

end Recording

/-! ### Sessions -/

/-- Carries out operations one after the other, whether they succeed or not. -/
def Operation.session (tr : Transport σ) (operations : List Operation) (c : Context σ) :
    Session (Context σ) RemoteError Answer :=
  Action.session (operations.map (Operation.perform tr)) c

namespace Context

/-- The context without the observation. -/
def unobserved (c : Context (Observed σ)) : Context σ := c.withTransport c.transport.inner

/-- A context of which nothing was observed yet. -/
def underObservation (c : Context σ) : Context (Observed σ) :=
  c.withTransport ⟨c.transport, []⟩

end Context

/-- How an observed context corresponds to the plain one. -/
abbrev Context.observing : Correspondence (Context (Observed σ)) (Context σ) :=
  lifted (fun _ => True) fun o t => o.inner = t

/-- A session that is observed comes out as it would have. -/
theorem Context.session_observed {ι ε α : Type} {x : ι → Action (Context (Observed σ)) ε α}
    {y : ι → Action (Context σ) ε α} (h : ∀ i, observing.Matches (x i) (y i)) (is : List ι)
    (c : Context (Observed σ)) :
    (Action.session (is.map x) c).results = (Action.session (is.map y) c.unobserved).results ∧
      (Action.session (is.map y) c.unobserved).state =
        (Action.session (is.map x) c).state.unobserved := by
  obtain ⟨-, hagree⟩ := Correspondence.session_agree (s := c) (t := c.unobserved)
    (fun i (_ : i ∈ is) => h i) 0 trivial
  -- the state of the plain transport is the one inside the observed one
  obtain ⟨hresults, t, ht, hstate⟩ := hagree ⟨c.transport.inner, rfl, rfl⟩
  refine ⟨hresults, ?_⟩
  rw [hstate, ← ht]
  rfl

/-- Operations come out as they would have without observation. -/
theorem Operation.session_observed (tr : Transport σ) (operations : List Operation)
    (c : Context (Observed σ)) :
    (Operation.session tr.observed operations c).results =
        (Operation.session tr operations c.unobserved).results ∧
      (Operation.session tr operations c.unobserved).state =
        (Operation.session tr.observed operations c).state.unobserved :=
  Context.session_observed tr.observed_matches.operation operations c

/-- Steps come out as they would have without observation. -/
theorem Step.session_observed (tr : Transport σ) (steps : List Step)
    (c : Context (Observed σ)) :
    (Step.session tr.observed steps c).results = (Step.session tr steps c.unobserved).results ∧
      (Step.session tr steps c.unobserved).state =
        (Step.session tr.observed steps c).state.unobserved :=
  Context.session_observed tr.observed_matches.step steps c

/-- A session that is observed reports what it would have. -/
theorem Step.events_observed (tr : Transport σ) (steps : List Step) (c : Context (Observed σ)) :
    (Step.session tr.observed steps c).events = (Step.session tr steps c.unobserved).events := by
  -- all events are shown, so agreement in what is shown is agreement in all
  obtain ⟨-, hagree⟩ := Correspondence.session_matches (s := c) (t := c.unobserved)
    (fun s (_ : s ∈ steps) => tr.observed_matches.step s) 0 trivial
  exact (hagree ⟨c.transport.inner, rfl, rfl⟩).events_eq fun _ => rfl

end GlBridge
