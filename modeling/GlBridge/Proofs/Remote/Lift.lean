import GlBridge.Proofs.Remote.Parts

/-!
# Contexts over corresponding transports

A context uses its transport in two places only, so two transports that answer alike make two
contexts that behave alike. `Transport.Matches` says what it is for transports to answer
alike, up to a relation between their states, and `Transport.Matches.lift` carries it over to
everything that is done with a context: the two contexts then agree in all they hold
(`Context.lifted`).
-/

namespace GlBridge

variable {σ τ : Type}

/-- The two transports answer alike and keep a relation between their states, as far as the
first one ends in an admitted state. -/
structure Transport.Matches (admits : σ → Prop) (relates : σ → τ → Prop) (tr : Transport σ)
    (tr' : Transport τ) : Prop where
  send : ∀ m bs s t, admits (tr.send m bs s).2 → admits s ∧ (relates s t →
    (tr.send m bs s).1 = (tr'.send m bs t).1 ∧
      relates (tr.send m bs s).2 (tr'.send m bs t).2)
  request : ∀ m bs s t, admits (tr.request m bs s).2 → admits s ∧ (relates s t →
    (tr.request m bs s).1 = (tr'.request m bs t).1 ∧
      relates (tr.request m bs s).2 (tr'.request m bs t).2)

namespace Context

/-- Contexts that hold the same over corresponding transports. -/
def lifted (admits : σ → Prop) (relates : σ → τ → Prop) :
    Correspondence (Context σ) (Context τ) where
  relates _ c c' := ∃ t, relates c.transport t ∧ c' = c.withTransport t
  admits c := admits c.transport

end Context

namespace Transport.Matches

variable {admits : σ → Prop} {relates : σ → τ → Prop} {tr : Transport σ} {tr' : Transport τ}

/-- The relation between the contexts does not mention the level. -/
theorem lifted_flat : (Context.lifted admits relates).Flat := fun _ _ _ _ h => h

/-- Reporting touches neither of the two contexts. -/
theorem traced (e : Event) :
    (Context.lifted admits relates).Matches (Context.traced e) (Context.traced e) := by
  intro level c c' hadm
  rw [Context.traced_apply] at hadm ⊢
  refine ⟨hadm, ?_⟩
  rintro ⟨t, hrel, rfl⟩
  rw [Context.traced_apply]
  exact ⟨rfl, rfl, t, hrel, rfl⟩

/-- A change of a context that does not concern its transport. -/
theorem modify {f : Context σ → Context σ} {g : Context τ → Context τ}
    (h : ∀ c t, g (c.withTransport t) = (f c).withTransport t)
    (ht : ∀ c, (f c).transport = c.transport) :
    (Context.lifted admits relates).Matches (Action.modify f : Context.Remote σ Unit)
      (Action.modify g) := by
  refine Correspondence.matches_modify ?_ ?_
  · -- the transport is the same as before, so it was admitted before
    intro c hadm
    change admits (f c).transport at hadm
    rwa [ht c] at hadm
  · rintro level c c' ⟨t, hrel, rfl⟩
    exact ⟨t, (ht c).symm ▸ hrel, h c t⟩

/-- The contexts send alike, since their transports do. -/
theorem sendMatches (h : Transport.Matches admits relates tr tr') (m : Message) (bs : List Bytes) :
    (Context.lifted admits relates).Matches (Context.send tr m bs) (Context.send tr' m bs) := by
  intro level c c' hadm
  obtain ⟨hs, hagree⟩ := h.send m bs c.transport c'.transport hadm
  refine ⟨hs, ?_⟩
  rintro ⟨t, hrel, rfl⟩
  obtain ⟨hresult, hnext⟩ := hagree hrel
  exact ⟨hresult, rfl, _, hnext, rfl⟩

/-- The contexts make requests alike, since their transports answer alike. -/
theorem requestMatches (h : Transport.Matches admits relates tr tr') (m : Message)
    (bs : List Bytes) :
    (Context.lifted admits relates).Matches (Context.request tr m bs)
      (Context.request tr' m bs) := by
  intro level c c' hadm
  obtain ⟨hs, hagree⟩ := h.request m bs c.transport c'.transport hadm
  refine ⟨hs, ?_⟩
  rintro ⟨t, hrel, rfl⟩
  obtain ⟨hresult, hnext⟩ := hagree hrel
  exact ⟨hresult, rfl, _, hnext, rfl⟩

/-- The contexts hold the same, and so they take the same from their queues. -/
theorem takePending :
    (Context.lifted admits relates).Matches (Context.takePending : Context.Remote σ _)
      Context.takePending := by
  refine fun level c c' hadm => ⟨hadm, ?_⟩
  rintro ⟨t, hrel, rfl⟩
  exact ⟨rfl, rfl, t, hrel, rfl⟩

/-- The parts of the contexts match: they hold the same, and their transports answer alike. -/
theorem parts (h : Transport.Matches admits relates tr tr') :
    Context.Parts (Context.lifted admits relates) tr tr' where
  flat := lifted_flat
  pending := by rintro level c c' ⟨t, -, rfl⟩; rfl
  depth := by rintro level c c' ⟨t, -, rfl⟩; rfl
  target := by rintro level c c' ⟨t, -, rfl⟩; rfl
  queue _ := modify (fun _ _ => rfl) fun _ => rfl
  stow _ := modify (fun _ _ => rfl) fun _ => rfl
  store _ := modify (fun _ _ => rfl) fun _ => rfl
  setDepth _ := modify (fun _ _ => rfl) fun _ => rfl
  takePending := takePending
  traced e _ := traced e
  send := h.sendMatches
  request := h.requestMatches

/-- **Contexts over corresponding transports match.** -/
theorem lift (h : Transport.Matches admits relates tr tr') :
    Context.Matches (Context.lifted admits relates) tr tr' := h.parts.primitives

/-- Everything done with the one context comes out as with the other. -/
theorem step (h : Transport.Matches admits relates tr tr') (s : Step) :
    (Context.lifted admits relates).Matches (s.perform tr) (s.perform tr') :=
  h.lift.step s fun _ => lifted_flat

/-- Operations come out alike over the two transports. -/
theorem operation (h : Transport.Matches admits relates tr tr') (o : Operation) :
    (Context.lifted admits relates).Matches (o.perform tr) (o.perform tr') :=
  h.lift.operation o fun _ => lifted_flat

end Transport.Matches

/-- **An invariant of the transport alone** holds after any steps of a context over it. -/
theorem Step.session_keeps_transport {tr : Transport σ} {P : σ → Prop}
    (hsend : ∀ m bs s, P s → P (tr.send m bs s).2)
    (hrequest : ∀ m bs s, P s → P (tr.request m bs s).2) (steps : List Step) {c : Context σ}
    (h : P c.transport) : P (Step.session tr steps c).state.transport := by
  -- the transport against itself, as on the diagonal
  have hself : Transport.Matches (fun _ => True) (fun s t => s = t ∧ P s) tr tr :=
    { send := fun m bs s t _ => ⟨trivial, by rintro ⟨rfl, hs⟩; exact ⟨rfl, rfl, hsend m bs s hs⟩⟩
      request := fun m bs s t _ =>
        ⟨trivial, by rintro ⟨rfl, hs⟩; exact ⟨rfl, rfl, hrequest m bs s hs⟩⟩ }
  -- the two runs are the same, and what relates them at the end includes the invariant
  obtain ⟨-, hagree⟩ := Correspondence.session_matches (s := c) (t := c)
    (fun s (_ : s ∈ steps) => hself.step s) 0 trivial
  obtain ⟨t, ⟨-, ht⟩, -⟩ := (hagree ⟨c.transport, ⟨rfl, h⟩, rfl⟩).state
  exact ht

end GlBridge
