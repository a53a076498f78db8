import GlBridge.Proofs.Device.Conduct
import GlBridge.Proofs.Remote.Course

/-!
# The conduct of contexts

Whatever a step does to a context is done by primitives, and whatever it reports is reported by
them or is a remark of a builder or of the demonstration. So a conduct that governs the primitives
and lets remarks pass (`Context.Governed`) governs every step (`Context.Governed.step`).
-/

namespace GlBridge

variable {σ : Type}

namespace Context

variable {K : Conduct (Context σ)} {tr : Transport σ}

/-- A conduct looks at the state and at the events, not at the result. -/
theorem admits_of_sameEffect {α β : Type} {x : Remote σ α} {y : Remote σ β} {c : Context σ}
    (h : Operation.SameEffect x y c) (hy : K.Admits c (y c)) : K.Admits c (x c) := by
  unfold Conduct.Admits
  rw [h.1, h.2]
  exact hy

/-- An operation is governed as its primitive is; where it is refused it does nothing. -/
theorem governs_operation (h : ∀ p : Primitive, K.Governs (p.perform tr)) (o : Operation) :
    K.Governs (o.perform tr) := by
  intro c
  cases ho : o.primitive? with
  | error v =>
    -- a refused operation leaves the context at rest
    rw [Operation.perform_of_error tr ho]
    exact K.rest c
  | ok p => exact admits_of_sameEffect (Operation.perform_of_ok tr ho c) (h p c)

end Context

/-- The primitives are governed, and it is in order to report something in between. -/
structure Context.Governed (K : Conduct (Context σ)) (tr : Transport σ) : Prop where
  primitives : ∀ p : Primitive, K.Governs (p.perform tr)
  remarks : ∀ c e, e.isTrace = false → K.allows c [e] c

namespace Context.Governed

variable {K : Conduct (Context σ)} {tr : Transport σ}

/-- Operations are governed. -/
theorem operation (h : Governed K tr) (o : Operation) : K.Governs (o.perform tr) :=
  governs_operation h.primitives o

/-- What an operation makes an answer of is governed as the operation is. -/
theorem of_answering (h : Governed K tr) {α : Type} {o : Operation} {f : α → Answer}
    {x : Context.Remote σ α} (hx : o.perform tr = answering f x) : K.Governs x := by
  intro c
  have ho := h.operation o c
  rw [hx] at ho
  exact admits_of_sameEffect (Operation.answering_sameEffect f x c).symm ho

/-- The context is governed as a device. -/
theorem gl (h : Governed K tr) : (Context.gl tr).Governed K where
  calls call := h.of_answering (call.perform_operation tr)
  remarks := h.remarks

/-- The uploads of the demonstration are governed. -/
theorem uploadUniforms (h : Governed K tr) (program : Handle)
    (uniforms : List (String × Mat4 Single)) :
    K.Governs (Studio.uploadUniforms tr program uniforms) := by
  induction uniforms with
  | nil => exact Conduct.governs_pure _
  | cons u rest ih =>
    obtain ⟨name, m⟩ := u
    refine Conduct.Governs.bind ?_ fun _ => ih
    have hlocate : K.Governs (Context.getUniformLocation tr program name) :=
      h.of_answering (o := .getUniformLocation program name) rfl
    refine hlocate.bind fun location => ?_
    cases location with
    -- a uniform without a location is only remarked upon
    | none => exact h.gl.emit rfl
    | some location => exact h.of_answering (o := .uniformMatrix location m) rfl

/-- The demonstration is governed, its remark at the end included. -/
theorem demo (h : Governed K tr) (vertex fragment : String) :
    K.Governs (Studio.run tr vertex fragment) := by
  -- each stage may be the last one; whatever was done until then was in order
  refine ((h.gl.makeProgram vertex fragment).mapError _).bind fun linked => ?_
  refine ((h.gl.deleteShaders linked).mapError _).bind fun program => ?_
  have huse : K.Governs (Context.useProgram tr program) :=
    h.of_answering (o := .useProgram program) rfl
  refine (huse.mapError _).bind fun _ => ?_
  exact ((h.uploadUniforms program _).mapError _).bind fun _ => h.gl.emit rfl

/-- **Steps are governed.** -/
theorem step (h : Governed K tr) (s : Step) : K.Governs (s.perform tr) := by
  cases s with
  | operation o => exact ((h.operation o).mapError _).bind fun _ => Conduct.governs_pure _
  | makeShader source stage =>
    exact ((h.gl.makeShader source stage).mapError _).bind fun _ => Conduct.governs_pure _
  | makeProgram vertex fragment =>
    exact ((h.gl.makeProgram vertex fragment).mapError _).bind fun _ => Conduct.governs_pure _
  | demo vertex fragment =>
    exact ((h.demo vertex fragment).mapError _).bind fun _ => Conduct.governs_pure _

/-- **A use of a context is in order** from its beginning to its end. -/
theorem session (h : Governed K tr) (steps : List Step) (c : Context σ) :
    K.allows c (Step.session tr steps c).events (Step.session tr steps c).state :=
  Conduct.session_allowed (fun s _ => h.step s) c

end Context.Governed

end GlBridge
