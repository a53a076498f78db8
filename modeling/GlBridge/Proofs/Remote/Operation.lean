import GlBridge.Proofs.Action.Session
import GlBridge.Remote.Context

/-!
# Operations of a context

`Operation` lists everything that can be asked of a `Context`, with its arguments, and
`Operation.perform` does it. A list of operations is thus any use that can be made of a
context.

Most of them differ in nothing but the call they make. `Primitive` lists the nine that touch the
queue or the transport, and `Operation.primitive?` says for each operation to which of them it
comes down, or that it is refused because an argument would be taken for a reference. The two
theorems `perform_of_ok` and `perform_of_error` hold this against what operations do:
beyond its primitive, an operation changes nothing and reports nothing.
-/

namespace GlBridge

/-- A text that would be taken for a reference is refused. -/
theorem literal_of_reference {s : String} (h : isReference s = true) :
    literal s = .error (.reference s) :=
  if_pos h

theorem literal_of_plain {s : String} (h : isReference s = false) :
    literal s = .ok (.string s) := by
  unfold literal
  rw [h]
  rfl

/-- What an operation delivers. -/
inductive Answer where
  | done
  | value (v : Value)
  | handle (h : Handle)
  | location (h : Option Handle)
  | status (b : Bool)
  | text (s : String)
  | constants (d : Dictionary Double)
  | methods (names : List String)

/-- The operations that touch the queue or the transport. -/
inductive Primitive where
  | exec (op : String) (args : List Value)
  | execWithBuffer (op : String) (args : List Value) (buffer : Bytes)
  | query (op : String) (args : List Value)
  | flush
  | fetchConstants
  | fetchMethods
  | orbitView (args : List Value) (render : List Instruction)
  | beginChunk
  | endChunk

/-- The operations of a context. -/
inductive Operation where
  | primitive (p : Primitive)
  | useProgram (program : Handle)
  | getUniformLocation (program : Handle) (name : String)
  | uniformMatrix (location : Handle) (m : Mat4 Single)
  | createShader (stage : Stage)
  | createProgram
  | shaderSource (shader : Handle) (source : String)
  | compileShader (shader : Handle)
  | attachShader (program shader : Handle)
  | linkProgram (program : Handle)
  | shaderParameter (shader : Handle) (name : UInt32)
  | programParameter (program : Handle) (name : UInt32)
  | shaderInfoLog (shader : Handle)
  | programInfoLog (program : Handle)
  | deleteShader (shader : Handle)

variable {σ : Type}

/-- Delivers what an action delivers as an answer. -/
def answering {α : Type} (f : α → Answer) (x : Context.Remote σ α) : Context.Remote σ Answer := do
  return f (← x)

namespace Primitive

/-- Carries out a primitive. -/
def perform (tr : Transport σ) : Primitive → Context.Remote σ Answer
  | .exec op args => answering (fun _ => .done) (Context.exec tr op args)
  | .execWithBuffer op args buffer =>
    answering (fun _ => .done) (Context.execWithBuffer tr op args buffer)
  | .query op args => answering .value (Context.query tr op args)
  | .flush => answering (fun _ => .done) (Context.flush tr)
  | .fetchConstants => answering .constants (Context.fetchConstants tr)
  | .fetchMethods => answering .methods (Context.fetchMethods tr)
  | .orbitView args render => answering (fun _ => .done) (Context.orbitView tr args render)
  | .beginChunk => answering (fun _ => .done) (Action.modify Context.beginChunk)
  | .endChunk => answering (fun _ => .done) (Context.endChunk tr)

end Primitive

namespace Operation

/-- Carries out an operation. -/
def perform (tr : Transport σ) : Operation → Context.Remote σ Answer
  | .primitive p => p.perform tr
  | .useProgram program => answering (fun _ => .done) (Context.useProgram tr program)
  | .getUniformLocation program name =>
    answering .location (Context.getUniformLocation tr program name)
  | .uniformMatrix location m => answering (fun _ => .done) (Context.uniformMatrix tr location m)
  | .createShader stage => answering .handle ((Context.gl tr).createShader stage)
  | .createProgram => answering .handle (Context.gl tr).createProgram
  | .shaderSource shader source =>
    answering (fun _ => .done) ((Context.gl tr).shaderSource shader source)
  | .compileShader shader => answering (fun _ => .done) ((Context.gl tr).compileShader shader)
  | .attachShader program shader =>
    answering (fun _ => .done) ((Context.gl tr).attachShader program shader)
  | .linkProgram program => answering (fun _ => .done) ((Context.gl tr).linkProgram program)
  | .shaderParameter shader name =>
    answering .status ((Context.gl tr).shaderParameter shader name)
  | .programParameter program name =>
    answering .status ((Context.gl tr).programParameter program name)
  | .shaderInfoLog shader => answering .text ((Context.gl tr).shaderInfoLog shader)
  | .programInfoLog program => answering .text ((Context.gl tr).programInfoLog program)
  | .deleteShader shader => answering (fun _ => .done) ((Context.gl tr).deleteShader shader)

/-- The primitive to which an operation comes down, unless an argument is refused. -/
def primitive? : Operation → Except Violation Primitive
  | .primitive p => .ok p
  | .useProgram program => .ok (.exec "useProgram" [program.argument])
  | .getUniformLocation program name =>
    (literal name).map fun name => .query "getUniformLocation" [program.argument, name]
  | .uniformMatrix location m =>
    .ok (.execWithBuffer "uniformMatrix4fv"
      [location.argument, .bool false, ElementType.float32.argument] m.bytes)
  | .createShader stage => .ok (.query "createShader" [.word stage.glEnum])
  | .createProgram => .ok (.query "createProgram" [])
  | .shaderSource shader source =>
    (literal source).map fun source => .exec "shaderSource" [shader.argument, source]
  | .compileShader shader => .ok (.exec "compileShader" [shader.argument])
  | .attachShader program shader =>
    .ok (.exec "attachShader" [program.argument, shader.argument])
  | .linkProgram program => .ok (.exec "linkProgram" [program.argument])
  | .shaderParameter shader name =>
    .ok (.query "getShaderParameter" [shader.argument, .word name])
  | .programParameter program name =>
    .ok (.query "getProgramParameter" [program.argument, .word name])
  | .shaderInfoLog shader => .ok (.query "getShaderInfoLog" [shader.argument])
  | .programInfoLog program => .ok (.query "getProgramInfoLog" [program.argument])
  | .deleteShader shader => .ok (.exec "deleteShader" [shader.argument])

/-- A source is handed over as it is, unless it is refused. -/
theorem primitive_shaderSource (shader : Handle) (source : String) :
    (shaderSource shader source).primitive? =
      if isReference source then .error (.reference source)
      else .ok (.exec "shaderSource" [shader.argument, .string source]) := by
  cases h : isReference source with
  | true => rw [primitive?, literal_of_reference h]; rfl
  | false => rw [primitive?, literal_of_plain h]; rfl

/-- A location is asked for by the name as it is, unless it is refused. -/
theorem primitive_getUniformLocation (program : Handle) (name : String) :
    (getUniformLocation program name).primitive? =
      if isReference name then .error (.reference name)
      else .ok (.query "getUniformLocation" [program.argument, .string name]) := by
  cases h : isReference name with
  | true => rw [primitive?, literal_of_reference h]; rfl
  | false => rw [primitive?, literal_of_plain h]; rfl

/-- Where a source comes down to a primitive, it was not refused. -/
theorem shaderSource_of_ok {shader : Handle} {source : String} {p : Primitive}
    (h : (shaderSource shader source).primitive? = .ok p) :
    isReference source = false ∧ p = .exec "shaderSource" [shader.argument, .string source] := by
  rw [primitive_shaderSource] at h
  cases hsource : isReference source with
  | true => rw [hsource] at h; cases h
  | false => rw [hsource] at h; cases h; exact ⟨rfl, rfl⟩

/-- Where the question for a location comes down to a primitive, its name was not refused. -/
theorem getUniformLocation_of_ok {program : Handle} {name : String} {p : Primitive}
    (h : (getUniformLocation program name).primitive? = .ok p) :
    isReference name = false ∧
      p = .query "getUniformLocation" [program.argument, .string name] := by
  rw [primitive_getUniformLocation] at h
  cases hname : isReference name with
  | true => rw [hname] at h; cases h
  | false => rw [hname] at h; cases h; exact ⟨rfl, rfl⟩

/-! ### An operation is its primitive -/

/-- Two actions leave the same state and report the same events. -/
def SameEffect {α β : Type} (x : Context.Remote σ α) (y : Context.Remote σ β)
    (c : Context σ) : Prop :=
  (x c).state = (y c).state ∧ (x c).events = (y c).events

namespace SameEffect

variable {α β γ : Type} {x : Context.Remote σ α} {y : Context.Remote σ β}
  {z : Context.Remote σ γ} {c : Context σ}

theorem symm (h : SameEffect x y c) : SameEffect y x c := ⟨h.1.symm, h.2.symm⟩

theorem trans (h : SameEffect x y c) (h' : SameEffect y z c) : SameEffect x z c :=
  ⟨h.1.trans h'.1, h.2.trans h'.2⟩

/-- What only looks at a result has no effect. -/
theorem bind_quiet {f : α → Context.Remote σ β}
    (hf : ∀ a c, (f a c).state = c ∧ (f a c).events = []) : SameEffect (x >>= f) x c := by
  cases h : (x c).result with
  -- if the action fails, nothing looks at its result
  | error e => rw [SameEffect, Action.bind_of_error h]; exact ⟨rfl, rfl⟩
  | ok a =>
    rw [SameEffect, Action.bind_of_ok h, (hf a _).1, (hf a _).2, List.append_nil]
    exact ⟨rfl, rfl⟩

end SameEffect

/-- Making an answer of what an action delivers has no effect. -/
theorem answering_sameEffect {α : Type} (f : α → Answer) (x : Context.Remote σ α)
    (c : Context σ) : SameEffect (answering f x) x c :=
  SameEffect.bind_quiet fun _ _ => ⟨rfl, rfl⟩

/-- Taking an answer for something has no effect, whether or not it can be taken so. -/
theorem checked_sameEffect {α β : Type} (x : Context.Remote σ α) (r : α → Except Violation β)
    (c : Context σ) : SameEffect (x >>= fun a => Context.checked (r a)) x c :=
  SameEffect.bind_quiet fun _ _ => ⟨rfl, rfl⟩

/-- A refused text ends an operation before it has begun. -/
theorem checked_bind_of_error {α β : Type} {r : Except Violation α} {v : Violation}
    (h : r = .error v) (f : α → Context.Remote σ β) (c : Context σ) :
    (Context.checked r >>= f) c = ⟨.error (.protocol v), c, []⟩ := by
  subst h
  rfl

/-- A text that is not refused leaves the operation as it is. -/
theorem checked_bind_of_ok {α β : Type} {r : Except Violation α} {a : α}
    (h : r = .ok a) (f : α → Context.Remote σ β) (c : Context σ) :
    (Context.checked r >>= f) c = f a c := by
  subst h
  rfl

/-- A source that is not refused is handed over in a call for its effect. -/
theorem shaderSource_of_plain (tr : Transport σ) (shader : Handle) {source : String}
    (h : isReference source = false) (c : Context σ) :
    (Context.gl tr).shaderSource shader source c =
      Context.exec tr "shaderSource" [shader.argument, .string source] c :=
  checked_bind_of_ok (literal_of_plain h) _ c

/-- A query whose answer is taken for something is the query in its effect. -/
theorem query_sameEffect {α : Type} (tr : Transport σ) (f : α → Answer) (op : String)
    (args : List Value) (r : Value → Except Violation α) (c : Context σ) :
    SameEffect (answering f (Context.query tr op args >>= fun v => Context.checked (r v)))
      ((Primitive.query op args).perform tr) c :=
  (answering_sameEffect f _ c).trans
    ((checked_sameEffect _ r c).trans (answering_sameEffect .value _ c).symm)

/-- Looking at the answer to a query for a location changes nothing. -/
theorem location_sameEffect (tr : Transport σ) (program : Handle) {name : String} {text : Value}
    (h : literal name = .ok text) (c : Context σ) :
    SameEffect (Context.getUniformLocation tr program name)
      (Context.query tr "getUniformLocation" [program.argument, text]) c := by
  unfold SameEffect Context.getUniformLocation
  rw [checked_bind_of_ok h]
  refine SameEffect.bind_quiet fun v c => ?_
  -- no location is an answer like any other
  cases v.json with
  | null => exact ⟨rfl, rfl⟩
  | _ =>
    exact SameEffect.bind_quiet (x := Context.checked (Handle.ofValue v)) fun _ _ => ⟨rfl, rfl⟩

/-- **An operation has the effect of its primitive.** -/
theorem perform_of_ok (tr : Transport σ) {operation : Operation} {p : Primitive}
    (h : operation.primitive? = .ok p) (c : Context σ) :
    SameEffect (operation.perform tr) (p.perform tr) c := by
  cases operation with
  | primitive p' => cases h; exact ⟨rfl, rfl⟩
  -- a query, whose answer is taken for a handle, a status or a text
  | createShader stage => cases h; exact query_sameEffect tr _ _ _ _ c
  | createProgram => cases h; exact query_sameEffect tr _ _ _ _ c
  | shaderParameter shader name => cases h; exact query_sameEffect tr _ _ _ _ c
  | programParameter program name => cases h; exact query_sameEffect tr _ _ _ _ c
  | shaderInfoLog shader => cases h; exact query_sameEffect tr _ _ _ _ c
  | programInfoLog program => cases h; exact query_sameEffect tr _ _ _ _ c
  -- a text of the caller's, which was checked, since there is a primitive
  | getUniformLocation program name =>
    obtain ⟨hname, rfl⟩ := getUniformLocation_of_ok h
    exact (answering_sameEffect _ _ c).trans
      ((location_sameEffect tr program (literal_of_plain hname) c).trans
        (answering_sameEffect .value _ c).symm)
  | shaderSource shader source =>
    obtain ⟨hsource, rfl⟩ := shaderSource_of_ok h
    refine (answering_sameEffect _ _ c).trans (SameEffect.symm ?_)
    rw [SameEffect, shaderSource_of_plain tr shader hsource]
    exact answering_sameEffect (fun _ => .done) _ c
  -- every other operation is a call with arguments that need no check
  | _ => cases h; exact ⟨rfl, rfl⟩

theorem answering_of_error {α : Type} {f : α → Answer} {x : Context.Remote σ α} {c : Context σ}
    {e : RemoteError} (h : x c = ⟨.error e, c, []⟩) : answering f x c = ⟨.error e, c, []⟩ := by
  unfold answering
  rw [Action.bind_of_error (congrArg Outcome.result h), h]

/-- **A refused operation does nothing** and fails for the reason it is refused. -/
theorem perform_of_error (tr : Transport σ) {operation : Operation} {v : Violation}
    (h : operation.primitive? = .error v) (c : Context σ) :
    operation.perform tr c = ⟨.error (.protocol v), c, []⟩ := by
  cases operation with
  | getUniformLocation program name =>
    cases hl : literal name with
    | error w =>
      rw [primitive?, hl] at h
      cases h
      exact answering_of_error (checked_bind_of_error hl _ c)
    | ok text => rw [primitive?, hl] at h; cases h
  | shaderSource shader source =>
    cases hl : literal source with
    | error w =>
      rw [primitive?, hl] at h
      cases h
      exact answering_of_error (checked_bind_of_error hl _ c)
    | ok text => rw [primitive?, hl] at h; cases h
  -- no other operation is ever refused
  | _ => cases h

end Operation

/-- The state that a primitive leaves is that of the call behind it. -/
theorem Context.state_answering {α : Type} (f : α → Answer) (x : Context.Remote σ α)
    (c : Context σ) : (answering f x c).state = (x c).state :=
  (Operation.answering_sameEffect f x c).1

end GlBridge
