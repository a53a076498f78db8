import GlBridge.Proofs.Device.Watched

/-!
# Scripts with nested scopes

A `Script` is what a caller writes between the beginning and the end of a chunk: calls one after
the other, and in between further scopes with scripts of their own. `Script.run` carries it out
on a device by `Gl.scope`. It stops at the first step that fails, and every scope that is open
then is closed on the way out.

What a run does to the device is a list of `Deed`s, and there are two ways to tell it.

* `Script.Course` follows the tree: one constructor for each way in which a step can go.
* `Script.Deed.Balanced` and `Script.failures` look at the list alone: beginnings and ends are
  nested, the first failure is the result, and any further one is a closing, which is only reported.

`Script.watch_proceeds` has both of a run on a watched device, whose record is the list.
-/

namespace GlBridge

universe u

/-- Calls and nested scopes, one after the other. -/
inductive Script (ι : Type u) : Type u where
  | done
  | call (i : ι) (rest : Script ι)
  | scope (body rest : Script ι)

/-- The report of a chunk that was closed on the way out, and closing it failed. -/
def Event.isDrop : Event → Bool
  | .scopeFlushFailed _ => true
  | _ => false

namespace Script

variable {ι : Type u} {σ τ α β ε Shader Program : Type}

/-! ### Deeds -/

/-- A deed of a script: a beginning of a chunk, a call, or an end of a chunk. -/
inductive Deed (ι : Type u) (α ε : Type) : Type u where
  | opened
  | called (i : ι) (result : Except ε α)
  | closed (result : Except ε Unit)

/-- The failure in a result, if it is one. -/
def failureOf? : Except ε β → Option ε
  | .ok _ => none
  | .error e => some e

namespace Deed

/-- The deed has this result and leads there. -/
def Does (gl : Gl σ Shader Program ε) (perform : ι → Action σ ε α) : Deed ι α ε → σ → σ → Prop
  | .opened, s, t => gl.beginChunk s = t
  | .called i r, s, t => (perform i s).result = r ∧ (perform i s).state = t
  | .closed r, s, t => (gl.endChunk s).result = r ∧ (gl.endChunk s).state = t

/-- The failure of a deed, if it is one. -/
def failure? : Deed ι α ε → Option ε
  | .opened => none
  | .called _ r => failureOf? r
  | .closed r => failureOf? r

/-- What is done in a scope, with its beginning and its end. -/
def inScope (ds : List (Deed ι α ε)) (closing : Except ε Unit) : List (Deed ι α ε) :=
  .opened :: (ds ++ [.closed closing])

/-- Every beginning has its end, and they are nested. -/
inductive Balanced : List (Deed ι α ε) → Prop
  | nil : Balanced []
  | called (i : ι) (result : Except ε α) {ds : List (Deed ι α ε)} (h : Balanced ds) :
    Balanced (.called i result :: ds)
  | scope {ds es : List (Deed ι α ε)} (closing : Except ε Unit) (h : Balanced ds)
    (hrest : Balanced es) : Balanced (inScope ds closing ++ es)

end Deed

/-- The failures among deeds, in order. -/
def failures (ds : List (Deed ι α ε)) : List ε := ds.filterMap Deed.failure?

/-- Failures of what is done in two parts. -/
theorem failures_append (ds es : List (Deed ι α ε)) :
    failures (ds ++ es) = failures ds ++ failures es := List.filterMap_append

/-- A call counts for its own failure, ... -/
theorem failures_called (i : ι) (r : Except ε α) :
    failures [Deed.called i r] = (failureOf? r).toList := by
  cases r <;> rfl

/-- ... and a scope for those inside and then for its closing. -/
theorem failures_inScope (ds : List (Deed ι α ε)) (closing : Except ε Unit) :
    failures (Deed.inScope ds closing) = failures ds ++ (failureOf? closing).toList := by
  have hclosed : failures [(.closed closing : Deed ι α ε)] = (failureOf? closing).toList := by
    cases closing <;> rfl
  show failures (ds ++ [.closed closing]) = _
  rw [failures_append, hclosed]

/-- **Nesting keeps the level**: if a beginning leads up, an end leads down and a call stays, then
balanced deeds stay. -/
theorem Deed.Balanced.keeps {does : Deed ι α ε → σ → σ → Prop} {P : Nat → σ → Prop}
    (hopened : ∀ n s t, does .opened s t → P n s → P (n + 1) t)
    (hcalled : ∀ i r n s t, does (.called i r) s t → P n s → P n t)
    (hclosed : ∀ r n s t, does (.closed r) s t → P (n + 1) s → P n t)
    {ds : List (Deed ι α ε)} (h : Balanced ds) {n : Nat} {s t : σ} (hpath : Path does ds s t)
    (hs : P n s) : P n t := by
  -- the level is arbitrary in the induction, for a body is one level further up
  induction h generalizing n s t with
  | nil =>
    obtain rfl : s = t := hpath
    exact hs
  | called i r h ih =>
    obtain ⟨m, hd, hrest⟩ := hpath
    exact ih hrest (hcalled i r n s m hd hs)
  | scope closing h hrest ih ihrest =>
    obtain ⟨after, hscope, hafter⟩ := hpath.split
    obtain ⟨inside, hopen, hbody⟩ := hscope
    obtain ⟨last, hinner, m, hclose, rfl⟩ := hbody.split
    have hinside : P (n + 1) inside := hopened n s inside hopen hs
    have hlast : P (n + 1) last := ih hinner hinside
    exact ihrest hafter (hclosed closing n last m hclose hlast)

/-! ### Courses -/

/-- Carries out a script. -/
def run (gl : Gl σ Shader Program ε) (perform : ι → Action σ ε α) : Script ι → Action σ ε Unit
  | .done => pure ()
  | .call i rest => do
    let _ ← perform i
    rest.run gl perform
  | .scope body rest => do
    gl.scope (body.run gl perform)
    rest.run gl perform

/-- The course of a script: what is done, and what comes of it. -/
inductive Course : Script ι → List (Deed ι α ε) → Except ε Unit → Prop
  /-- nothing is left to do -/
  | done : Course .done [] (.ok ())
  /-- a call that fails is the last thing that is done -/
  | callFailed (i : ι) (rest : Script ι) (e : ε) :
    Course (.call i rest) [.called i (.error e)] (.error e)
  /-- a call that succeeds is followed by the rest -/
  | call {i : ι} {rest : Script ι} {ds : List (Deed ι α ε)} {r : Except ε Unit} (a : α)
    (h : Course rest ds r) : Course (.call i rest) (.called i (.ok a) :: ds) r
  /-- a scope whose body fails fails for the body's reason, however it closes -/
  | bodyFailed {body : Script ι} (rest : Script ι) {ds : List (Deed ι α ε)} {e : ε}
    (closing : Except ε Unit) (h : Course body ds (.error e)) :
    Course (.scope body rest) (Deed.inScope ds closing) (.error e)
  /-- or else it fails if it cannot be closed -/
  | closingFailed {body : Script ι} (rest : Script ι) {ds : List (Deed ι α ε)} (e : ε)
    (h : Course body ds (.ok ())) :
    Course (.scope body rest) (Deed.inScope ds (.error e)) (.error e)
  /-- or else the rest is done behind it -/
  | scope {body rest : Script ι} {ds es : List (Deed ι α ε)} {r : Except ε Unit}
    (h : Course body ds (.ok ())) (hrest : Course rest es r) :
    Course (.scope body rest) (Deed.inScope ds (.ok ()) ++ es) r

/-- A course opens and closes chunks in pairs, wherever it ends. -/
theorem Course.balanced {script : Script ι} {ds : List (Deed ι α ε)} {r : Except ε Unit}
    (h : script.Course ds r) : Deed.Balanced ds := by
  induction h with
  | done => exact .nil
  | callFailed i rest e => exact .called i _ .nil
  | call a h ih => exact .called _ _ ih
  | bodyFailed rest closing h ih =>
    -- nothing is done behind the scope
    rw [← List.append_nil (Deed.inScope _ closing)]
    exact .scope closing ih .nil
  | closingFailed rest e h ih =>
    rw [← List.append_nil (Deed.inScope _ _)]
    exact .scope _ ih .nil
  | scope h hrest ih ihrest => exact .scope _ ih ihrest

/-! ### What deeds account for -/

variable (gl : Gl σ Shader Program ε) (perform : ι → Action σ ε α)

/-- What is done by calls and closings themselves reports no chunk that was dropped. -/
structure Quiet : Prop where
  /-- a call says nothing of dropped chunks -/
  calls : ∀ i s, (perform i s).events.filter Event.isDrop = []
  /-- neither does a closing, as long as its failure is passed on -/
  closing : ∀ s, (gl.endChunk s).events.filter Event.isDrop = []

/-- The deeds lead to where a run ended, the first failure among them is its result, and the others
are what it reported. -/
structure Accounts (s : σ) (ds : List (Deed ι α ε)) (out : Outcome σ ε β) : Prop where
  /-- the deeds lead there -/
  path : Path (Deed.Does gl perform) ds s out.state
  /-- the result is the first failure, if there is one -/
  first : failureOf? out.result = (failures ds).head?
  /-- the others were reported, in order -/
  others : out.events.filter Event.isDrop =
    (failures ds).tail.map fun e => .scopeFlushFailed (gl.describeError e)

variable {gl perform}

/-- Nothing is done and nothing fails. -/
theorem accounts_pure (b : β) (s : σ) :
    Accounts gl perform s [] ((pure b : Action σ ε β) s) :=
  ⟨rfl, rfl, rfl⟩

/-- A call accounts for its own failure. -/
theorem accounts_perform (hquiet : Quiet gl perform) (i : ι) (s : σ) :
    Accounts gl perform s [.called i (perform i s).result] (perform i s) := by
  refine ⟨⟨_, ⟨rfl, rfl⟩, rfl⟩, ?_, ?_⟩
  · rw [failures_called]
    cases (perform i s).result <;> rfl
  · rw [hquiet.calls, failures_called]
    cases (perform i s).result <;> rfl

variable {s : σ} {ds es : List (Deed ι α ε)} {x : Action σ ε β}

/-- A run that went well had no failure, ... -/
theorem Accounts.failures_of_ok {out : Outcome σ ε β} (h : Accounts gl perform s ds out) {b : β}
    (hr : out.result = .ok b) : failures ds = [] := by
  have hfirst := h.first
  rw [hr] at hfirst
  exact List.head?_eq_none_iff.1 hfirst.symm

/-- ... and one that failed had at least one. -/
theorem Accounts.failures_of_error {out : Outcome σ ε β} (h : Accounts gl perform s ds out) {e : ε}
    (hr : out.result = .error e) : ∃ es, failures ds = e :: es := by
  have hfirst := h.first
  rw [hr] at hfirst
  exact List.head?_eq_some_iff.1 hfirst.symm

/-- A failure is the last thing to account for. -/
theorem Accounts.bind_of_error (h : Accounts gl perform s ds (x s)) {e : ε}
    (hr : (x s).result = .error e) {γ : Type} (f : β → Action σ ε γ) :
    Accounts gl perform s ds ((x >>= f) s) := by
  have hfirst := h.first
  rw [hr] at hfirst
  -- the run is that of `x`, under another type of results
  rw [Action.bind_of_error hr]
  exact ⟨h.path, hfirst, h.others⟩

/-- Behind a success the accounts are put together. -/
theorem Accounts.bind_of_ok (h : Accounts gl perform s ds (x s)) {b : β}
    (hr : (x s).result = .ok b) {γ : Type} {f : β → Action σ ε γ}
    (hf : Accounts gl perform (x s).state es (f b (x s).state)) :
    Accounts gl perform s (ds ++ es) ((x >>= f) s) := by
  -- nothing failed so far, so what fails first fails in what follows
  have hnone := h.failures_of_ok hr
  have hothers := h.others
  rw [hnone] at hothers
  have hfailures : failures (ds ++ es) = failures es := by
    rw [failures_append, hnone, List.nil_append]
  rw [Action.bind_of_ok hr]
  refine ⟨h.path.append hf.path, ?_, ?_⟩
  · rw [hfailures]
    exact hf.first
  · rw [List.filter_append, hothers, hfailures]
    exact hf.others

/-- **A scope accounts for its closing.** After a body that succeeded its failure is the first,
and after one that failed it is one of the others. -/
theorem Accounts.scope (hquiet : Quiet gl perform)
    (h : Accounts gl perform (gl.beginChunk s) ds (x (gl.beginChunk s))) :
    Accounts gl perform s
      (Deed.inScope ds (gl.endChunk (x (gl.beginChunk s)).state).result) (gl.scope x s) := by
  have hpath : Path (Deed.Does gl perform)
      (Deed.inScope ds (gl.endChunk (x (gl.beginChunk s)).state).result) s
      (gl.endChunk (x (gl.beginChunk s)).state).state :=
    ⟨gl.beginChunk s, rfl, h.path.append ⟨_, ⟨rfl, rfl⟩, rfl⟩⟩
  have hclosing := hquiet.closing (x (gl.beginChunk s)).state
  have hothers := h.others
  cases hr : (x (gl.beginChunk s)).result with
  | ok b =>
    have hnone := h.failures_of_ok hr
    rw [hnone] at hothers
    rw [Gl.scope_of_ok gl hr]
    refine ⟨hpath, ?_, ?_⟩
    · rw [failures_inScope, hnone]
      cases (gl.endChunk (x (gl.beginChunk s)).state).result <;> rfl
    · rw [List.filter_append, hothers, hclosing, failures_inScope, hnone]
      cases (gl.endChunk (x (gl.beginChunk s)).state).result <;> rfl
  | error e =>
    obtain ⟨es, hsome⟩ := h.failures_of_error hr
    rw [hsome] at hothers
    rw [Gl.scope_of_error gl hr]
    refine ⟨hpath, ?_, ?_⟩
    · rw [failures_inScope, hsome]
      rfl
    · -- a failed closing is reported behind everything that the body reported
      have hdrop : (gl.dropEvents (gl.endChunk (x (gl.beginChunk s)).state).result).filter
          Event.isDrop = (failureOf? (gl.endChunk (x (gl.beginChunk s)).state).result).toList.map
            fun e => .scopeFlushFailed (gl.describeError e) := by
        cases (gl.endChunk (x (gl.beginChunk s)).state).result <;> rfl
      rw [List.filter_append, List.filter_append, hothers, hclosing, hdrop, failures_inScope,
        hsome, List.nil_append, ← List.map_append]
      rfl

/-! ### Runs -/

/-- **Every run takes the course of its script**, and its deeds account for it. -/
theorem run_course (hquiet : Quiet gl perform) (script : Script ι) (s : σ) :
    ∃ ds, Accounts gl perform s ds (script.run gl perform s) ∧
      script.Course ds (script.run gl perform s).result := by
  -- on the tree, in any state: a body begins behind the opening of its chunk, a rest behind what
  -- was done before it
  induction script generalizing s with
  | done => exact ⟨[], accounts_pure () s, .done⟩
  | call i rest ih =>
    -- a call accounts for itself; the rest follows only behind a success
    have hcall := accounts_perform hquiet i s
    cases hr : (perform i s).result with
    | error e =>
      rw [hr] at hcall
      refine ⟨_, hcall.bind_of_error hr _, ?_⟩
      rw [run, Action.bind_of_error hr]
      exact .callFailed i rest e
    | ok a =>
      rw [hr] at hcall
      obtain ⟨ds, haccounts, hcourse⟩ := ih (perform i s).state
      refine ⟨_, hcall.bind_of_ok hr haccounts, ?_⟩
      rw [run, Action.bind_of_ok hr]
      exact .call a hcourse
  | scope body rest ihbody ihrest =>
    -- there are three ways: the body fails, the closing fails, or the rest is done
    obtain ⟨ds, hbody, hcourse⟩ := ihbody (gl.beginChunk s)
    have hscope := hbody.scope hquiet
    cases hr : (body.run gl perform (gl.beginChunk s)).result with
    | error e =>
      have hresult : (gl.scope (body.run gl perform) s).result = .error e := by
        rw [Gl.scope_of_error gl hr]
      rw [hr] at hcourse
      refine ⟨_, hscope.bind_of_error hresult _, ?_⟩
      rw [run, Action.bind_of_error hresult]
      exact .bodyFailed rest _ hcourse
    | ok u =>
      rw [hr] at hcourse
      -- the closing decides whether the rest is done
      have hclosing : (gl.scope (body.run gl perform) s).result =
          (gl.endChunk (body.run gl perform (gl.beginChunk s)).state).result := by
        rw [Gl.scope_of_ok gl hr]
        cases (gl.endChunk (body.run gl perform (gl.beginChunk s)).state).result <;> rfl
      rw [← hclosing] at hscope
      cases hresult : (gl.scope (body.run gl perform) s).result with
      | error e =>
        rw [hresult] at hscope
        refine ⟨_, hscope.bind_of_error hresult _, ?_⟩
        rw [run, Action.bind_of_error hresult]
        exact .closingFailed rest e hcourse
      | ok v =>
        rw [hresult] at hscope
        obtain ⟨es, hrest, hafter⟩ := ihrest (gl.scope (body.run gl perform) s).state
        refine ⟨_, hscope.bind_of_ok hresult hrest, ?_⟩
        rw [run, Action.bind_of_ok hresult]
        exact .scope hcourse hafter

/-- Scripts match on devices that match. -/
theorem run_matches {K : Correspondence σ τ} {gl' : Gl τ Shader Program ε}
    {perform' : ι → Action τ ε α} (hgl : gl.Matches K gl')
    (hperform : ∀ i, K.Matches (perform i) (perform' i)) (script : Script ι) :
    K.Matches (script.run gl perform) (script.run gl' perform') := by
  induction script with
  | done => exact Correspondence.matches_pure _
  | call i rest ih => exact (hperform i).bind fun _ => ih
  | scope body rest ihbody ihrest => exact (hgl.scope ihbody).bind fun _ => ihrest

/-- **How a script proceeds**: it takes its course, every scope that it opens is closed once and in
its place, the first failure is its result, and every other failure is only reported. -/
structure Proceeds (describe : ε → String) (script : Script ι) (ds : List (Deed ι α ε))
    (out : Outcome σ ε Unit) : Prop where
  /-- it takes its course -/
  course : script.Course ds out.result
  /-- beginnings and ends are nested -/
  balanced : Deed.Balanced ds
  /-- the first failure is the result -/
  first : failureOf? out.result = (failures ds).head?
  /-- any other one is reported -/
  others : out.events.filter Event.isDrop =
    (failures ds).tail.map fun e => .scopeFlushFailed (describe e)

/-! ### Runs under watch -/

section

variable {κ : Type}

/-- The notes on a device of which only the chunks are watched. -/
def Deed.ofCall : {β : Type} → Gl.Call Shader Program β → Except ε β → List (Deed κ α ε)
  | _, .beginChunk, _ => [.opened]
  | _, .endChunk, r => [.closed r]
  | _, _, _ => []

variable (gl : Gl σ Shader Program ε) (perform : κ → Action σ ε α)

/-- Carries out a script and notes its deeds. -/
def watch (script : Script κ) : Action (Watched σ (Deed κ α ε)) ε Unit :=
  script.run (gl.watched Deed.ofCall) fun i => (perform i).watched fun r => [.called i r]

variable {gl perform}

/-- The record grows by what is done. -/
theorem record_path {ds : List (Deed κ α ε)} {w w' : Watched σ (Deed κ α ε)}
    (h : Path (Deed.Does (gl.watched Deed.ofCall)
      fun i => (perform i).watched fun r => [.called i r]) ds w w') :
    w'.record = w.record ++ ds := by
  induction ds generalizing w with
  | nil =>
    obtain rfl : w = w' := h
    exact (List.append_nil _).symm
  | cons d rest ih =>
    obtain ⟨m, hd, hrest⟩ := h
    -- each of the three kinds of deeds notes itself
    have hm : m.record = w.record ++ [d] := by
      cases d with
      | opened => obtain rfl := hd; rfl
      | called i r => obtain ⟨rfl, rfl⟩ := hd; rfl
      | closed r => obtain ⟨rfl, rfl⟩ := hd; rfl
    rw [ih hrest, hm, List.append_assoc, List.singleton_append]

/-- **What is seen of a script** under watch is how it proceeds without. -/
theorem watch_proceeds (hquiet : Quiet gl perform) (script : Script κ) (s : σ) :
    let w := script.watch gl perform ⟨s, []⟩
    script.run gl perform s = ⟨w.result, w.state.inner, w.events⟩ ∧
      script.Proceeds gl.describeError w.state.record (script.run gl perform s) := by
  intro w
  have hmatches : Watched.watching.Matches (script.watch gl perform) (script.run gl perform) :=
    run_matches (gl.watched_matches _) (fun i => Action.watched_matches _ _) script
  have hagree := (hmatches 0 ⟨s, []⟩ s trivial).2 rfl
  have hevents := hagree.events_eq fun _ => rfl
  have hsame : script.run gl perform s = ⟨w.result, w.state.inner, w.events⟩ := by
    rw [show w.result = (script.run gl perform s).result from hagree.result,
      show w.events = (script.run gl perform s).events from hevents,
      show w.state.inner = (script.run gl perform s).state from hagree.state]
  -- the watched device is quiet as well, and the deeds on it are the record
  have hwatched : Quiet (gl.watched Deed.ofCall)
      fun i => (perform i).watched fun r => [.called i r] :=
    ⟨fun i w => hquiet.calls i w.inner, fun w => hquiet.closing w.inner⟩
  obtain ⟨ds, haccounts, hcourse⟩ := run_course hwatched script ⟨s, []⟩
  have hrecord : w.state.record = ds := record_path haccounts.path
  refine ⟨hsame, ?_⟩
  rw [hrecord, hsame]
  exact ⟨hcourse, hcourse.balanced, haccounts.first, haccounts.others⟩

end

end Script

end GlBridge
