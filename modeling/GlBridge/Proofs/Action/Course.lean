import GlBridge.Proofs.Action.Session

/-!
# Courses of actions

What an action makes of a device can be told as the *deeds* that it does, one after the other:
each is a call with what came of it. `Path does ds s t` says that the deeds `ds` lead from one
state to another, where `does` says of a single one where it leads.

`Action.Follows does x Q` says that an action takes its course along deeds: from whatever state it
is run, some deeds lead to the state that it leaves, and `Q` tells which ones, together with the
result. There is one rule for each combinator. They are stated for a course `Q` of the whole, so
that a proof goes through an action from its first call to its last and collects the deeds in
front of it.

`Action.Tells does x Q` says this of the log as well. It tells apart what the deeds report
themselves and what the action reports in between (`Happening`), and `Q` is told the latter.
A log is only ever added to, so it can be kept in the state (`Action.logged`), where adding to it is
a deed; the rules are then those of `Action.Follows`.
-/

namespace GlBridge

variable {σ ε φ α β : Type}

section

universe u v

variable {δ : Type u} {γ : Type v} {does : δ → σ → σ → Prop}

/-- The deeds, done one after the other, lead from one state to another. -/
def Path (does : δ → σ → σ → Prop) : List δ → σ → σ → Prop
  | [], s, t => s = t
  | d :: ds, s, t => ∃ m, does d s m ∧ Path does ds m t

namespace Path

/-- Paths are put together where one ends and the other begins. -/
theorem append {ds es : List δ} {s m t : σ} (h : Path does ds s m) (h' : Path does es m t) :
    Path does (ds ++ es) s t := by
  induction ds generalizing s with
  | nil =>
    obtain rfl : s = m := h
    exact h'
  | cons d rest ih =>
    -- the deed in front leads to `n`, from where the rest goes on
    obtain ⟨n, hd, hrest⟩ := h
    exact ⟨n, hd, ih hrest⟩

/-- And every path comes apart wherever its deeds do. -/
theorem split {ds es : List δ} {s t : σ} (h : Path does (ds ++ es) s t) :
    ∃ m, Path does ds s m ∧ Path does es m t := by
  induction ds generalizing s with
  | nil => exact ⟨s, rfl, h⟩
  | cons d rest ih =>
    obtain ⟨n, hd, hrest⟩ := h
    obtain ⟨m, hfront, hback⟩ := ih hrest
    exact ⟨m, ⟨n, hd, hfront⟩, hback⟩

/-- If each deed leads to the same place in other words, so do all of them. -/
theorem map {does' : γ → σ → σ → Prop} {f : δ → γ}
    (hf : ∀ d s t, does d s t → does' (f d) s t) {ds : List δ} {s t : σ}
    (h : Path does ds s t) : Path does' (ds.map f) s t := by
  induction ds generalizing s with
  | nil => exact h
  | cons d rest ih =>
    obtain ⟨m, hd, hrest⟩ := h
    exact ⟨m, hf d s m hd, ih hrest⟩

/-- What every deed on the way preserves holds at its end. -/
theorem preserves {P : σ → Prop} {ds : List δ} (hP : ∀ d ∈ ds, ∀ s t, does d s t → P s → P t)
    {s t : σ} (h : Path does ds s t) (hs : P s) : P t := by
  induction ds generalizing s with
  | nil => exact h ▸ hs
  | cons d rest ih =>
    obtain ⟨m, hd, hrest⟩ := h
    exact ih (fun e he => hP e (List.mem_cons_of_mem d he)) hrest
      (hP d List.mem_cons_self s m hd hs)

end Path

namespace Action

/-- The action leads along deeds, and these and the result are as described. -/
def Follows (does : δ → σ → σ → Prop) (x : Action σ ε α) (Q : List δ → Except ε α → Prop) :
    Prop :=
  ∀ s, ∃ ds, Path does ds s (x s).state ∧ Q ds (x s).result

/-- Nothing is done where a value is all there is. -/
theorem follows_of_ok {Q : List δ → Except ε α → Prop} {a : α} (h : Q [] (.ok a)) :
    Follows does (pure a) Q :=
  fun _ => ⟨[], rfl, h⟩

/-- A report is no deed. -/
theorem follows_emit {Q : List δ → Except ε Unit → Prop} {event : Event} (h : Q [] (.ok ())) :
    Follows does (emit event) Q :=
  fun _ => ⟨[], rfl, h⟩

namespace Follows

variable {x : Action σ ε α} {P : List δ → Except ε α → Prop}

/-- A course that is described more closely than needed is described. -/
theorem mono (hx : Follows does x P) {Q : List δ → Except ε α → Prop}
    (h : ∀ ds r, P ds r → Q ds r) : Follows does x Q := by
  intro s
  obtain ⟨ds, hpath, hP⟩ := hx s
  exact ⟨ds, hpath, h ds _ hP⟩

/-- What comes second is done behind the deeds of what comes first, if that succeeds. -/
theorem bind (hx : Follows does x P) {f : α → Action σ ε β} {Q : List δ → Except ε β → Prop}
    (herror : ∀ ds e, P ds (.error e) → Q ds (.error e))
    (hok : ∀ ds a, P ds (.ok a) → Follows does (f a) fun es r => Q (ds ++ es) r) :
    Follows does (x >>= f) Q := by
  intro s
  obtain ⟨ds, hpath, hP⟩ := hx s
  cases hr : (x s).result with
  | error e =>
    -- the deeds so far are all there are
    rw [hr] at hP
    rw [bind_of_error hr]
    exact ⟨ds, hpath, herror ds e hP⟩
  | ok a =>
    -- deeds are collected in front of those of `f a`
    rw [hr] at hP
    rw [bind_of_ok hr]
    obtain ⟨es, hnext, hQ⟩ := hok ds a hP (x s).state
    exact ⟨ds ++ es, hpath.append hnext, hQ⟩

/-- The same where the failure of what comes first is renamed. -/
theorem mapError_bind (hx : Follows does x P) {g : ε → φ} {f : α → Action σ φ β}
    {Q : List δ → Except φ β → Prop} (herror : ∀ ds e, P ds (.error e) → Q ds (.error (g e)))
    (hok : ∀ ds a, P ds (.ok a) → Follows does (f a) fun es r => Q (ds ++ es) r) :
    Follows does (x.mapError g >>= f) Q := by
  -- renaming alone keeps the deeds, after which this is `bind` with two impossible cases
  have hmapped : Follows does (x.mapError g) fun ds r => ∃ r', P ds r' ∧ r = r'.mapError g := by
    intro s
    obtain ⟨ds, hpath, hP⟩ := hx s
    exact ⟨ds, hpath, _, hP, rfl⟩
  refine hmapped.bind ?_ ?_
  · rintro ds _ ⟨e | a, hP, he⟩
    · cases he
      exact herror ds e hP
    · cases he
  · rintro ds b ⟨e | a, hP, he⟩
    · cases he
    · obtain rfl : b = a := Except.ok.inj he
      exact hok ds b hP

/-- Behind an attempt the rest goes on in either case, and hears how it went. -/
theorem attempt_bind (hx : Follows does x P) {f : Except ε α → Action σ φ β}
    {Q : List δ → Except φ β → Prop}
    (h : ∀ ds r, P ds r → Follows does (f r) fun es r' => Q (ds ++ es) r') :
    Follows does (x.attempt >>= f) Q := by
  intro s
  obtain ⟨ds, hpath, hP⟩ := hx s
  obtain ⟨es, hnext, hQ⟩ := h ds _ hP (x s).state
  exact ⟨ds ++ es, hpath.append hnext, hQ⟩

/-- A course in other words: each deed is a deed of another kind. -/
theorem map {does' : γ → σ → σ → Prop} {f : δ → γ} (hx : Follows does x P)
    (hf : ∀ d s t, does d s t → does' (f d) s t) :
    Follows does' x fun ds r => ∃ es, P es r ∧ ds = es.map f := by
  intro s
  obtain ⟨ds, hpath, hP⟩ := hx s
  exact ⟨ds.map f, hpath.map hf, ds, hP, rfl⟩

end Follows

end Action

/-! ### Deeds and reports -/

/-- What happens in a run: a deed with the events that it reports itself, or an event that is
reported in between. -/
inductive Happening (δ : Type u) : Type u where
  | did (d : δ) (reports : List Event)
  | told (e : Event)

namespace Happening

def deed? : Happening δ → Option δ
  | .did d _ => some d
  | .told _ => none

def told? : Happening δ → Option Event
  | .did _ _ => none
  | .told e => some e

/-- What is in the log of it. -/
def events : Happening δ → List Event
  | .did _ reports => reports
  | .told e => [e]

/-- It leads from one state with a log to another. -/
def Leads (does : δ → List Event → σ → σ → Prop) :
    Happening δ → σ × List Event → σ × List Event → Prop
  | .did d reports, s, t => does d reports s.1 t.1 ∧ t.2 = s.2 ++ reports
  | .told e, s, t => t = (s.1, s.2 ++ [e])

variable {does : δ → List Event → σ → σ → Prop}

/-- The log grows by what happens. -/
theorem log_path {hs : List (Happening δ)} {s t : σ × List Event}
    (h : Path (Leads does) hs s t) : t.2 = s.2 ++ hs.flatMap events := by
  induction hs generalizing s with
  | nil =>
    obtain rfl : s = t := h
    exact (List.append_nil _).symm
  | cons happening rest ih =>
    obtain ⟨m, hm, hrest⟩ := h
    -- both kinds of happenings add their own events at the end
    have hlog : m.2 = s.2 ++ happening.events := by
      cases happening with
      | did d reports => exact hm.2
      | told e => exact congrArg Prod.snd hm
    rw [ih hrest, hlog, List.flatMap_cons, List.append_assoc]

/-- The deeds alone lead where they lead together with the reports. -/
theorem deeds_path {hs : List (Happening δ)} {s t : σ × List Event}
    (h : Path (Leads does) hs s t) :
    Path (fun d s t => ∃ reports, does d reports s t) (hs.filterMap deed?) s.1 t.1 := by
  induction hs generalizing s with
  | nil => exact congrArg Prod.fst h
  | cons happening rest ih =>
    obtain ⟨m, hm, hrest⟩ := h
    cases happening with
    | did d reports => exact ⟨m.1, ⟨reports, hm.1⟩, ih hrest⟩
    | told e =>
      -- a report leaves the state as it is, so it is passed over
      obtain rfl := hm
      exact ih (s := (s.1, s.2 ++ [e])) hrest

end Happening

namespace Action

/-- The same action with its log kept in the state. -/
def logged (x : Action σ ε α) : Action (σ × List Event) ε α := fun s =>
  let out := x s.1
  ⟨out.result, (out.state, s.2 ++ out.events), out.events⟩

/-- To keep the log of two actions is to keep it of one after the other. -/
theorem logged_bind (x : Action σ ε α) (f : α → Action σ ε β) :
    (x >>= f).logged = x.logged >>= fun a => (f a).logged := by
  funext s
  -- the log of the run as a pair with its state, so that both sides can be run
  change (⟨_, (_, _), _⟩ : Outcome (σ × List Event) ε β) = _
  cases hr : (x s.1).result with
  | error e =>
    have hlogged : (x.logged s).result = .error e := hr
    rw [bind_of_error hr, bind_of_error hlogged]
    rfl
  | ok a =>
    have hlogged : (x.logged s).result = .ok a := hr
    rw [bind_of_ok hr, bind_of_ok hlogged, ← List.append_assoc]
    rfl

/-- The action leads along deeds. These, what it reports in between and the result are as
described. -/
def Tells (does : δ → List Event → σ → σ → Prop) (x : Action σ ε α)
    (Q : List δ → List Event → Except ε α → Prop) : Prop :=
  Follows (Happening.Leads does) x.logged fun hs r =>
    Q (hs.filterMap Happening.deed?) (hs.filterMap Happening.told?) r

variable {does : δ → List Event → σ → σ → Prop}

/-- A value adds nothing to the log. -/
theorem tells_of_ok {Q : List δ → List Event → Except ε α → Prop} {a : α} (h : Q [] [] (.ok a)) :
    Tells does (pure a) Q :=
  fun s => ⟨[], congrArg (Prod.mk s.1) (List.append_nil s.2).symm, h⟩

/-- And neither does giving up. -/
theorem tells_fail {Q : List δ → List Event → Except ε α → Prop} {e : ε}
    (h : Q [] [] (.error e)) : Tells does (fail e) Q :=
  fun s => ⟨[], congrArg (Prod.mk s.1) (List.append_nil s.2).symm, h⟩

namespace Tells

variable {x : Action σ ε α} {P : List δ → List Event → Except ε α → Prop}

/-- The same for a course with its log. -/
theorem mono (hx : Tells does x P) {Q : List δ → List Event → Except ε α → Prop}
    (h : ∀ ds es r, P ds es r → Q ds es r) : Tells does x Q :=
  Follows.mono hx fun _ r => h _ _ r

/-- What comes second is done and reported behind what comes first. -/
theorem bind (hx : Tells does x P) {f : α → Action σ ε β}
    {Q : List δ → List Event → Except ε β → Prop}
    (herror : ∀ ds es e, P ds es (.error e) → Q ds es (.error e))
    (hok : ∀ ds es a, P ds es (.ok a) →
      Tells does (f a) fun ds' es' r => Q (ds ++ ds') (es ++ es') r) :
    Tells does (x >>= f) Q := by
  -- deeds and reports are picked from one list of happenings, and picking goes through the join
  unfold Tells
  rw [logged_bind]
  refine Follows.bind hx (fun _ e => herror _ _ e) fun hs a hP => ?_
  refine Follows.mono (hok _ _ a hP) fun hs' r hQ => ?_
  rw [List.filterMap_append, List.filterMap_append]
  exact hQ

/-- The same where the failure of what comes first is renamed. -/
theorem mapError_bind (hx : Tells does x P) {g : ε → φ} {f : α → Action σ φ β}
    {Q : List δ → List Event → Except φ β → Prop}
    (herror : ∀ ds es e, P ds es (.error e) → Q ds es (.error (g e)))
    (hok : ∀ ds es a, P ds es (.ok a) →
      Tells does (f a) fun ds' es' r => Q (ds ++ ds') (es ++ es') r) :
    Tells does (x.mapError g >>= f) Q := by
  unfold Tells
  rw [logged_bind]
  refine Follows.mapError_bind (x := x.logged) hx (fun _ e => herror _ _ e) fun hs a hP => ?_
  refine Follows.mono (hok _ _ a hP) fun hs' r hQ => ?_
  rw [List.filterMap_append, List.filterMap_append]
  exact hQ

/-- The same behind an attempt, whatever came of it. -/
theorem attempt_bind (hx : Tells does x P) {f : Except ε α → Action σ φ β}
    {Q : List δ → List Event → Except φ β → Prop}
    (h : ∀ ds es r, P ds es r →
      Tells does (f r) fun ds' es' r' => Q (ds ++ ds') (es ++ es') r') :
    Tells does (x.attempt >>= f) Q := by
  unfold Tells
  rw [logged_bind]
  refine Follows.attempt_bind (x := x.logged) hx fun hs r hP => ?_
  refine Follows.mono (h _ _ r hP) fun hs' r' hQ => ?_
  rw [List.filterMap_append, List.filterMap_append]
  exact hQ

/-- What is told of the log is left out. -/
theorem follows (hx : Tells does x P) :
    Follows (fun d s t => ∃ reports, does d reports s t) x fun ds r => ∃ es, P ds es r := by
  intro s
  -- the log is begun anew here, since none is kept
  obtain ⟨hs, hpath, hP⟩ := hx (s, [])
  exact ⟨_, Happening.deeds_path hpath, _, hP⟩

end Tells

/-- A report between two deeds stands in front of those that follow. -/
theorem tells_emit_bind {Q : List δ → List Event → Except ε α → Prop} {event : Event}
    {f : Unit → Action σ ε α} (h : Tells does (f ()) fun ds es r => Q ds (event :: es) r) :
    Tells does (emit event >>= f) Q := by
  -- on its own it is one happening, and it cannot fail
  have hemit : Tells does (emit event : Action σ ε Unit)
      fun ds es r => ds = [] ∧ es = [event] ∧ r = .ok () :=
    fun _ => ⟨[.told event], ⟨_, rfl, rfl⟩, rfl, rfl, rfl⟩
  refine hemit.bind ?_ ?_
  · rintro _ _ e ⟨-, -, he⟩
    cases he
  · rintro _ _ u ⟨rfl, rfl, -⟩
    exact h

end Action

end

end GlBridge
