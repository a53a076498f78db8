import GlBridge.Proofs.Remote.ReplyLines
import GlBridge.Proofs.Studio.Arguments
import GlBridge.Proofs.Studio.Transcript
import GlBridge.Proofs.Wire.Reread
import GlBridge.Studio.Run

/-!
# What a run writes

The output carries nothing but messages. A run whose arguments are rejected, or that cannot read a
source, writes nothing; and a dry run lists the messages only after all of them were recorded, so it
writes nothing if the demonstration fails. Main statement: `arguments_decide`.

In a listing every message has its own line and is read back from it. The text of a message has no
control characters, whatever is in the sources, so no line of the output is split
(`splitLines_listing`). And the arguments of the demonstration's calls are plain, so no message is
too deep to be read (`DryRun.plain_script`).
-/

namespace GlBridge

/-! ### Plain messages -/

@[simp] theorem Handle.depth_argument (h : Handle) : h.argument.json.depth = 0 := rfl

@[simp] theorem Value.depth_word (n : UInt32) : (Value.word n).json.depth = 0 := rfl

@[simp] theorem Value.depth_bool (b : Bool) : (Value.bool b).json.depth = 0 := rfl

@[simp] theorem Value.depth_string (s : String) : (Value.string s).json.depth = 0 := rfl

@[simp] theorem ElementType.depth_argument (t : ElementType) : t.argument.json.depth = 0 := rfl

/-- None of the arguments is a container. -/
def Instruction.IsPlain (i : Instruction) : Prop := ∀ v ∈ i.args, v.json.depth = 0

/-- The message carries calls, and all of them are plain. -/
def Message.IsPlain : Message → Prop
  | .exec is => ∀ i ∈ is, i.IsPlain
  | .query is => ∀ i ∈ is, i.IsPlain
  | _ => False

namespace Instruction

/-- In a plain call only the list of arguments and the call itself are containers. -/
theorem IsPlain.depth_le {i : Instruction} (h : i.IsPlain) : i.toJson.depth ≤ 2 := by
  have hargs : (Json.ofValues i.args).depth ≤ 1 := by
    refine Json.depth_array_le (fun j hj => ?_) Nat.one_pos
    obtain ⟨v, hv, rfl⟩ := List.mem_map.1 hj
    exact (h v hv).trans_lt Nat.one_pos
  refine Json.depth_object_le (fun m hm => ?_) (by decide)
  simp only [List.mem_cons, List.not_mem_nil, or_false] at hm
  -- purpose and name are texts
  rcases hm with rfl | rfl | rfl
  · exact Nat.zero_lt_two
  · exact Nat.zero_lt_two
  · exact hargs.trans_lt Nat.one_lt_two

/-- Plain calls stay within three levels as a list. -/
theorem depth_listToJson_le {is : List Instruction} (h : ∀ i ∈ is, i.IsPlain) :
    (listToJson is).depth ≤ 3 := by
  refine Json.depth_array_le (fun j hj => ?_) (by decide)
  obtain ⟨i, hi, rfl⟩ := List.mem_map.1 hj
  exact Nat.lt_succ_of_le (h i hi).depth_le

end Instruction

namespace Message

/-- A plain message is read back from its text. -/
theorem IsPlain.read_render {m : Message} (h : m.IsPlain) : read? m.render = some m := by
  have hpayload : m.payload.2.depth < 4 := by
    match m, h with
    | .exec is, h => exact Nat.lt_succ_of_le (Instruction.depth_listToJson_le h)
    | .query is, h => exact Nat.lt_succ_of_le (Instruction.depth_listToJson_le h)
  exact Message.read_render m ((Message.depth_toJson_le hpayload).trans (by decide))

end Message

namespace DryRun

/-- A question is plain if its arguments are. -/
theorem plain_asks {op : String} {args : List Value} (h : ∀ v ∈ args, v.json.depth = 0) :
    (asks op args).message.IsPlain :=
  List.forall_mem_singleton.2 h

/-- Uploads are plain, whatever the names of the uniforms are. -/
theorem plain_uniformScript (program : Handle) (us : List (String × Mat4 Single)) (n : Nat) :
    ∀ s ∈ uniformScript program n us, s.message.IsPlain := by
  induction us generalizing n with
  | nil => exact List.forall_mem_nil _
  | cons u rest ih =>
    obtain ⟨name, m⟩ := u
    refine List.forall_mem_cons.2 ⟨plain_asks (by simp), List.forall_mem_cons.2 ⟨?_, ih (n + 1)⟩⟩
    exact List.forall_mem_singleton.2 (by simp [Instruction.IsPlain, Instruction.exec])

/-- The messages for a shader are plain, whatever its source is. -/
theorem plain_shaderScript (shader : Handle) (stage : Stage) (source : String) :
    ∀ s ∈ shaderScript shader stage source, s.message.IsPlain := by
  simp [shaderScript, asks, uploads, Message.IsPlain, Instruction.IsPlain, Instruction.exec,
    Instruction.query]

/-- **Every message of the demonstration is plain**, whatever the sources are. -/
theorem plain_script (n : Nat) (vertex fragment : String) :
    ∀ s ∈ script n vertex fragment, s.message.IsPlain := by
  have hexec : ∀ op args, (∀ v ∈ args, v.json.depth = 0) →
      (Message.exec [.exec op args]).IsPlain := fun op args h => List.forall_mem_singleton.2 h
  -- the parts of the script one by one, the uploads coming last
  have hlinking : ∀ program v f : Handle, ∀ s ∈ linkingScript program v f, s.message.IsPlain := by
    simp [linkingScript, asks, Message.IsPlain, Instruction.IsPlain, Instruction.exec,
      Instruction.query]
  have hprogram : ∀ s ∈ programScript n vertex fragment, s.message.IsPlain :=
    List.forall_mem_cons.2 ⟨plain_asks (by simp), List.forall_mem_append.2
      ⟨plain_shaderScript _ _ _, List.forall_mem_append.2
        ⟨plain_shaderScript _ _ _, hlinking _ _ _⟩⟩⟩
  refine List.forall_mem_append.2 ⟨hprogram, List.forall_mem_append.2
    ⟨?_, plain_uniformScript _ _ _⟩⟩
  intro s hs
  simp only [List.mem_cons, List.not_mem_nil, or_false] at hs
  rcases hs with rfl | rfl | rfl
  · exact hexec _ _ (by simp)
  · exact hexec _ _ (by simp)
  · exact hexec _ _ (by simp)

end DryRun

/-! ### Lines -/

namespace Studio

/-- The line is a text without newlines, with one behind it, and the text is that of the message. -/
def IsLineOf (line : Bytes) (m : Message) : Prop :=
  ∃ text, line = Text.encode text ++ [newline] ∧ newline ∉ Text.encode text ∧
    Message.read? text = some m

/-- The text of a message has no control byte, and so no newline. -/
theorem noControl_render (m : Message) : ∀ b ∈ Text.encode m.render, 0x20 ≤ b.toNat := by
  refine Text.noControl_encode ?_
  rw [Message.render, Json.render, String.toList_ofList]
  exact Json.noControl_write _

/-- **Each message has its own line.** -/
theorem splitLines_listing (sent : List Sent) :
    splitLines (listing sent) = sent.map fun s => Text.encode s.message.render ++ [newline] := by
  induction sent with
  | nil => rfl
  | cons s rest ih =>
    -- the first line is the text of the first message, since it has no newline in it
    have hlisting : listing (s :: rest) =
        Text.encode s.message.render ++ newline :: listing rest := by
      unfold listing
      rw [List.flatMap_cons, List.append_assoc]
      rfl
    rw [hlisting, (splitLines_of_splitLine (splitLine_append (noControl_render s.message) _)).1, ih]
    rfl

/-- A plain message is read back from its own line. -/
theorem isLineOf_render {m : Message} (h : m.IsPlain) :
    IsLineOf (Text.encode m.render ++ [newline]) m := by
  refine ⟨m.render, rfl, fun hmem => ?_, h.read_render⟩
  exact absurd (noControl_render m newline hmem) (by decide)

/-- **A listing of plain messages is read back line by line.** -/
theorem lines_of_listing {sent : List Sent} (h : ∀ s ∈ sent, s.message.IsPlain) :
    List.Forall₂ IsLineOf (splitLines (listing sent)) (sent.map Sent.message) := by
  rw [splitLines_listing, List.forall₂_map_left_iff, List.forall₂_map_right_iff,
    List.forall₂_same]
  exact fun s hs => isLineOf_render (h s hs)

/-! ### Runs of the program -/

/-- What is reported before the arguments are looked at. -/
def opening (env : Surroundings) : String :=
  let log := ({} : Log.Setup).install none env.logFilter
  printed log.warnings ++ logText log.setup log.events

/-- The file is there and holds this text. -/
def Holds (env : Surroundings) (path text : String) : Prop :=
  env.contents path = .ok (Text.encode text)

variable {env : Surroundings}

/-- A text is read if the file holds it, and no other. -/
theorem readText_eq_ok {path text : String} :
    readText env path = .ok text ↔ Holds env path text := by
  unfold readText Holds
  split
  next reason hcontents =>
    rw [hcontents]
    exact ⟨nofun, nofun⟩
  next bytes hcontents =>
    rw [hcontents]
    split
    next hdecode =>
      have hother := Text.decode_eq_none_iff.1 hdecode text
      exact ⟨nofun, fun h => absurd (Except.ok.inj h).symm hother⟩
    next s hdecode =>
      -- the bytes are those of the text that was read, and of no other
      rw [← Text.decode_eq_some_iff.1 hdecode]
      constructor
      · intro h
        rw [Except.ok.inj h]
      · intro h
        rw [Text.encode_inj.1 (Except.ok.inj h)]

/-- Two sources are read if both files hold a text. -/
theorem readSources_eq_ok {o : Options} {sources : String × String} :
    readSources env o = .ok sources ↔
      Holds env o.vertexPath sources.1 ∧ Holds env o.fragmentPath sources.2 := by
  rw [← readText_eq_ok, ← readText_eq_ok]
  unfold readSources
  cases readText env o.vertexPath with
  | error e => exact ⟨nofun, nofun⟩
  | ok vertex =>
    cases readText env o.fragmentPath with
    | error e => exact ⟨nofun, nofun⟩
    | ok fragment =>
      constructor
      · intro h
        obtain rfl := Except.ok.inj h
        exact ⟨rfl, rfl⟩
      · rintro ⟨hvertex, hfragment⟩
        obtain rfl := Except.ok.inj hvertex
        obtain rfl := Except.ok.inj hfragment
        rfl

/-- Help is printed, and that is no failure. -/
theorem execute_of_help (h : CommandLine.read env.args = .help) :
    execute env = ⟨0, [], opening env ++ printed [usage]⟩ := by
  unfold execute
  rw [h]
  rfl

/-- Arguments that are rejected are a failure, and nothing else is done. -/
theorem execute_of_invalid {e : UsageError} (h : CommandLine.read env.args = .invalid e) :
    execute env = ⟨1, [], opening env ++ printed ["Error: " ++ e.message]⟩ := by
  unfold execute
  rw [h]
  rfl

/-- **A source that cannot be read** ends the run before anything is written. -/
theorem execute_of_unreadable {o : Options} (h : CommandLine.read env.args = .run o) {path : String}
    (hpath : path = o.vertexPath ∨ path = o.fragmentPath) (hnone : ∀ text, ¬ Holds env path text) :
    (execute env).exitCode = 1 ∧ (execute env).output = [] := by
  unfold execute
  rw [h]
  dsimp only
  cases hsources : readSources env o with
  | error e => exact ⟨rfl, rfl⟩
  | ok sources =>
    -- both sources were read, so both files hold a text after all
    obtain ⟨hvertex, hfragment⟩ := readSources_eq_ok.1 hsources
    rcases hpath with rfl | rfl
    · exact absurd hvertex (hnone _)
    · exact absurd hfragment (hnone _)

/-- The demonstration, recorded by a dry run. -/
def rehearsal (o : Options) (vertex fragment : String) :
    Outcome (Context (Recording DryRun)) DemoError Unit :=
  run DryRun.transport vertex fragment
    { transport := DryRun.start, config := { trace := o.trace } }

/-- However far it goes, the messages are from the script. -/
theorem sent_rehearsal (o : Options) (vertex fragment : String) :
    ∃ k, (rehearsal o vertex fragment).state.transport.sent =
      (DryRun.script 1 vertex fragment).take k := by
  let c : Context (Recording DryRun) := Context.start { trace := o.trace } DryRun.start
  have hready : DryRun.Ready 1 c := ⟨rfl, ⟨rfl, rfl⟩, rfl⟩
  have hsent : ∀ {messages : List Sent} {m : Nat},
      (rehearsal o vertex fragment).state = DryRun.played c messages m →
        (rehearsal o vertex fragment).state.transport.sent = messages := fun h =>
    congrArg (fun c : Context (Recording DryRun) => c.transport.sent) h
  -- as far as the first refused source allows
  cases hv : isReference vertex with
  | true => exact ⟨2, hsent (DryRun.plays_run_vertex hv c hready c rfl).2⟩
  | false =>
    cases hf : isReference fragment with
    | true => exact ⟨5, hsent (DryRun.plays_run_fragment hv hf c hready c rfl).2⟩
    | false =>
      refine ⟨(DryRun.script 1 vertex fragment).length, ?_⟩
      rw [List.take_length]
      exact hsent (DryRun.plays_run hv hf c hready c rfl).2

/-- All that a dry run records is plain. -/
theorem plain_rehearsal (o : Options) (vertex fragment : String) :
    ∀ s ∈ (rehearsal o vertex fragment).state.transport.sent, s.message.IsPlain := by
  obtain ⟨k, hsent⟩ := sent_rehearsal o vertex fragment
  rw [hsent]
  exact fun s hs => DryRun.plain_script 1 vertex fragment s (List.mem_of_mem_take hs)

/-- A dry run that succeeds delivers the listing of what it recorded. -/
theorem perform_of_ok {o : Options} {vertex fragment : String} (hdry : o.dryRun = true)
    (source : Source) (h : (rehearsal o vertex fragment).result = .ok ()) :
    perform o source vertex fragment =
      ⟨.ok (), listing (rehearsal o vertex fragment).state.transport.sent,
        (rehearsal o vertex fragment).events⟩ := by
  unfold rehearsal at h
  refine (if_pos hdry).trans ?_
  rw [performDry, h]
  rfl

/-- A dry run that fails delivers no listing, although it recorded messages. -/
theorem perform_of_error {o : Options} {vertex fragment : String} (hdry : o.dryRun = true)
    (source : Source) {e : DemoError} (h : (rehearsal o vertex fragment).result = .error e) :
    perform o source vertex fragment =
      ⟨.error e, [], (rehearsal o vertex fragment).events⟩ := by
  unfold rehearsal at h
  refine (if_pos hdry).trans ?_
  rw [performDry, h]
  rfl

/-- **A dry run lists what it recorded**, if the demonstration succeeds. -/
theorem execute_of_dryRun {o : Options} {vertex fragment : String}
    (h : CommandLine.read env.args = .run o) (hdry : o.dryRun = true)
    (hvertex : Holds env o.vertexPath vertex) (hfragment : Holds env o.fragmentPath fragment) :
    ((rehearsal o vertex fragment).result = .ok () →
        (execute env).exitCode = 0 ∧
          (execute env).output = listing (rehearsal o vertex fragment).state.transport.sent) ∧
      ∀ e, (rehearsal o vertex fragment).result = .error e →
        (execute env).exitCode = 1 ∧ (execute env).output = [] := by
  have hsources : readSources env o = .ok (vertex, fragment) :=
    readSources_eq_ok.2 ⟨hvertex, hfragment⟩
  unfold execute
  rw [h]
  dsimp only
  rw [hsources]
  dsimp only
  constructor
  · intro hok
    rw [perform_of_ok hdry env.source hok]
    exact ⟨rfl, rfl⟩
  · intro e herror
    rw [perform_of_error hdry env.source herror]
    exact ⟨rfl, rfl⟩

/-! ### The main statement -/

/-- **How the arguments are read.** -/
structure ArgumentsRead : Prop where
  /-- The first argument that asks for help, or looks like a flag and is none, settles the
  outcome. -/
  decisive : ∀ (front back : List String) (arg : String),
    (∀ a ∈ front, ¬ isDecisive a = true) → isDecisive arg = true →
      CommandLine.read (front ++ arg :: back) =
        if arg = "-h" ∨ arg = "--help" then .help else .invalid (.unknownFlag arg)
  /-- If there is none, the run is accepted if and only if there are exactly two arguments besides
  the switches, -/
  accepted : ∀ args : List String, (∀ a ∈ args, ¬ isDecisive a = true) →
    ((∃ o, CommandLine.read args = .run o) ↔ (pathsOf args).length = 2)
  /-- and rejected for their number otherwise. -/
  rejected : ∀ args : List String, (∀ a ∈ args, ¬ isDecisive a = true) →
    (pathsOf args).length ≠ 2 → CommandLine.read args = .invalid .wrongPaths
  /-- The two are the paths in their order, and each switch is on if and only if it occurs. -/
  options : ∀ args : List String, (∀ a ∈ args, ¬ isDecisive a = true) → ∀ o,
    CommandLine.read args = .run o ↔ pathsOf args = [o.vertexPath, o.fragmentPath] ∧
      (o.dryRun = true ↔ "--dry-run" ∈ args) ∧ (o.trace = true ↔ "--trace" ∈ args)
  /-- So it makes no difference where the switches stand, or how often. -/
  order : ∀ args args' : List String, pathsOf args = pathsOf args' →
    (∀ flag, isSwitch flag = true → (flag ∈ args ↔ flag ∈ args')) →
      CommandLine.read args = CommandLine.read args'

/-- **What a run writes**, and how it ends. -/
structure Written (env : Surroundings) : Prop where
  /-- When help is asked for, the run explains the arguments and ends well. -/
  help : CommandLine.read env.args = .help →
    execute env = ⟨0, [], opening env ++ printed [usage]⟩
  /-- When the arguments are rejected it fails, and nothing is written. -/
  invalid : ∀ e, CommandLine.read env.args = .invalid e →
    execute env = ⟨1, [], opening env ++ printed ["Error: " ++ e.message]⟩
  /-- Likewise when one of the files holds no text. -/
  unreadable : ∀ o, CommandLine.read env.args = .run o →
    ∀ path, path = o.vertexPath ∨ path = o.fragmentPath → (∀ text, ¬ Holds env path text) →
      (execute env).exitCode = 1 ∧ (execute env).output = []
  /-- The output of a dry run that succeeds has exactly one line for each message that was recorded,
  in order, from which the message is read back. -/
  succeeded : ∀ o, CommandLine.read env.args = .run o → o.dryRun = true → ∀ vertex fragment,
    Holds env o.vertexPath vertex → Holds env o.fragmentPath fragment →
      (rehearsal o vertex fragment).result = .ok () →
        (execute env).exitCode = 0 ∧
          List.Forall₂ IsLineOf (splitLines (execute env).output)
            ((rehearsal o vertex fragment).state.transport.sent.map Sent.message)
  /-- A dry run writes nothing if the demonstration fails. -/
  failed : ∀ o, CommandLine.read env.args = .run o → o.dryRun = true → ∀ vertex fragment,
    Holds env o.vertexPath vertex → Holds env o.fragmentPath fragment →
      ∀ e, (rehearsal o vertex fragment).result = .error e →
        (execute env).exitCode = 1 ∧ (execute env).output = []

/-- Options that are accepted say which arguments there were. -/
theorem read_eq_run {args : List String} (h : ∀ a ∈ args, ¬ isDecisive a = true) (o : Options) :
    CommandLine.read args = .run o ↔ pathsOf args = [o.vertexPath, o.fragmentPath] ∧
      (o.dryRun = true ↔ "--dry-run" ∈ args) ∧ (o.trace = true ↔ "--trace" ∈ args) := by
  have hflag : ∀ (b : Bool) (flag : String), b = args.contains flag ↔ (b = true ↔ flag ∈ args) := by
    intro b flag
    rw [Bool.eq_iff_iff, List.contains_iff_mem]
  rw [read_of_not_decisive h, conclusion_eq_run, hflag, hflag]

/-- The outcome is the verdict on the first decisive argument, or the conclusion from the rest. -/
theorem argumentsRead : ArgumentsRead where
  decisive _ _ _ := read_of_decisive
  accepted args h := by
    constructor
    · rintro ⟨o, ho⟩
      rw [((read_eq_run h o).1 ho).1]
      rfl
    · intro hlength
      obtain ⟨vertexPath, fragmentPath, hpaths⟩ := List.length_eq_two.1 hlength
      rw [read_of_not_decisive h, hpaths]
      exact ⟨_, rfl⟩
  rejected args h hlength := by
    rw [read_of_not_decisive h, conclusion_of_length hlength]
  options _ h := read_eq_run h
  order _ _ := read_congr

/-- How the arguments were read decides on the case, and in a dry run the demonstration does. -/
theorem written (env : Surroundings) : Written env where
  help := execute_of_help
  invalid _ := execute_of_invalid
  unreadable o h path hpath hnone := execute_of_unreadable h hpath hnone
  succeeded o h hdry vertex fragment hvertex hfragment hresult := by
    obtain ⟨hexit, houtput⟩ := (execute_of_dryRun h hdry hvertex hfragment).1 hresult
    -- the output is the listing of what was recorded, and every message in it is a line
    rw [houtput]
    exact ⟨hexit, lines_of_listing (plain_rehearsal o vertex fragment)⟩
  failed o h hdry vertex fragment hvertex hfragment :=
    (execute_of_dryRun h hdry hvertex hfragment).2

/-- **The arguments decide what is written.** They are read from left to right, until one of them
settles the outcome (`ArgumentsRead`); and by how they were read, what the files hold and how the
demonstration went, it is settled what is written (`Written`). -/
theorem arguments_decide : ArgumentsRead ∧ ∀ env, Written env :=
  ⟨argumentsRead, written⟩

end Studio
end GlBridge
