import GlBridge.Studio.Options

/-!
# Reading the arguments

The arguments are taken from left to right, and there are three kinds of them. The first one that
asks for help or is an unknown flag settles the outcome (`IsDecisive`), whatever stands around it.
Where there is none, the two switches count however often and wherever they stand (`isSwitch`), and
all that is left are paths, in their order.

`readArguments_eq` says this of the reader, which carries the switches and the paths found so far;
everything else follows from it.
-/

namespace GlBridge.Studio

/-- The argument is one of the two switches. -/
def isSwitch (arg : String) : Bool := arg = "--dry-run" ∨ arg = "--trace"

/-- The argument settles the outcome: it asks for help, or looks like a flag and is no switch. -/
def isDecisive (arg : String) : Bool :=
  arg = "-h" ∨ arg = "--help" ∨ Text.startsWith "--" arg = true ∧ ¬ isSwitch arg = true

/-- The outcome that a decisive argument settles. -/
def verdict (arg : String) : CommandLine :=
  if arg = "-h" ∨ arg = "--help" then .help else .invalid (.unknownFlag arg)

/-- What is no switch. -/
def pathsOf (args : List String) : List String := args.filter fun arg => !isSwitch arg

/-- The outcome if nothing is decisive. -/
def conclusion (dryRun trace : Bool) : List String → CommandLine
  | [vertexPath, fragmentPath] => .run { dryRun, trace, vertexPath, fragmentPath }
  | _ => .invalid .wrongPaths

/-! ### One argument -/

section One

variable (dryRun trace : Bool) (paths rest : List String) {arg : String}

theorem readArguments_dryRun :
    readArguments dryRun trace paths ("--dry-run" :: rest) = readArguments true trace paths rest :=
  if_pos rfl

theorem readArguments_trace :
    readArguments dryRun trace paths ("--trace" :: rest) = readArguments dryRun true paths rest :=
  (if_neg (by decide)).trans (if_pos rfl)

theorem isSwitch_iff : isSwitch arg = true ↔ arg = "--dry-run" ∨ arg = "--trace" :=
  decide_eq_true_iff

theorem isDecisive_iff : isDecisive arg = true ↔
    arg = "-h" ∨ arg = "--help" ∨ Text.startsWith "--" arg = true ∧ ¬ isSwitch arg = true :=
  decide_eq_true_iff

/-- No switch is decisive. -/
theorem not_isSwitch_of_isDecisive (h : isDecisive arg = true) : ¬ isSwitch arg = true := by
  -- help is asked for by another name, and a flag is decisive only if it is no switch
  rcases isDecisive_iff.1 h with rfl | rfl | ⟨-, hnot⟩
  · decide
  · decide
  · exact hnot

/-- What is no switch is looked at behind the two switches. -/
theorem readArguments_of_not_switch (h : ¬ isSwitch arg = true) :
    readArguments dryRun trace paths (arg :: rest) =
      if arg = "-h" ∨ arg = "--help" then .help
      else if Text.startsWith "--" arg then .invalid (.unknownFlag arg)
      else readArguments dryRun trace (arg :: paths) rest := by
  obtain ⟨hdry, htrace⟩ := not_or.1 fun hor => h (isSwitch_iff.2 hor)
  rw [readArguments, if_neg hdry, if_neg htrace]

/-- A decisive argument ends the reading, with the outcome that it settles. -/
theorem readArguments_of_decisive (h : isDecisive arg = true) :
    readArguments dryRun trace paths (arg :: rest) = verdict arg := by
  rw [readArguments_of_not_switch _ _ _ _ (not_isSwitch_of_isDecisive h), verdict]
  by_cases hhelp : arg = "-h" ∨ arg = "--help"
  · rw [if_pos hhelp, if_pos hhelp]
  · -- it is decisive for being a flag, then
    have hflag : Text.startsWith "--" arg = true := by
      rcases isDecisive_iff.1 h with hshort | hlong | ⟨hflag, -⟩
      · exact absurd (.inl hshort) hhelp
      · exact absurd (.inr hlong) hhelp
      · exact hflag
    rw [if_neg hhelp, if_neg hhelp, if_pos hflag]

/-- What is neither a switch nor decisive is put to the paths. -/
theorem readArguments_of_path (hswitch : ¬ isSwitch arg = true) (h : ¬ isDecisive arg = true) :
    readArguments dryRun trace paths (arg :: rest) =
      readArguments dryRun trace (arg :: paths) rest := by
  have hhelp : ¬ (arg = "-h" ∨ arg = "--help") := fun hhelp =>
    h (isDecisive_iff.2 (hhelp.imp id .inl))
  have hflag : ¬ Text.startsWith "--" arg = true := fun hflag =>
    h (isDecisive_iff.2 (.inr (.inr ⟨hflag, hswitch⟩)))
  rw [readArguments_of_not_switch _ _ _ _ hswitch, if_neg hhelp, if_neg hflag]

end One

/-! ### All arguments -/

/-- At the end the paths are counted, in the order in which they came. -/
theorem readArguments_nil (dryRun trace : Bool) (paths : List String) :
    readArguments dryRun trace paths [] = conclusion dryRun trace paths.reverse := by
  match paths with
  | [] => rfl
  | [_] => rfl
  | [_, _] => rfl
  | a :: b :: c :: rest =>
    -- three paths or more are too many from either end
    have hlength : 2 < (a :: b :: c :: rest).reverse.length := by
      rw [List.length_reverse]
      exact Nat.le_add_left 3 rest.length
    match h : (a :: b :: c :: rest).reverse with
    | [] => rfl
    | [_] => rfl
    | [_, _] =>
      rw [h] at hlength
      exact absurd hlength (Nat.lt_irrefl 2)
    | _ :: _ :: _ :: _ => rfl

/-- **How arguments are read**, behind those that were taken before. -/
theorem readArguments_eq (dryRun trace : Bool) (paths args : List String) :
    readArguments dryRun trace paths args =
      match args.find? isDecisive with
      | some arg => verdict arg
      | none => conclusion (dryRun || args.contains "--dry-run") (trace || args.contains "--trace")
          (paths.reverse ++ pathsOf args) := by
  induction args generalizing dryRun trace paths with
  | nil =>
    rw [readArguments_nil]
    simp [pathsOf]
  | cons arg rest ih =>
    by_cases hswitch : isSwitch arg = true
    · -- a switch is turned on, and no more than that
      rcases isSwitch_iff.1 hswitch with rfl | rfl
      · rw [readArguments_dryRun, ih, List.find?_cons_of_neg (by decide)]
        simp [pathsOf, isSwitch]
      · rw [readArguments_trace, ih, List.find?_cons_of_neg (by decide)]
        simp [pathsOf, isSwitch]
    -- what settles the outcome is the first decisive argument that `find?` comes to
    by_cases hdecisive : isDecisive arg = true
    · rw [readArguments_of_decisive _ _ _ _ hdecisive, List.find?_cons_of_pos hdecisive]
    · -- a path goes behind the others
      have hpaths : pathsOf (arg :: rest) = arg :: pathsOf rest :=
        List.filter_cons_of_pos (by simpa using hswitch)
      have hother : ∀ flag, isSwitch flag = true →
          (arg :: rest).contains flag = rest.contains flag := by
        intro flag hflag
        have hne : flag ≠ arg := fun heq => hswitch (heq ▸ hflag)
        rw [List.contains_cons, beq_false_of_ne hne, Bool.false_or]
      rw [readArguments_of_path _ _ _ _ hswitch hdecisive, ih, List.find?_cons_of_neg hdecisive,
        hpaths, hother _ (by decide), hother _ (by decide), List.reverse_cons, List.append_assoc]
      rfl

/-- **How all arguments are read.** -/
theorem read_eq (args : List String) :
    CommandLine.read args =
      match args.find? isDecisive with
      | some arg => verdict arg
      | none => conclusion (args.contains "--dry-run") (args.contains "--trace") (pathsOf args) :=
  readArguments_eq false false [] args

/-- **The first decisive argument settles the outcome.** -/
theorem read_of_decisive {front back : List String} {arg : String}
    (hfront : ∀ a ∈ front, ¬ isDecisive a = true) (h : isDecisive arg = true) :
    CommandLine.read (front ++ arg :: back) = verdict arg := by
  have hfirst : (front ++ arg :: back).find? isDecisive = some arg := by
    rw [List.find?_append, List.find?_eq_none.2 hfront, List.find?_cons_of_pos h]
    rfl
  rw [read_eq, hfirst]

/-- Without one, the outcome is what there is to conclude from the rest. -/
theorem read_of_not_decisive {args : List String} (h : ∀ a ∈ args, ¬ isDecisive a = true) :
    CommandLine.read args =
      conclusion (args.contains "--dry-run") (args.contains "--trace") (pathsOf args) := by
  rw [read_eq, List.find?_eq_none.2 h]

example : CommandLine.read ["--trace", "vertex", "--dry-run", "fragment", "--trace"] =
    .run { dryRun := true, trace := true, vertexPath := "vertex", fragmentPath := "fragment" } := by
  decide

/-- A run is accepted with two paths, and its options are the switches. -/
theorem conclusion_eq_run {dryRun trace : Bool} {paths : List String} {o : Options} :
    conclusion dryRun trace paths = .run o ↔
      paths = [o.vertexPath, o.fragmentPath] ∧ o.dryRun = dryRun ∧ o.trace = trace := by
  constructor
  · intro h
    unfold conclusion at h
    split at h
    · obtain rfl := CommandLine.run.inj h
      exact ⟨rfl, rfl, rfl⟩
    · cases h
  · rintro ⟨rfl, rfl, rfl⟩
    rfl

/-- Any other number of paths is rejected. -/
theorem conclusion_of_length {dryRun trace : Bool} {paths : List String} (h : paths.length ≠ 2) :
    conclusion dryRun trace paths = .invalid .wrongPaths := by
  unfold conclusion
  split
  · exact absurd rfl h
  · rfl

/-- **Where the switches stand does not matter**, nor how often: arguments that differ in nothing
else are read in the same way. -/
theorem read_congr {args args' : List String} (hpaths : pathsOf args = pathsOf args')
    (hswitches : ∀ flag, isSwitch flag = true → (flag ∈ args ↔ flag ∈ args')) :
    CommandLine.read args = CommandLine.read args' := by
  -- a decisive argument is no switch, and so it is looked for among the others
  have hfind : ∀ as : List String, as.find? isDecisive = (pathsOf as).find? isDecisive := by
    intro as
    have hsame : (fun a => decide ((!isSwitch a) = true ∧ isDecisive a = true)) = isDecisive := by
      funext a
      cases hd : isDecisive a with
      | true => rw [Bool.eq_false_iff.2 (not_isSwitch_of_isDecisive hd)]; rfl
      | false => exact decide_eq_false fun hboth => Bool.false_ne_true hboth.2
    rw [pathsOf, List.find?_filter, hsame]
  have hflag : ∀ flag, isSwitch flag = true → args.contains flag = args'.contains flag := by
    intro flag h
    rw [Bool.eq_iff_iff, List.contains_iff_mem, List.contains_iff_mem, hswitches flag h]
  rw [read_eq, read_eq, hfind args, hfind args', hpaths, hflag _ (by decide), hflag _ (by decide)]

end GlBridge.Studio
