import PipeShell.Proofs.Execution.Report
import PipeShell.Proofs.Plan.Names
import PipeShell.Proofs.Shell.Effects

/-!
# What a line changes in the shell

A line changes the shell in one of four ways. If it fails, or makes the shell leave, it changes
nothing. If the shell goes on, the status becomes that of the line. And a `cd` of a single stage,
with exactly one argument and with redirections that can all be opened, besides moves the shell to
another directory. Nothing else moves it, and nothing changes its settings.

The status of a pipeline is that of its last stage, whatever became of the others.

## Main definitions

* `Shell.Becomes`: the ways in which a line can change the shell
* `Shell.Moves`: a line moves the shell to a directory

## Main results

* `becomes_eval`: a line changes the shell in one of these ways
* `line_changes`: what a line changes, by what came of it
-/

namespace PipeShell

variable {β φ κ η : Type}

/-! ## Pipelines are not empty -/

theorem Pipeline.commands_ne_nil {expand : String → List String} {line : String} {p : Pipeline}
    (h : ofLine? expand line = .ok p) : p.commands ≠ [] := by
  rw [(ofLine?_eq_ok_iff.mp h).2]
  simp [Text.splitAt, Text.pieces_ne_nil]

/-- Where there is one plan, there is one command. -/
theorem Plan.resolve_of_resolveAll_eq_singleton {σ : Type} {capture : Capture σ κ}
    {commands : List (List String)} {s : σ} {plan : Except RedirectionError (Plan κ)}
    (h : (resolveAll capture commands s).1 = [plan]) :
    ∃ words, commands = [words] ∧
      resolve capture words s = (plan, (resolveAll capture commands s).2) := by
  obtain _ | ⟨words, _ | ⟨next, rest⟩⟩ := commands
  · cases h
  · exact ⟨words, rfl, Prod.ext (List.cons.inj h).1 rfl⟩
  · cases (List.cons.inj h).2

/-- There is one plan for each command. -/
theorem Plan.length_resolveAll {σ : Type} (capture : Capture σ κ) (commands : List (List String))
    (s : σ) : (resolveAll capture commands s).1.length = commands.length := by
  induction commands generalizing s with
  | nil => rfl
  | cons words rest ih => simp [resolveAll, ih]

namespace Shell

/-- The ways in which a shell can be changed, with what came of it. Where it can be moved to is left
open. -/
inductive Becomes (shell : Shell) (moved : Machine.NodeId → Prop) :
    Except EvalError Flow → Shell → Prop
  | fails (e) : Becomes shell moved (.error e) shell
  | leaves (code) : Becomes shell moved (.ok (.leave code)) shell
  | goesOn (status) : Becomes shell moved (.ok (.goOn status)) { shell with lastStatus := status }
  | moves {cwd} (entered : moved cwd) :
    Becomes shell moved (.ok (.goOn 0)) { shell with lastStatus := 0, cwd }

/-- The shell is moved by a `cd` with exactly one argument whose redirections can all be opened. -/
def MovedBy (b : Builtin) (plan : Plan κ) (shell : Shell) (w : World β) (cwd : Machine.NodeId) :
    Prop :=
  b = .changeDirectory ∧ ∃ path output opened, plan.args.tail = [path] ∧
    w.onMachine (Machine.openForBuiltin shell.cwd plan.bindings none) = (.ok output, opened) ∧
    Builtin.enter opened.machine.tree shell.cwd path = .ok cwd

/-- A line moves the shell to a directory: it is a pipeline of one stage, its arguments are `cd` and
one path, its redirections can all be opened, and the path leads to the directory. -/
def Moves (tools : Tools β φ κ η) (line : String) (shell : Shell) (w : World β)
    (cwd : Machine.NodeId) : Prop :=
  ∃ words plan path resolved output opened,
    shell.parse w.machine line = .ok ⟨[words]⟩ ∧
    Plan.resolve (tools.capture shell.cwd) words w = (.ok plan, resolved) ∧
    plan.args = ["cd", path] ∧
    resolved.onMachine (Machine.openForBuiltin shell.cwd plan.bindings none) =
      (.ok output, opened) ∧
    Builtin.enter opened.machine.tree shell.cwd path = .ok cwd

section Becomes

variable (tools : Tools β φ κ η) (line : String) (shell : Shell) (w : World β)

theorem Becomes.imp {shell after : Shell} {moved moved' : Machine.NodeId → Prop}
    {result : Except EvalError Flow} (h : Becomes shell moved result after)
    (himp : ∀ cwd, moved cwd → moved' cwd) : Becomes shell moved' result after := by
  cases h with
  | fails e => exact .fails e
  | leaves code => exact .leaves code
  | goesOn status => exact .goesOn status
  | moves entered => exact .moves (himp _ entered)

/-- A shell that does not go on is as it was, one that goes on has the status of its line and its
settings, and one that has been moved goes on with status 0. -/
theorem Becomes.by_result {shell after : Shell} {moved : Machine.NodeId → Prop}
    {result : Except EvalError Flow} (h : Becomes shell moved result after) :
    (∀ e, result = .error e → after = shell) ∧
      (∀ code, result = .ok (.leave code) → after = shell) ∧
      (∀ status, result = .ok (.goOn status) →
        after.lastStatus = status ∧ after.settings = shell.settings) ∧
      (after.cwd ≠ shell.cwd → moved after.cwd ∧ result = .ok (.goOn 0)) := by
  cases h with
  | fails e => exact ⟨fun _ _ => rfl, nofun, nofun, fun hmoved => absurd rfl hmoved⟩
  | leaves code => exact ⟨nofun, fun _ _ => rfl, nofun, fun hmoved => absurd rfl hmoved⟩
  | goesOn status =>
    refine ⟨nofun, nofun, ?_, fun hmoved => absurd rfl hmoved⟩
    rintro _ ⟨⟩
    exact ⟨rfl, rfl⟩
  | moves entered =>
    refine ⟨nofun, nofun, ?_, fun _ => ⟨entered, rfl⟩⟩
    rintro _ ⟨⟩
    exact ⟨rfl, rfl⟩

/-- A built-in command changes the shell only where it moves it. -/
theorem run_eq_or_moves (b : Builtin) (tree : Machine.FileTree)
    (print : Bytes → World β → Bool × World β)
    (args : List String) :
    (b.run tree print args shell w).2.1 = shell ∨
      ∃ path cwd, b = .changeDirectory ∧ args = [path] ∧
        Builtin.enter tree shell.cwd path = .ok cwd ∧
        b.run tree print args shell w = (.ok (.goOn 0), { shell with cwd }, w) := by
  cases b with
  | leave => exact .inl rfl
  | help => exact .inl rfl
  | changeDirectory =>
    rcases args with _ | ⟨path, _ | ⟨next, rest⟩⟩
    · exact .inl rfl
    · cases henter : Builtin.enter tree shell.cwd path with
      | error cause => exact .inl (by simp [Builtin.run, Builtin.runChangeDirectory, henter])
      | ok cwd =>
        exact .inr ⟨path, cwd, rfl, rfl, henter,
          by simp [Builtin.run, Builtin.runChangeDirectory, henter]⟩
    · exact .inl rfl

/-- What a built-in command can make of the shell. -/
theorem becomes_runBuiltin (b : Builtin) (plan : Plan κ) :
    Becomes shell (MovedBy b plan shell w) (runBuiltin b plan shell w).1
      (runBuiltin b plan shell w).2.1 := by
  unfold runBuiltin
  rcases hopen : w.onMachine (Machine.openForBuiltin shell.cwd plan.bindings none) with
    ⟨e | output, opened⟩
  · exact .fails _
  · obtain hsame | ⟨path, cwd, rfl, hargs, henter, hrun⟩ :=
      run_eq_or_moves shell opened b opened.machine.tree (printTo output) plan.args.tail
    · dsimp only
      rcases hrun : b.run opened.machine.tree (printTo output) plan.args.tail shell opened with
        ⟨e | status | code, after, w'⟩
      all_goals
        rw [hrun] at hsame
        obtain rfl : after = shell := hsame
      · exact .fails _
      · exact .goesOn status
      · exact .leaves code
    · simp only [hrun]
      exact .moves ⟨rfl, path, output, opened, hargs, hopen, henter⟩

/-- Processes change nothing of the shell but its status. -/
theorem becomes_runProcesses (plans : List (Except RedirectionError (Plan κ))) :
    Becomes shell (fun _ => False) (runProcesses tools plans shell w).1
      (runProcesses tools plans shell w).2.1 := by
  unfold runProcesses
  split
  · exact .fails _
  · exact .goesOn _

/-- **A line changes the shell in one of four ways.** -/
theorem becomes_eval :
    Becomes shell (Moves tools line shell w) (shell.eval tools line w).1
      (shell.eval tools line w).2.1 := by
  cases hparse : shell.parse w.machine line with
  | error e =>
    rw [eval_of_parse_eq_error tools line shell w hparse]
    exact .fails _
  | ok pipeline =>
    rw [eval_of_parse_eq_ok tools line shell w hparse]
    obtain ⟨b, plan, hcalls⟩ | hcalls := calls_or_not
      (Plan.resolveAll (tools.capture shell.cwd) pipeline.commands w).1
    · rw [carryOut_of_calls _ _ _ hcalls]
      refine (becomes_runBuiltin shell _ b plan).imp ?_
      rintro cwd ⟨rfl, path, output, opened, htail, hopen, henter⟩
      -- The one plan is that of the one stage, and its first argument can only be `cd`.
      obtain ⟨hplans, name, hname, hnames⟩ := hcalls
      obtain ⟨words, hcommands, hresolve⟩ := Plan.resolve_of_resolveAll_eq_singleton hplans
      obtain rfl : name = "cd" := by simpa [Builtin.names] using hnames
      refine ⟨words, plan, path, _, output, opened, ?_, hresolve, ?_, hopen, henter⟩
      · rw [hparse, ← hcommands]
      · rw [← List.cons_head?_tail hname, htail]
    · rw [carryOut_of_not_calls _ _ _ hcalls]
      exact (becomes_runProcesses tools shell _ _).imp fun _ => False.elim

/-- **The last stage decides the status**: what is carried out by processes ends with the code of
the ending of the process of its last stage. -/
theorem status_of_runProcesses {plans : List (Except RedirectionError (Plan κ))} {status : Int}
    (hplans : plans ≠ [])
    (h : (runProcesses tools plans shell w).1 = .ok (.goOn status)) :
    ∃ ending, Execution.EndedWith (tools.builder shell.cwd) plans w (plans.length - 1)
      (.ok ending) ∧
      status = ending.code := by
  unfold runProcesses at h
  rcases hexecute : execute (tools.builder shell.cwd) plans w with ⟨e | statuses, after⟩
  · rw [hexecute] at h
    cases h
  · rw [hexecute] at h
    obtain rfl : statusOf statuses = status := Flow.goOn.inj (Except.ok.inj h)
    obtain ⟨hlength, hended⟩ :=
      Execution.endedWith_of_execute_eq_ok (congrArg Prod.fst hexecute)
    -- There is a last stage, so there is a last ending.
    have hpos : plans.length - 1 < statuses.length := by
      have := List.length_pos_iff.mpr hplans
      omega
    refine ⟨statuses[plans.length - 1], hended _ _ (List.getElem?_eq_getElem hpos), ?_⟩
    have hlast : statuses.getLast? = some statuses[plans.length - 1] := by
      rw [List.getLast?_eq_getElem?, hlength, List.getElem?_eq_getElem hpos]
    simp [statusOf, hlast]

end Becomes

/-- **What a line changes.** If it fails, or makes the shell leave, the shell is as it was. If the
shell goes on, the status is that of the line and the settings are as they were; and for a pipeline
carried out by processes it is the code of the ending of the last stage. The shell stands in another
directory only if the line is a `cd` of one stage with exactly one argument, whose redirections
could all be opened and which succeeded. -/
theorem line_changes (tools : Tools β φ κ η) (line : String) (shell : Shell) (w : World β) :
    (∀ e, (shell.eval tools line w).1 = .error e → (shell.eval tools line w).2.1 = shell) ∧
    (∀ code, (shell.eval tools line w).1 = .ok (.leave code) →
      (shell.eval tools line w).2.1 = shell) ∧
    (∀ status, (shell.eval tools line w).1 = .ok (.goOn status) →
      (shell.eval tools line w).2.1.lastStatus = status ∧
      (shell.eval tools line w).2.1.settings = shell.settings) ∧
    (∀ pipeline plans resolved status, shell.parse w.machine line = .ok pipeline →
      Plan.resolveAll (tools.capture shell.cwd) pipeline.commands w = (plans, resolved) →
      (∀ b plan, ¬ Calls plans b plan) →
      (shell.eval tools line w).1 = .ok (.goOn status) →
        plans.length = pipeline.length ∧
        ∃ ending, Execution.EndedWith (tools.builder shell.cwd) plans resolved
            (pipeline.length - 1) (.ok ending) ∧
          status = ending.code) ∧
    ((shell.eval tools line w).2.1.cwd ≠ shell.cwd →
      Moves tools line shell w (shell.eval tools line w).2.1.cwd ∧
      (shell.eval tools line w).1 = .ok (.goOn 0)) := by
  obtain ⟨hfails, hleaves, hgoesOn, hmoves⟩ := (becomes_eval tools line shell w).by_result
  refine ⟨hfails, hleaves, hgoesOn, ?_, hmoves⟩
  intro pipeline plans resolved status hparse hresolve hcalls h
  rw [eval_of_parse_eq_ok tools line shell w hparse, hresolve,
    carryOut_of_not_calls _ _ _ hcalls] at h
  have hlength : plans.length = pipeline.length := by
    rw [Pipeline.length, ← Plan.length_resolveAll (tools.capture shell.cwd) pipeline.commands w,
      hresolve]
  have hplans : plans ≠ [] := by
    rw [← List.length_pos_iff, hlength]
    exact List.length_pos_iff.mpr (Pipeline.commands_ne_nil hparse)
  rw [← hlength]
  exact ⟨rfl, status_of_runProcesses tools shell resolved hplans h⟩

end Shell

end PipeShell
