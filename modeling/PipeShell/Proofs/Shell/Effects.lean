import PipeShell.Proofs.Execution.Course
import PipeShell.Proofs.Plan.Scanning
import PipeShell.Proofs.Session.Readings

/-!
# What a line asks of its tools

A line asks its tools for texts and for processes. Asked of tools that keep a list, it can be seen
in which order. A line that is no pipeline asks for nothing. Every other line first asks for the
texts of all its stages, from left to right, and only then is it carried out: inside the shell,
which asks for nothing more, or by processes, which is one execution of all its stages.

Inside the shell runs what has exactly one stage, which has been resolved and whose first argument
names a built-in command. Redirections do not count as arguments.

## Main definitions

* `Effect`: one thing asked of the tools, with its answer
* `Tools.recorded`: tools that keep a list of what they are asked
* `Shell.effects`: what a line asks for
* `Shell.Calls`: the plans of a pipeline call a built-in command

## Main results

* `eval_recorded`: keeping the list changes nothing
* `effects_of_line`: texts come first, and then either a built-in command or processes
-/

namespace PipeShell

variable {β φ κ η α : Type}

/-- One thing that a line asks of its tools, with the answer: a text, or a step towards
processes. -/
inductive Effect (φ κ η : Type) where
  | text (delimiter : String) (answer : Except Errno κ)
  | step (action : Execution.Action φ κ η)

/-- The effects of asking for texts. -/
def Effect.ofText (asked : String × Except Errno κ) : Effect φ κ η := .text asked.1 asked.2

namespace World

/-- The same world, in which the tools besides keep a list. -/
def noting (list : List α) (w : World β) : World (β × List α) :=
  { machine := w.machine, log := (w.log, list) }

/-- The world without the list that its tools keep. -/
def bare (w : World (β × List α)) : World β := { machine := w.machine, log := w.log.1 }

@[simp] theorem machine_noting (list : List α) (w : World β) :
    (w.noting list).machine = w.machine :=
  rfl

@[simp] theorem snd_log_noting (list : List α) (w : World β) : (w.noting list).log.2 = list := rfl

@[simp] theorem bare_noting (list : List α) (w : World β) : (w.noting list).bare = w := rfl

/-- What is done to the machine leaves the list alone. -/
theorem onMachine_noting {γ : Type} (f : Machine → γ × Machine) (list : List α) (w : World β) :
    (w.noting list).onMachine f = ((w.onMachine f).1, (w.onMachine f).2.noting list) := rfl

end World

/-- The same builder, which besides lists what it is asked. -/
def Builder.noted (b : Builder (World β) φ κ η) :
    Builder (World (β × List (Effect φ κ η))) φ κ η where
  pipe w :=
    let (answer, after) := b.pipe w.bare
    (answer, after.noting (w.log.2 ++ [.step (.pipe answer)]))
  close fd w := (b.close fd w.bare).noting (w.log.2 ++ [.step (.close fd)])
  spawn l w :=
    let (answer, after) := b.spawn l w.bare
    (answer, after.noting (w.log.2 ++ [.step (.spawn l answer)]))
  wait h w :=
    let (answer, after) := b.wait h w.bare
    (answer, after.noting (w.log.2 ++ [.step (.wait h answer)]))

/-- The same tools, which besides list what they are asked. -/
def Tools.recorded (tools : Tools β φ κ η) : Tools (β × List (Effect φ κ η)) φ κ η where
  capture cwd delimiter w :=
    let (body, after) := tools.capture cwd delimiter w.bare
    (body, after.noting (w.log.2 ++ [.text delimiter body]))
  builder cwd := (tools.builder cwd).noted

open Execution in
/-- An execution lists its transcript, and nothing else is changed by it. -/
theorem execute_noted (b : Builder (World β) φ κ η)
    (plans : List (Except RedirectionError (Plan κ))) (w : World β) (list : List (Effect φ κ η)) :
    execute b.noted plans (w.noting list) =
      ((execute b plans w).1,
        (execute b plans w).2.noting (list ++ (transcript b plans w).map .step)) := by
  have hview : b.recorded.Views b.noted
      fun s => s.1.noting (list ++ s.2.map Effect.step) := by
    constructor <;> intros <;> simp [Builder.noted, Builder.recorded]
  obtain ⟨-, -, -, -, -, -, -, hrecorded⟩ := execute_recorded b w plans
  have := hview.execute plans (w, [])
  rw [hrecorded] at this
  simpa using this

/-- Resolving lists the texts that are asked for, and nothing else is changed by it. -/
theorem resolveAll_recorded_tools (tools : Tools β φ κ η) (cwd : Machine.NodeId)
    (commands : List (List String)) (w : World β) :
    ∃ scans : List (Plan.Scan κ), List.Forall₂ Plan.IsScanOf commands scans ∧
      (Plan.resolveAll (tools.capture cwd) commands w).1 = scans.map Plan.Scan.plan ∧
      Plan.resolveAll (tools.recorded.capture cwd) commands (w.noting []) =
        (scans.map Plan.Scan.plan, (Plan.resolveAll (tools.capture cwd) commands w).2.noting
          ((scans.flatMap Plan.Scan.asked).map .ofText)) := by
  obtain ⟨scans, hscans, hplans, hanswered⟩ :=
    Plan.resolveAll_answered (tools.capture cwd) commands w []
  have := @Plan.resolveAll_view _ _ _
    (fun s : World β × List (String × Except Errno κ) => s.1.noting (s.2.map Effect.ofText))
    (tools.capture cwd).answered (tools.recorded.capture cwd)
    (fun delimiter s => by simp [Tools.recorded, Capture.answered, Effect.ofText]) commands (w, [])
  rw [hanswered] at this
  exact ⟨scans, hscans, hplans, by simpa using this⟩

/-! ## Built-in commands -/

namespace Builtin

/-- The names of the built-in commands. -/
def names : List (String × Builtin) :=
  [("cd", .changeDirectory), ("exit", .leave), ("quit", .leave), ("help", .help)]

theorem ofName?_eq_some_iff (name : String) (b : Builtin) :
    ofName? name = some b ↔ (name, b) ∈ names := by
  unfold ofName?
  split
  · rename_i h
    subst h
    cases b <;> decide
  · split
    · rename_i h
      obtain rfl | rfl := h <;> cases b <;> decide
    · split
      · rename_i h
        subst h
        cases b <;> decide
      · simp_all [names]

end Builtin

namespace Shell

/-- The plans of a pipeline call a built-in command: there is one stage, it has been resolved, and
its first argument is the name of the command. -/
def Calls (plans : List (Except RedirectionError (Plan κ))) (b : Builtin) (plan : Plan κ) : Prop :=
  plans = [.ok plan] ∧ ∃ name, plan.args.head? = some name ∧ (name, b) ∈ Builtin.names

theorem builtinOf?_eq_some_iff (plans : List (Except RedirectionError (Plan κ))) (b : Builtin)
    (plan : Plan κ) : builtinOf? plans = some (b, plan) ↔ Calls plans b plan := by
  constructor
  · intro h
    unfold builtinOf? at h
    split at h
    · rename_i found
      obtain ⟨b', hb, heq⟩ := Option.map_eq_some_iff.mp h
      obtain ⟨rfl, rfl⟩ := Prod.mk.inj heq
      obtain ⟨name, hname, hof⟩ := Option.bind_eq_some_iff.mp hb
      exact ⟨rfl, name, hname, (Builtin.ofName?_eq_some_iff name b').mp hof⟩
    · cases h
  · rintro ⟨rfl, name, hname, hof⟩
    rw [← Builtin.ofName?_eq_some_iff] at hof
    simp [builtinOf?, Plan.program?, hname, hof]

/-- Where no built-in command is called, there is none to be found. -/
theorem builtinOf?_eq_none_iff (plans : List (Except RedirectionError (Plan κ))) :
    builtinOf? plans = none ↔ ∀ b plan, ¬ Calls plans b plan := by
  constructor
  · intro hnone b plan hcalls
    rw [(builtinOf?_eq_some_iff plans b plan).mpr hcalls] at hnone
    cases hnone
  · intro hcalls
    cases hfound : builtinOf? plans with
    | none => rfl
    | some found => exact absurd ((builtinOf?_eq_some_iff ..).mp hfound) (hcalls found.1 found.2)

section CarryOut

variable (tools : Tools β φ κ η) (shell : Shell) (w : World β)
  {plans : List (Except RedirectionError (Plan κ))}

/-- A call of a built-in command runs in the shell. -/
theorem carryOut_of_calls {b : Builtin} {plan : Plan κ} (h : Calls plans b plan) :
    Session.carryOut tools shell w plans = runBuiltin b plan shell w := by
  rw [Session.carryOut, (builtinOf?_eq_some_iff plans b plan).mpr h]

/-- All else is carried out by processes. -/
theorem carryOut_of_not_calls (h : ∀ b plan, ¬ Calls plans b plan) :
    Session.carryOut tools shell w plans = runProcesses tools plans shell w := by
  rw [Session.carryOut, (builtinOf?_eq_none_iff plans).mpr h]

/-- Plans call a built-in command or they do not. -/
theorem calls_or_not (plans : List (Except RedirectionError (Plan κ))) :
    (∃ b plan, Calls plans b plan) ∨ ∀ b plan, ¬ Calls plans b plan := by
  by_cases h : ∃ b plan, Calls plans b plan
  · exact .inl h
  · exact .inr fun b plan hcalls => h ⟨b, plan, hcalls⟩

end CarryOut

/-! ## Keeping a list -/

section Recording

variable (tools : Tools β φ κ η) (line : String) (shell : Shell) (w : World β)

/-- What a line asks of its tools, in order. -/
def effects : List (Effect φ κ η) := (shell.eval tools.recorded line (w.noting [])).2.2.log.2

variable {tools line shell w} in
/-- Printing asks nothing of the tools. -/
theorem printTo_noting (output : Option Nat) (bytes : Bytes) (list : List α) :
    printTo output bytes (w.noting list) =
      ((printTo output bytes w).1, (printTo output bytes w).2.noting list) := by
  cases output <;> rfl

/-- A built-in command asks nothing of the tools. -/
theorem runBuiltin_noting (b : Builtin) (plan : Plan κ) (list : List α) :
    runBuiltin b plan shell (w.noting list) =
      ((runBuiltin b plan shell w).1, (runBuiltin b plan shell w).2.1,
        (runBuiltin b plan shell w).2.2.noting list) := by
  unfold runBuiltin
  rw [World.onMachine_noting]
  rcases w.onMachine (Machine.openForBuiltin shell.cwd plan.bindings none) with ⟨_ | output, after⟩
  · rfl
  · have hrun : b.run after.machine.tree (printTo output) plan.args.tail shell (after.noting list) =
        ((b.run after.machine.tree (printTo output) plan.args.tail shell after).1,
          (b.run after.machine.tree (printTo output) plan.args.tail shell after).2.1,
          (b.run after.machine.tree (printTo output) plan.args.tail
            shell after).2.2.noting list) := by
      cases b with
      | help => simp [Builtin.run, printTo_noting]
      | _ => rfl
    simp only [World.machine_noting, hrun]
    rcases b.run after.machine.tree (printTo output) plan.args.tail shell after with
      ⟨_ | _ | _, shell', after'⟩ <;> rfl

/-- Processes are asked for by one execution. -/
theorem runProcesses_recorded (plans : List (Except RedirectionError (Plan κ)))
    (list : List (Effect φ κ η)) :
    runProcesses tools.recorded plans shell (w.noting list) =
      ((runProcesses tools plans shell w).1, (runProcesses tools plans shell w).2.1,
        (runProcesses tools plans shell w).2.2.noting (list ++
          (Execution.transcript (tools.builder shell.cwd) plans w).map .step)) := by
  have hexecute := execute_noted (tools.builder shell.cwd) plans w list
  unfold runProcesses
  simp only [Tools.recorded] at hexecute ⊢
  rw [hexecute]
  rcases execute (tools.builder shell.cwd) plans w with ⟨_ | statuses, after⟩ <;> rfl

/-- A line that is no pipeline is not carried out. -/
theorem eval_of_parse_eq_error {e : ParseError} (h : shell.parse w.machine line = .error e) :
    shell.eval tools line w = (.error (.parse e), shell, w) := by
  rw [eval, h]

/-- A line that is a pipeline is resolved, and then carried out. -/
theorem eval_of_parse_eq_ok {pipeline : Pipeline} (h : shell.parse w.machine line = .ok pipeline) :
    shell.eval tools line w =
      Session.carryOut tools shell
        (Plan.resolveAll (tools.capture shell.cwd) pipeline.commands w).2
        (Plan.resolveAll (tools.capture shell.cwd) pipeline.commands w).1 := by
  rw [eval, h]
  rfl

/-- A line that is a pipeline is carried out in the same way when a list is kept, which then begins
with the texts of its stages. -/
theorem eval_recorded_eq_carryOut {pipeline : Pipeline}
    (h : shell.parse w.machine line = .ok pipeline) :
    ∃ (scans : List (Plan.Scan κ)) (resolved : World β),
      List.Forall₂ Plan.IsScanOf pipeline.commands scans ∧
      Plan.resolveAll (tools.capture shell.cwd) pipeline.commands w =
        (scans.map Plan.Scan.plan, resolved) ∧
      shell.eval tools line w =
        Session.carryOut tools shell resolved (scans.map Plan.Scan.plan) ∧
      shell.eval tools.recorded line (w.noting []) =
        Session.carryOut tools.recorded shell
          (resolved.noting ((scans.flatMap Plan.Scan.asked).map .ofText))
          (scans.map Plan.Scan.plan) := by
  obtain ⟨scans, hscans, hplans, hrecorded⟩ :=
    resolveAll_recorded_tools tools shell.cwd pipeline.commands w
  refine ⟨scans, _, hscans, Prod.ext hplans rfl, ?_, ?_⟩
  · rw [eval_of_parse_eq_ok tools line shell w h, hplans]
  · rw [eval_of_parse_eq_ok tools.recorded line shell (w.noting []) h, hrecorded]

/-- **Keeping the list changes nothing.** -/
theorem eval_recorded :
    shell.eval tools.recorded line (w.noting []) =
      ((shell.eval tools line w).1, (shell.eval tools line w).2.1,
        (shell.eval tools line w).2.2.noting (shell.effects tools line w)) := by
  rw [effects]
  cases hparse : shell.parse w.machine line with
  | error e =>
    rw [eval_of_parse_eq_error tools line shell w hparse,
      eval_of_parse_eq_error tools.recorded line shell (w.noting []) hparse]
    rfl
  | ok pipeline =>
    obtain ⟨scans, resolved, -, -, heval, hrecorded⟩ :=
      eval_recorded_eq_carryOut tools line shell w hparse
    rw [heval, hrecorded]
    obtain ⟨b, plan, hcalls⟩ | hcalls := calls_or_not (scans.map Plan.Scan.plan)
    · rw [carryOut_of_calls _ _ _ hcalls, carryOut_of_calls _ _ _ hcalls, runBuiltin_noting]
      rfl
    · rw [carryOut_of_not_calls _ _ _ hcalls, carryOut_of_not_calls _ _ _ hcalls,
        runProcesses_recorded]
      rfl

/-- **Texts come first, and then either a built-in command or processes.** Keeping a list of what is
asked changes nothing. A line that is no pipeline asks for nothing and changes nothing. Every other
line asks for the texts of its stages, stage by stage and in each stage in the order in which they
are written, up to the first that is refused. Then, if there is exactly one stage, which has been
resolved and whose first argument is the name of a built-in command, this command runs in the shell,
and nothing more is asked for. Otherwise the plans of all stages, resolved or not, are carried out
by one execution. -/
theorem effects_of_line :
    shell.eval tools.recorded line (w.noting []) =
      ((shell.eval tools line w).1, (shell.eval tools line w).2.1,
        (shell.eval tools line w).2.2.noting (shell.effects tools line w)) ∧
    (∀ e, shell.parse w.machine line = .error e →
      shell.effects tools line w = [] ∧ shell.eval tools line w = (.error (.parse e), shell, w)) ∧
    ∀ pipeline, shell.parse w.machine line = .ok pipeline →
      ∃ (scans : List (Plan.Scan κ)) (resolved : World β),
        List.Forall₂ Plan.IsScanOf pipeline.commands scans ∧
        Plan.resolveAll (tools.capture shell.cwd) pipeline.commands w =
          (scans.map Plan.Scan.plan, resolved) ∧
        ((∃ b plan, Calls (scans.map Plan.Scan.plan) b plan ∧
            shell.effects tools line w = (scans.flatMap Plan.Scan.asked).map .ofText ∧
            shell.eval tools line w = runBuiltin b plan shell resolved) ∨
          (∀ b plan, ¬ Calls (scans.map Plan.Scan.plan) b plan) ∧
            shell.effects tools line w =
              (scans.flatMap Plan.Scan.asked).map .ofText ++
                (Execution.transcript (tools.builder shell.cwd) (scans.map Plan.Scan.plan)
                  resolved).map .step ∧
            shell.eval tools line w =
              runProcesses tools (scans.map Plan.Scan.plan) shell resolved) := by
  refine ⟨eval_recorded tools line shell w, ?_, ?_⟩
  · intro e h
    refine ⟨?_, eval_of_parse_eq_error tools line shell w h⟩
    rw [effects, eval_of_parse_eq_error tools.recorded line shell (w.noting []) h]
    rfl
  · intro pipeline h
    obtain ⟨scans, resolved, hscans, hresolve, heval, hrecorded⟩ :=
      eval_recorded_eq_carryOut tools line shell w h
    refine ⟨scans, resolved, hscans, hresolve, ?_⟩
    rw [effects, heval, hrecorded]
    obtain ⟨b, plan, hcalls⟩ | hcalls := calls_or_not (scans.map Plan.Scan.plan)
    · refine .inl ⟨b, plan, hcalls, ?_, carryOut_of_calls tools shell resolved hcalls⟩
      rw [carryOut_of_calls _ _ _ hcalls, runBuiltin_noting]
      rfl
    · refine .inr ⟨hcalls, ?_, carryOut_of_not_calls tools shell resolved hcalls⟩
      rw [carryOut_of_not_calls _ _ _ hcalls, runProcesses_recorded]
      rfl

end Recording

end Shell

end PipeShell
