import PipeShell.Machine.Layout
import PipeShell.Proofs.Concurrency.Soundness

/-!
# The standard streams of a stage

A process that is about to become its program has the streams that its place in the pipeline and its
own bindings give it: the last binding of a stream counts before the conduit, and the conduit before
what the shell had. No other number of its table leads to a conduit. The shell may know the ends of
its pipes by any unused numbers, and a process may open its files under any (`adopt_eq_place`).

## Main results

* `streams_of_program`: the descriptors of a process that is about to become its program
-/

namespace PipeShell.Machine.System

open Execution

variable {cwd : NodeId} {plans : List (Except RedirectionError (Plan Nat))} {initial : Machine}
  {s : System}

/-- **The streams of a program.** Whatever was done in whatever order, and whatever was refused to
the shell: a process that has carried out all its bindings, and is about to become its program, is
that of a stage of the pipeline. Its standard input is the file of the last binding of it, or else
the reading end of the conduit in front of its stage, which there is unless the stage is the first,
or else what the shell had; its standard output is the file of the last binding of it, or else the
writing end of the conduit behind its stage, which there is unless the stage is the last, or else
what the shell had; its standard error is that of the shell. No other of its numbers leads to a
conduit. -/
theorem streams_of_program (hinitial : initial.WellFormed)
    (hopen : ∀ fd ≤ 2, (initial.descriptors.get? fd).isSome = true)
    (hplans : ∀ plan, .ok plan ∈ plans → plan.IsReady initial)
    (hreaches : Reaches cwd plans initial s) {pid : Nat} {b : Beginning}
    {p : Process} {plan : Plan Nat} (hbeginning : s.beginnings pid = some b)
    (hprocess : s.machine.processes[pid]? = some p) (hrunning : p.IsRunning)
    (hplan : b.launch.plan = .ok plan) (hleft : b.left = []) (hpending : b.pending = []) :
    plans[b.launch.stage]? = some (.ok plan) ∧
    b.bound.map Bound.binding = plan.bindings ∧ (∀ x ∈ b.bound, (x.file? cwd).isSome = true) ∧
    p.descriptors.get? 0 = (lastBound cwd 0 b.bound).or
      ((readerBefore s.conduits b.launch.stage).or (initial.descriptors.get? 0)) ∧
    p.descriptors.get? 1 = (lastBound cwd 1 b.bound).or
      ((writerBehind s.conduits b.launch.stage).or (initial.descriptors.get? 1)) ∧
    p.descriptors.get? 2 = initial.descriptors.get? 2 ∧
    ((readerBefore s.conduits b.launch.stage).isSome = true ↔ 0 < b.launch.stage) ∧
    ((writerBehind s.conduits b.launch.stage).isSome = true ↔ b.launch.stage + 1 < plans.length) ∧
    (∀ c ∈ s.conduits, s.machine.target? c.reader = some (.reader c.pipe) ∧
      s.machine.target? c.writer = some (.writer c.pipe)) ∧
    ∀ e ∈ p.descriptors.entries, 1 < e.1 → ¬ s.IsEnd e.2 := by
  have hsound : s.Sound cwd plans initial := .of_reaches hinitial hopen hplans hreaches
  obtain ⟨hstage, hle, hlt, hbindings, hsome, hzero, hone, htwo, hapart⟩ :=
    hsound.begun pid b p hbeginning hprocess hrunning
  rw [hleft] at hzero hone htwo hapart
  rw [hpending, List.append_nil, hplan] at hbindings
  refine ⟨hplan ▸ hstage, hbindings, hsome, hzero, hone, htwo, ⟨?_, fun hpos => ?_⟩, ?_, ?_, ?_⟩
  · intro hreader
    refine Nat.pos_of_ne_zero fun hfirst => ?_
    rw [hfirst] at hreader
    cases hreader
  · exact readerBefore_isSome hpos hle
  · exact writerBehind_isSome_iff.trans hlt
  · exact fun c hc => ⟨hsound.grounded.reader_eq c hc, hsound.grounded.writer_eq c hc⟩
  · exact fun e he habove => (hapart e he habove).2

/-! ## A trial -/

/-- The shell of the trial has three streams and one captured text. -/
def trialMachine : Machine :=
  let streams := (((onTree .bare []).openStream 0 #[]).openStream 1 #[]).openStream 2 #[]
  (streams.openNameless #[116, 101, 120, 116]).2

/-- The first of two stages reads the captured text. -/
def trialPlans : List (Except RedirectionError (Plan Nat)) :=
  [.ok ⟨["cat"], [⟨0, .captured 3, ⟨.heredoc, "EOF"⟩⟩]⟩, .ok ⟨["cat"], []⟩]

theorem wellFormed_trialMachine : trialMachine.WellFormed := .of_files (by decide) (by decide)

theorem isSome_get?_trialMachine :
    ∀ fd ≤ 2, (trialMachine.descriptors.get? fd).isSome = true := by
  decide

theorem isReady_trialPlans : ∀ plan, .ok plan ∈ trialPlans → plan.IsReady trialMachine := by
  intro plan hmem
  rcases List.mem_cons.mp hmem with hplan | hplan
  · cases hplan
    intro binding hbinding
    obtain rfl := List.mem_singleton.mp hbinding
    exact ⟨Nat.zero_le 1, fun body hbody => by cases hbody; decide⟩
  · cases List.mem_singleton.mp hplan
    exact fun binding hbinding => absurd hbinding List.not_mem_nil

/-- When the shell of the trial has made the pipe, under the numbers 3 and 4, and has started the
first process, and this has come to its program, its standard input is the captured text and its
standard output the writing end of the pipe. -/
theorem streams_of_program_trial :
    ∃ (s : System) (p : Process), Reaches FileTree.root trialPlans trialMachine s ∧
      s.machine.processes[0]? = some p ∧ p.descriptors.get? 0 = some 3 ∧
      (∃ file, p.descriptors.get? 1 = some file ∧ s.machine.target? file = some (.writer 0)) ∧
      p.descriptors.get? 2 = some 2 ∧ ∀ e ∈ p.descriptors.entries, 1 < e.1 → ¬ s.IsEnd e.2 := by
  have h : Reaches FileTree.root trialPlans trialMachine (start trialPlans trialMachine) := .refl
  replace h := h.tail (@Step.pipe FileTree.root _ _ 3 4 rfl rfl rfl (by decide))
  replace h := h.tail (@Step.spawn FileTree.root _ _ _ rfl)
  -- Three changes on account of the pipe, and one binding.
  replace h := h.tail (@Step.advance FileTree.root _ 0 _ _ rfl rfl ⟨_, rfl⟩)
  replace h := h.tail (@Step.advance FileTree.root _ 0 _ _ rfl rfl ⟨_, rfl⟩)
  replace h := h.tail (@Step.advance FileTree.root _ 0 _ _ rfl rfl ⟨_, rfl⟩)
  replace h := h.tail (@Step.advance FileTree.root _ 0 _ _ rfl rfl ⟨_, rfl⟩)
  obtain ⟨-, -, -, hzero, hone, htwo, -, -, hconduits, hapart⟩ :=
    @streams_of_program _ _ _ _ wellFormed_trialMachine isSome_get?_trialMachine isReady_trialPlans
      h 0 _ _ _ rfl rfl ⟨_, rfl⟩ rfl rfl rfl
  exact ⟨_, _, h, rfl, hzero, ⟨_, hone, (hconduits _ List.mem_cons_self).2⟩, htwo, hapart⟩

end PipeShell.Machine.System
