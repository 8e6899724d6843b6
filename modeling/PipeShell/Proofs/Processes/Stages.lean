import PipeShell.Machine.Layout
import PipeShell.Proofs.Execution.Independence
import PipeShell.Proofs.Execution.Report
import PipeShell.Proofs.Processes.Ending

/-!
# What becomes of the stages of a pipeline

Each stage has a process of its own. It departs from the shell in one of the seven ways, ends, and
is waited for, and the status that is collected for its stage is how this process has ended.
Whatever the plan of one stage is, the others are started in the same way: they have the same pipe
ends under the same numbers, and the same processes.

## Main definitions

* `Alike`: two machines on which a shell gets the same numbers for what it asks for
* `Starts`: what starting a process comes to
* `IsSpent`, `IsStuck`: the processes have taken all their turns, or could not take a step
* `Ends`: what has become of a process when it is waited for

## Main results

* `ignores_builder`: the plans make no difference to the numbers that a shell gets
* `stage_ends`: what becomes of the process of a stage, and that the others are left alone
-/

namespace PipeShell.Machine

open Execution

/-! ## Numbers -/

/-- The numbers in use. -/
def Descriptors.numbers (d : Descriptors) : List Nat := d.entries.map Prod.fst

namespace Descriptors

variable {d d' : Descriptors}

@[simp] theorem numbers_place (d : Descriptors) (fd file : Nat) :
    (d.place fd file).numbers = fd :: d.numbers.filter (· != fd) := by
  simp [numbers, place, List.filter_map, Function.comp_def]

@[simp] theorem numbers_drop (d : Descriptors) (fd : Nat) :
    (d.drop fd).numbers = d.numbers.filter (· != fd) := by
  simp [numbers, drop, List.filter_map, Function.comp_def]

theorem isSome_get?_congr (h : d'.numbers = d.numbers) (fd : Nat) :
    (d'.get? fd).isSome = (d.get? fd).isSome := by
  unfold get?
  rw [Bool.eq_iff_iff, lookup_isSome_iff, lookup_isSome_iff]
  unfold numbers at h
  rw [h]

/-- The least unused number depends on the numbers in use. -/
theorem vacancy_congr (h : d'.numbers = d.numbers) : d'.vacancy = d.vacancy := by
  have hlength : d'.entries.length = d.entries.length := by
    simpa [numbers] using congrArg List.length h
  have hfrom : ∀ tries fd, d'.vacancyFrom tries fd = d.vacancyFrom tries fd := by
    intro tries
    induction tries with
    | zero => exact fun _ => rfl
    | succ tries ih =>
      intro fd
      rw [vacancyFrom, vacancyFrom, isSome_get?_congr h, ih]
  rw [vacancy, vacancy, hlength, hfrom]

/-- The numbers in use depend on the numbers that were in use. -/
theorem numbers_insertLeast (h : d'.numbers = d.numbers) (file file' : Nat) :
    (d'.insertLeast file').2.numbers = (d.insertLeast file).2.numbers := by
  rw [insertLeast, insertLeast, numbers_place, numbers_place, vacancy_congr h, h]

end Descriptors

/-- The shell uses the same numbers on both machines, and there are as many processes. -/
structure Alike (m m' : Machine) : Prop where
  numbers_eq : m'.descriptors.numbers = m.descriptors.numbers
  size_eq : m'.processes.size = m.processes.size

/-- The numbers of a new pipe are those of its place in the table. -/
theorem Alike.pipe {m m' : Machine} (h : m.Alike m') :
    m'.pipe.1 = m.pipe.1 ∧ m.pipe.2.Alike m'.pipe.2 := by
  have hreader := Descriptors.numbers_insertLeast h.numbers_eq m.files.size m'.files.size
  refine ⟨Prod.ext (Descriptors.vacancy_congr h.numbers_eq) (Descriptors.vacancy_congr hreader), ?_,
    h.size_eq⟩
  exact Descriptors.numbers_insertLeast hreader _ _

/-- A new process is the next one, and the shell's own table is left alone. -/
theorem spawn_leaves (cwd : NodeId) (l : Launch Nat Nat) (m : Machine) :
    (spawn cwd l m).1 = m.processes.size ∧ (spawn cwd l m).2.descriptors = m.descriptors ∧
      (spawn cwd l m).2.processes.size = m.processes.size + 1 := by
  obtain ⟨carried, d₁, m₁, program, said, hdeparts⟩ := exists_departs cwd l m.descriptors m
  obtain ⟨hspawn, hgrows⟩ := spawn_of_departs hdeparts
  rw [hspawn]
  exact ⟨rfl, hgrows.descriptors_eq, by simp [addProcess, hgrows.processes_eq]⟩

theorem Alike.spawn {m m' : Machine} (h : m.Alike m') (cwd : NodeId) (l l' : Launch Nat Nat) :
    (Machine.spawn cwd l' m').1 = (Machine.spawn cwd l m).1 ∧
      (Machine.spawn cwd l m).2.Alike (Machine.spawn cwd l' m').2 := by
  obtain ⟨hpid, hdescriptors, hsize⟩ := spawn_leaves cwd l m
  obtain ⟨hpid', hdescriptors', hsize'⟩ := spawn_leaves cwd l' m'
  refine ⟨?_, ?_, ?_⟩
  · rw [hpid, hpid', h.size_eq]
  · rw [hdescriptors, hdescriptors', h.numbers_eq]
  · rw [hsize, hsize', h.size_eq]

theorem Alike.close {m m' : Machine} (h : m.Alike m') (fd : Nat) :
    Alike { m with descriptors := m.descriptors.drop fd }
      { m' with descriptors := m'.descriptors.drop fd } := by
  refine ⟨?_, h.size_eq⟩
  show (m'.descriptors.drop fd).numbers = (m.descriptors.drop fd).numbers
  rw [Descriptors.numbers_drop, Descriptors.numbers_drop, h.numbers_eq]

/-- **The plans make no difference** to the numbers that a shell gets for pipe ends and
processes. -/
theorem ignores_builder (cwd : NodeId) : (builder cwd).Ignores Alike where
  pipe _ _ h := ⟨congrArg Except.ok h.pipe.1, h.pipe.2⟩
  close fd _ _ h := h.close fd
  spawn l l' _ _ _ h := ⟨congrArg Except.ok (h.spawn cwd l l').1, (h.spawn cwd l l').2⟩

/-! ## What an execution does on a machine -/

/-- What a shell asks for is done on the machine, which refuses nothing but a wait. -/
theorem later_of_does {cwd : NodeId} {m m' : Machine} {a : Action Nat Nat Nat}
    (h : Does (builder cwd) m a m') : Later cwd m m' ∧ a.fault? = none := by
  cases h with
  | pipe => exact ⟨.single (.pipe m), rfl⟩
  | close fd => exact ⟨.single (.close m fd), rfl⟩
  | spawn l => exact ⟨.single (.spawn m l), rfl⟩
  | wait pid => exact ⟨later_wait cwd pid m, rfl⟩

theorem later_of_runs {cwd : NodeId} {m m' : Machine} {actions : List (Action Nat Nat Nat)}
    (h : Runs (builder cwd) m actions m') : Later cwd m m' := by
  induction h with
  | done => exact .refl
  | next does _ ih => exact (later_of_does does).1.trans ih

theorem fault?_of_runs {cwd : NodeId} {m m' : Machine} {actions : List (Action Nat Nat Nat)}
    (h : Runs (builder cwd) m actions m') : ∀ a ∈ actions, a.fault? = none := by
  induction h with
  | done => simp
  | next does _ ih =>
    intro a ha
    rcases List.mem_cons.mp ha with rfl | ha
    · exact (later_of_does does).2
    · exact ih a ha

/-! ## The process of a stage -/

/-- What starting a process for a launch comes to: it carries out the bindings that it carries out,
and goes on with the program of its verdict, once it has said what it has to say. This is said once
on standard error, and no other file is touched. -/
structure Starts (cwd : NodeId) (l : Launch Nat Nat) (before after : Machine)
    (carried : List (Binding Nat)) (d₁ : Descriptors) (m₁ : Machine) (program : Program)
    (said : Option String) : Prop where
  departs : Departs cwd l before.descriptors before carried d₁ m₁ program said
  runs : ∃ p, after.processes = before.processes.push p ∧ p.descriptors = d₁ ∧ p.cwd = cwd ∧
    p.image = .running (reported d₁ m₁ program said).1
  goesOn : GoesOn program said (reported d₁ m₁ program said).1
  shell_eq : after.descriptors = before.descriptors
  untouched : ∀ id, (∀ file, d₁.get? 2 = some file → m₁.target? file ≠ some (.node id)) →
    after.tree.content? id = m₁.tree.content? id
  told : ∀ file id log, (∀ b ∈ carried, b.fd ≠ 2) → m₁.CollectsErrors file id log →
    (reported d₁ m₁ program said).1 = program ∧ after.CollectsErrors file id (log ++ linesOf said)

theorem exists_starts (cwd : NodeId) (l : Launch Nat Nat) (m : Machine) :
    ∃ carried d₁ m₁ program said,
      Starts cwd l m (spawn cwd l m).2 carried d₁ m₁ program said := by
  obtain ⟨carried, d₁, m₁, program, said, hdeparts⟩ := exists_departs cwd l m.descriptors m
  obtain ⟨hspawn, hgrows⟩ := spawn_of_departs hdeparts
  refine ⟨carried, d₁, m₁, program, said, hdeparts, ?_, goesOn_reported d₁ m₁ program said, ?_, ?_,
    ?_⟩
  · rw [hspawn]
    exact ⟨_, congrArg (Array.push · _) hgrows.processes_eq, rfl, rfl, rfl⟩
  · exact (spawn_leaves cwd l m).2.1
  · intro id hne
    rw [hspawn]
    exact content?_reported_of_ne hne
  · intro file id log hfd hlog
    obtain ⟨hall, hcollected⟩ := reported_collected hdeparts hfd hlog
    rw [hspawn]
    exact ⟨hall, hcollected.descriptor, hcollected.opened, hcollected.content⟩

/-- On the way from one machine to another, the processes have taken all the turns that there
are. -/
def IsSpent (cwd : NodeId) (m m' : Machine) : Prop :=
  ∃ m₁ m₂, Later cwd m m₁ ∧ turns Script.patience m₁ = some m₂ ∧ Later cwd m₂ m'

/-- On the way from one machine to another, no process could take a step. -/
def IsStuck (cwd : NodeId) (m m' : Machine) : Prop :=
  ∃ m₁, Later cwd m m₁ ∧ m₁.turn = none ∧ Later cwd m₁ m'

/-- What has become of a process that went on with `next`, from its start to the end of the
execution. The answer to the wait for it is how it has ended. If no process has sent it a signal,
and the others have not taken all the turns that there are, then
* one that was about to leave has left with its status
* one that was about to be ended by a signal has been ended by it
* one that was about to leave once it has said the rest of what it has to say has left with its
  status, or has been ended because nobody read standard error, unless it waits for room there for
  ever. -/
structure Ends (cwd : NodeId) (pid : Nat) (next : Program) (after final : Machine)
    (answer : Except SpawnError ExitStatus) : Prop where
  own : answer = .error (.wait .deadlock) ∨
    ∃ status, final.ending? pid = some status ∧ answer = understood status
  left : ∀ k, next = .leave k → ¬ IsSignaled cwd pid after final →
    answer = .ok (.exited (k % 256)) ∨
      answer = .error (.wait .deadlock) ∧ IsSpent cwd after final
  raised : ∀ signal, next = .raise signal → ¬ IsSignaled cwd pid after final →
    answer = understood (.signaled signal) ∨
      answer = .error (.wait .deadlock) ∧ IsSpent cwd after final
  saying : ∀ k rest, next = .ask (.write 2 rest) (fun _ => .leave k) →
    ¬ IsSignaled cwd pid after final →
    answer = .ok (.exited (k % 256)) ∨ answer = .ok (.signaled brokenPipeSignal) ∨
      answer = .error (.wait .deadlock) ∧ (IsStuck cwd after final ∨ IsSpent cwd after final)

section Waited

variable {cwd : NodeId} {pid : Nat} {image : Image} {next : Program} {after during final : Machine}

/-- A process that keeps to something and is waited for has ended so. Where it has not, none could
take a step, or the processes have taken all their turns while it could. -/
theorem answer_of_kept {S : Image → Prop} (hS : IsKept S) (himage : after.image? pid = some image)
    (hin : S image) (hlater : Later cwd after during) (hfinal : Later cwd (wait pid during).2 final)
    (hspared : ¬ IsSignaled cwd pid after final) :
    (∃ status, S (.ended status) ∧ (wait pid during).1 = understood status) ∨
      (wait pid during).1 = .error (.wait .deadlock) ∧
        ∃ program, S (.running program) ∧
          (wait pid during).2.image? pid = some (.running program) ∧
          ((wait pid during).2.turn = none ∧ IsStuck cwd after final ∨
            IsSpent cwd after final) := by
  have hwait := later_wait cwd pid during
  have hbefore : ¬ IsSignaled cwd pid after during := fun h => hspared (h.tail (hwait.trans hfinal))
  have hduring : ¬ IsSignaled cwd pid during (wait pid during).2 := by
    rintro ⟨m₁, m₂, sender, hfirst, hsignals, hstep, hlast⟩
    exact hspared ⟨m₁, m₂, sender, hlater.trans hfirst, hsignals, hstep, hlast.trans hfinal⟩
  obtain ⟨image', himage', hin'⟩ := (hlater.of_kept hS himage hin).resolve_right hbefore
  refine (wait_of_kept hS himage' hin' hduring).imp_right ?_
  rintro ⟨hanswer, program, hrunning, himage, hturns⟩
  refine ⟨hanswer, program, hrunning, himage, hturns.imp ?_ ?_⟩
  · exact fun hstuck => ⟨hstuck, _, hlater.trans hwait, hstuck, hfinal⟩
  · exact fun hspent => ⟨_, _, hlater, hspent, hfinal⟩

/-- A process that is waited for ends so. -/
theorem ends_of_wait (hruns : after.image? pid = some (.running next))
    (hlater : Later cwd after during) (hfinal : Later cwd (wait pid during).2 final) :
    Ends cwd pid next after final (wait pid during).1 where
  own := by
    have hlt : pid < during.processes.size := by
      refine Nat.lt_of_lt_of_le ?_ hlater.size_le
      obtain ⟨p, hp, -⟩ := Option.map_eq_some_iff.mp hruns
      exact (Array.getElem?_eq_some_iff.mp hp).1
    rw [fst_wait hlt]
    cases hending : (wait pid during).2.ending? pid with
    | none => exact .inl rfl
    | some status => exact .inr ⟨status, hfinal.ending?_eq hending, rfl⟩
  left k hleave hspared := by
    subst hleave
    -- Who is about to leave can always take its step, so the waiting has not got stuck.
    rcases answer_of_kept (isKept_leaving k) hruns .running hlater hfinal hspared with
      ⟨status, ⟨⟩, hanswer⟩ | ⟨hanswer, program, ⟨⟩, himage, ⟨hstuck, -⟩ | hspent⟩
    · exact .inl hanswer
    · exact absurd hstuck (turn_ne_none (step_of_leave himage))
    · exact .inr ⟨hanswer, hspent⟩
  raised signal hraise hspared := by
    subst hraise
    rcases answer_of_kept (isKept_raising signal) hruns .running hlater hfinal hspared with
      ⟨status, ⟨⟩, hanswer⟩ | ⟨hanswer, program, ⟨⟩, himage, ⟨hstuck, -⟩ | hspent⟩
    · exact .inl hanswer
    · exact absurd hstuck (turn_ne_none (step_of_raise himage))
    · exact .inr ⟨hanswer, hspent⟩
  saying k rest hsays hspared := by
    subst hsays
    rcases answer_of_kept (isKept_saying k) hruns (.running rest) hlater hfinal hspared with
      ⟨status, hsaid, hanswer⟩ | ⟨hanswer, -, -, -, hturns⟩
    · rcases hsaid with - | ⟨⟨⟩⟩ | -
      · exact .inl hanswer
      · exact .inr (.inl hanswer)
    · exact .inr (.inr ⟨hanswer, hturns.imp_left And.right⟩)

end Waited

section Stages

variable {cwd : NodeId} {m : Machine} {plans : List (Except RedirectionError (Plan Nat))} {i : Nat}
  {plan : Except RedirectionError (Plan Nat)}

/-- Each stage has a process, and this is waited for. -/
theorem exists_process (cwd : NodeId) (m : Machine) (hplan : plans[i]? = some plan) :
    ∃ l pid answer, (Execution.processes (builder cwd) plans m)[i]? = some (l, pid) ∧
      l.stage = i ∧ l.plan = plan ∧ (waits (builder cwd) plans m)[i]? = some (pid, answer) := by
  obtain ⟨fault, endings, -, hlen, hwaits, -, hfault⟩ := exists_outcome (builder cwd) plans m
  have hlength : (Execution.processes (builder cwd) plans m).length = plans.length := by
    rcases hfault with ⟨-, hlength, -⟩ | ⟨k, e, -, before, a, after, hsplit, ha, -⟩
    · exact hlength
    · -- A machine refuses neither pipes nor processes.
      have hnone := fault?_of_runs (runs_transcript (builder cwd) plans m) a (by simp [hsplit])
      rw [ha] at hnone
      cases hnone
  have hlt : i < (Execution.processes (builder cwd) plans m).length := by
    rw [hlength]
    exact (List.getElem?_eq_some_iff.mp hplan).1
  have hprocess := List.getElem?_eq_getElem hlt
  obtain ⟨hstage, hl⟩ := stage_of_getElem?_processes hprocess
  rw [hplan] at hl
  refine ⟨_, _, endings[i], hprocess, hstage, (Option.some.inj hl).symm, ?_⟩
  rw [hwaits, List.getElem?_zip_eq_some]
  exact ⟨by simp [hprocess], by simp⟩

/-- **What becomes of a stage**, whatever its plan is, and whatever the plans of the others are. Its
process is started at its turn, and departs from the shell in one of the seven ways: it never goes
on as the shell. It is waited for, and the status that is collected for the stage is how this
process has ended: if it never came to be its program, with the status that it was about to leave
with, unless another process sends it a signal, or nobody reads what it says.

The other stages have the same processes with the same pipe ends whatever the plan of this one is.
As this holds for each stage, the status that is collected for another one is how its own process
has ended. -/
theorem stage_ends (cwd : NodeId) (m : Machine) (hplan : plans[i]? = some plan) :
    (∃ l before carried d₁ m₁ program said answer, l.stage = i ∧ l.plan = plan ∧
      (Execution.processes (builder cwd) plans m)[i]? = some (l, before.processes.size) ∧
      (waits (builder cwd) plans m)[i]? = some (before.processes.size, answer) ∧
      Later cwd m before ∧
      Starts cwd l before (spawn cwd l before).2 carried d₁ m₁ program said ∧
      Later cwd (spawn cwd l before).2 (execute (builder cwd) plans m).2 ∧
      Ends cwd before.processes.size (reported d₁ m₁ program said).1 (spawn cwd l before).2
        (execute (builder cwd) plans m).2 answer ∧
      ∀ statuses, (execute (builder cwd) plans m).1 = .ok statuses →
        ∃ status, statuses[i]? = some status ∧ answer = .ok status) ∧
    ∀ plans', plans'.length = plans.length → (∀ j ≠ i, plans'[j]? = plans[j]?) →
      ∀ j ≠ i, (Execution.processes (builder cwd) plans' m)[j]? =
        (Execution.processes (builder cwd) plans m)[j]? := by
  refine ⟨?_, fun plans' hlength hothers j hj =>
    (ignores_builder cwd).getElem?_processes ⟨rfl, rfl⟩ hlength (hothers j hj)⟩
  obtain ⟨l, pid, answer, hprocess, hstage, hl, hwait⟩ := exists_process cwd m hplan
  obtain ⟨before, during, xs, ys, zs, hbefore, hspawned, hduring, hanswer, hlast⟩ :=
    exists_runs (List.mem_of_getElem? hprocess) (List.mem_of_getElem? hwait)
  obtain rfl : before.processes.size = pid := by
    rw [← (spawn_leaves cwd l before).1]
    exact Except.ok.inj hspawned
  obtain ⟨carried, d₁, m₁, program, said, hstarts⟩ := exists_starts cwd l before
  have hruns : (spawn cwd l before).2.image? before.processes.size =
      some (.running (reported d₁ m₁ program said).1) := by
    obtain ⟨p, hp, -, -, himage⟩ := hstarts.runs
    rw [image?, hp, Array.getElem?_push_size, Option.map_some, himage]
  have hends := ends_of_wait hruns (later_of_runs hduring) (later_of_runs hlast)
  refine ⟨l, before, carried, d₁, m₁, program, said, answer, hstage, hl, hprocess, hwait,
    later_of_runs hbefore, hstarts, ?_, hanswer ▸ hends, ?_⟩
  · exact ((later_of_runs hduring).trans (later_wait cwd _ during)).trans (later_of_runs hlast)
  · intro statuses hok
    obtain ⟨hlength, hcollected⟩ := endedWith_of_execute_eq_ok hok
    have hlt : i < statuses.length := by
      rw [hlength]
      exact (List.getElem?_eq_some_iff.mp hplan).1
    have hstatus := List.getElem?_eq_getElem hlt
    obtain ⟨_, _, _, _, hwaited⟩ := hcollected i _ hstatus
    rw [hwait] at hwaited
    exact ⟨_, hstatus, (Prod.mk.inj (Option.some.inj hwaited)).2⟩

end Stages

/-- A machine whose shell has three streams. -/
def quietMachine : Machine :=
  (((onTree .bare []).openStream 0 #[]).openStream 1 #[]).openStream 2 #[]

/-- The middle one of three stages lacks the operand of a redirection. -/
def unreadyPlans : List (Except RedirectionError (Plan Nat)) :=
  [.ok ⟨[], []⟩, .error (.missingOperand .output), .ok ⟨[], []⟩]

/-- The middle stage carries nothing out and leaves with 1, which is collected for it, and the last
stage has the same process whatever the middle one is. -/
theorem stage_ends_unready :
    unreadyPlans[1]? = some (.error (.missingOperand .output)) ∧
    (execute (builder FileTree.root) unreadyPlans quietMachine).1 =
      .ok [.exited 0, .exited 1, .exited 0] ∧
    (∃ l before d₁ m₁, l.stage = 1 ∧
      Starts FileTree.root l before (spawn FileTree.root l before).2 [] d₁ m₁ (.leave 1)
        (some "missing operand after '>'") ∧
      (waits (builder FileTree.root) unreadyPlans quietMachine)[1]? =
        some (before.processes.size, .ok (.exited 1))) ∧
    ∀ plan, (Execution.processes (builder FileTree.root) [.ok ⟨[], []⟩, plan, .ok ⟨[], []⟩]
        quietMachine)[2]? =
      (Execution.processes (builder FileTree.root) unreadyPlans quietMachine)[2]? := by
  have hexecute : (execute (builder FileTree.root) unreadyPlans quietMachine).1 =
      .ok [.exited 0, .exited 1, .exited 0] := rfl
  have hplan : unreadyPlans[1]? = some (.error (.missingOperand .output)) := rfl
  obtain ⟨⟨l, before, carried, d₁, m₁, program, said, answer, hstage, hl, -, hwait, -,
    hstarts, -, -,
    hcollected⟩, hothers⟩ := stage_ends FileTree.root quietMachine hplan
  refine ⟨hplan, hexecute, ⟨l, before, d₁, m₁, hstage, ?_, ?_⟩, fun plan => ?_⟩
  · have hverdict := hstarts.departs.verdict
    -- There is one way in which it can depart without a plan.
    cases hverdict with
    | unresolved unplanned none =>
      rw [hl] at unplanned
      cases unplanned
      subst none
      exact hstarts
    | _ => simp_all
  · obtain ⟨status, hstatus, rfl⟩ := hcollected _ hexecute
    obtain rfl : ExitStatus.exited 1 = status := Option.some.inj hstatus
    exact hwait
  · refine hothers [.ok ⟨[], []⟩, plan, .ok ⟨[], []⟩] rfl (fun j hj => ?_) 2 (by decide)
    match j, hj with
    | 0, _ => rfl
    | j + 2, _ => rfl

end PipeShell.Machine
