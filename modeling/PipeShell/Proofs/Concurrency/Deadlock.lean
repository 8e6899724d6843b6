import PipeShell.Proofs.Concurrency.Places
import PipeShell.Proofs.Concurrency.Streams
import PipeShell.Proofs.Machine.Agreement

/-!
# No pipeline is ever stuck

A process waits where it reads from an empty conduit that somebody could still write to, or writes
to a full one that somebody could still read from. If the shell waited, and so did every process
that it has started, nothing would ever happen again. That cannot come about. A process that reads
from an empty conduit waits for one of the stage in front of it, which itself cannot wait for room
in that conduit, and so must be reading from the conduit in front of it; and so on to the first
stage, which reads from no conduit. A process that writes to a full conduit waits for one of the
stage behind it, and so on to the last.

The argument needs that nobody has an end of a conduit who is not meant to have it: the shell has
none at its waits, and every process has those around its stage at most. So it must not be that a
process comes by an end through a path. One that does may wait for itself.

## Main definitions

* `Starves`, `Chokes`, `IsBlocked`: processes that wait for a conduit
* `IsDeadlocked`: the shell waits, and all processes wait for conduits

## Main results

* `step_eq_none_of_isBlocked`: a blocked process can take no step
* `never_deadlocked`: no pipeline is ever stuck
* `deadlocked_through_path`: one is, where a process comes by an end through a path
-/

namespace PipeShell.Machine

/-! ## Waiting for a conduit -/

/-- The number that a request reads from. -/
def Request.readsFrom? : Request → Option Nat
  | .read fd _ => some fd
  | .line fd _ => some fd
  | _ => none

/-- The number that a request writes to. Nothing is written where there are no bytes. -/
def Request.writesTo? : Request → Option Nat
  | .write fd (_ :: _) => some fd
  | _ => none

namespace System

open Execution

/-- A process reads from an empty conduit, of which somebody holds the writing end. -/
structure Starves (s : System) (p : Process) (request : Request) (c : Conduit) : Prop where
  reads : ∃ fd file f, request.readsFrom? = some fd ∧ p.descriptors.get? fd = some file ∧
    s.machine.files[file]? = some f ∧ f.readable = true ∧ f.target = .reader c.pipe
  empty : s.machine.pipes[c.pipe]? = some #[]
  held : s.machine.isHeld (.writer c.pipe) = true

/-- A process writes to a full conduit, of which somebody holds the reading end. -/
structure Chokes (s : System) (p : Process) (request : Request) (c : Conduit) : Prop where
  writes : ∃ fd file f, request.writesTo? = some fd ∧ p.descriptors.get? fd = some file ∧
    s.machine.files[file]? = some f ∧ f.writable = true ∧ f.target = .writer c.pipe
  full : ∃ waiting, s.machine.pipes[c.pipe]? = some waiting ∧ s.machine.pipeCapacity ≤ waiting.size
  held : s.machine.isHeld (.reader c.pipe) = true

/-- A process runs its program and waits for a conduit. -/
def IsBlocked (s : System) (pid : Nat) : Prop :=
  s.beginnings pid = none ∧ ∃ p request next, s.machine.processes[pid]? = some p ∧
    p.image = .running (.ask request next) ∧
      ∃ c ∈ s.conduits, s.Starves p request c ∨ s.Chokes p request c

/-- A process that has been started since the beginning and has not ended. -/
def IsUnfinished (initial : Machine) (s : System) (pid : Nat) : Prop :=
  initial.processes.size ≤ pid ∧ ∃ p, s.machine.processes[pid]? = some p ∧ p.IsRunning

/-- The shell waits for a process that has not ended, some process has not ended, and every process
that has not ended waits for a conduit. -/
structure IsDeadlocked (initial : Machine) (s : System) : Prop where
  waiting : ∃ pid next, s.shell = .wait pid next ∧ s.machine.ending? pid = none
  unfinished : ∃ pid, s.IsUnfinished initial pid
  blocked : ∀ pid, s.IsUnfinished initial pid → s.IsBlocked pid

/-! ## Blocked processes take no step -/

section Blocked

variable {s : System} {p : Process} {request : Request} {c : Conduit} {pid : Nat}

theorem readChunk_of_starves {file : Nat} {f : OpenFile} (count : Nat) (byLine : Bool)
    (hf : s.machine.files[file]? = some f) (hreadable : f.readable = true)
    (htarget : f.target = .reader c.pipe) (hempty : s.machine.pipes[c.pipe]? = some #[])
    (hheld : s.machine.isHeld (.writer c.pipe) = true) :
    s.machine.readChunk file count byLine = (.waiting, s.machine) := by
  have hextent : extent #[] 0 count byLine = 0 := by
    unfold extent
    cases byLine <;> simp
  simp [readChunk, hf, hreadable, htarget, hempty, hheld, hextent]

theorem meet_of_starves (h : s.Starves p request c) (next : request.Answer → Program) :
    s.machine.meet pid p request next = none := by
  obtain ⟨⟨fd, file, f, hreads, hfile, hf, hreadable, htarget⟩, hempty, hheld⟩ := h
  cases request with
  | read n count =>
    cases hreads
    have hchunk := readChunk_of_starves count false hf hreadable htarget hempty hheld
    simp [meet, stepRead, hfile, hchunk]
  | line n held =>
    cases hreads
    have hchunk := readChunk_of_starves lineChunk true hf hreadable htarget hempty hheld
    simp [meet, stepLine, hfile, hchunk]
  | _ => cases hreads

theorem meet_of_chokes (h : s.Chokes p request c) (next : request.Answer → Program) :
    s.machine.meet pid p request next = none := by
  obtain ⟨⟨fd, file, f, hwrites, hfile, hf, hwritable, htarget⟩, ⟨waiting, hpipe, hfull⟩,
    hheld⟩ := h
  cases request with
  | write n bytes =>
    cases bytes with
    | nil => cases hwrites
    | cons byte bytes =>
      cases hwrites
      have hroom : s.machine.pipeCapacity - waiting.size = 0 := by omega
      have hchunk : s.machine.writeChunk file (byte :: bytes) = (.waiting, s.machine) := by
        simp [writeChunk, hf, hwritable, htarget, hheld, hpipe, hroom]
      simp [meet, stepWrite, hfile, hchunk]
  | _ => cases hwrites

/-- A blocked process can take no step. -/
theorem step_eq_none_of_isBlocked (h : s.IsBlocked pid) : s.machine.step pid = none := by
  obtain ⟨-, p, request, next, hp, himage, c, -, hwaits⟩ := h
  have hmeet : s.machine.meet pid p request next = none := by
    rcases hwaits with hstarves | hchokes
    · exact meet_of_starves hstarves next
    · exact meet_of_chokes hchokes next
  simp [step, hp, himage, hmeet]

end Blocked

/-! ## No deadlock -/

section Waiting

variable {cwd : NodeId} {plans : List (Except RedirectionError (Plan Nat))} {initial : Machine}
  {s : System} {place : Option Nat} {p : Process} {request : Request} {k : Nat} {c : Conduit}

/-- Who reads from a conduit is a process of the stage behind it. -/
theorem Entitled.of_starves (h : s.Entitled place p.descriptors) (hc : s.conduits[k]? = some c)
    (hstarves : s.Starves p request c) : place = some (k + 1) := by
  obtain ⟨fd, file, f, -, hfile, hf, -, htarget⟩ := hstarves.reads
  have hleads : s.machine.target? file = some (.reader c.pipe) := by simp [target?, hf, htarget]
  exact (h.of_holds hc ⟨file, Descriptors.mem_files_of_get? hfile, hleads⟩).1 rfl

/-- Who writes to a conduit is a process of the stage in front of it. -/
theorem Entitled.of_chokes (h : s.Entitled place p.descriptors) (hc : s.conduits[k]? = some c)
    (hchokes : s.Chokes p request c) : place = some k := by
  obtain ⟨fd, file, f, -, hfile, hf, -, htarget⟩ := hchokes.writes
  have hleads : s.machine.target? file = some (.writer c.pipe) := by simp [target?, hf, htarget]
  exact (h.of_holds hc ⟨file, Descriptors.mem_files_of_get? hfile, hleads⟩).2 rfl

variable (hsound : s.Sound cwd plans initial) (hplace : s.InPlace initial)
  (hdead : s.IsDeadlocked initial)

include hsound hplace hdead in
/-- Where all wait, whoever holds an end of a conduit is a process of a stage around it, and waits
for a conduit itself. -/
theorem exists_waiting {target : Target} (hc : s.conduits[k]? = some c)
    (hpipe : target.pipe? = some c.pipe) (hheld : s.machine.isHeld target = true) :
    ∃ (place : Option Nat) (p : Process) (request : Request) (j : Nat) (c' : Conduit),
      s.Entitled place p.descriptors ∧ s.machine.Holds p.descriptors target ∧
      s.conduits[j]? = some c' ∧ (s.Starves p request c' ∨ s.Chokes p request c') := by
  have hmem := List.mem_of_getElem? hc
  obtain ⟨d, hd, hholds⟩ := isHeld_iff.mp hheld
  rcases mem_tables.mp hd with rfl | ⟨pid, p, hp, hrun, rfl⟩
  · -- The shell is at a wait, where it has no end.
    obtain ⟨pid, next, hshell, -⟩ := hdead.waiting
    obtain ⟨held, hphase, hhas⟩ := hsound.shell.phase
    rw [hshell] at hphase
    obtain ⟨rfl, -⟩ := hphase.of_wait
    obtain ⟨file, hfile, htarget⟩ := hholds
    obtain ⟨fd, hentry⟩ := Descriptors.mem_files.mp hfile
    exact absurd (hhas.mem_held _ hentry ⟨c, hmem, target, htarget, hpipe⟩) List.not_mem_nil
  obtain ⟨place, hentitled, hnone⟩ := hplace.entitled pid p hp hrun
  rcases Nat.lt_or_ge pid initial.processes.size with hold | hnew
  · -- A process that has been there from the beginning has no end.
    rw [hnone hold, (IsArranged.of_none (hplace.outside pid hold)).tableOf_eq] at hentitled
    exact absurd hholds (hentitled.not_holds hc hpipe)
  · obtain ⟨hbeginning, p₀, request, next, hp₀, himage, c', hc', hwaits⟩ :=
      hdead.blocked pid ⟨hnew, p, hp, hrun⟩
    rw [hp] at hp₀
    cases hp₀
    obtain ⟨j, hj⟩ := List.mem_iff_getElem?.mp hc'
    rw [(IsArranged.of_none hbeginning).tableOf_eq] at hentitled
    exact ⟨place, p, request, j, c', hentitled, hholds, hj, hwaits⟩

variable (hcapacity : 0 < initial.pipeCapacity)

include hsound hplace hdead hcapacity in
/-- No empty conduit is waited for. Whoever could write to it belongs to the stage in front of it,
and waits for the conduit in front of that stage, since there is room in this one. -/
theorem not_starved (hc : s.conduits[k]? = some c) (hempty : s.machine.pipes[c.pipe]? = some #[])
    (hheld : s.machine.isHeld (.writer c.pipe) = true) : False := by
  induction k using Nat.strongRecOn generalizing c with
  | _ k ih =>
    obtain ⟨place, p, request, j, c', hentitled, hholds, hc', hstarves | hchokes⟩ :=
      exists_waiting hsound hplace hdead hc rfl hheld
    · -- The writer is of the stage `k`, so that it reads from the conduit in front of that.
      have hplace := (hentitled.of_holds hc hholds).2 rfl
      have hstage := (hentitled.of_starves hc' hstarves).symm.trans hplace
      exact ih j (by simp at hstage; omega) hc' hstarves.empty hstarves.held
    · have hplace := (hentitled.of_holds hc hholds).2 rfl
      obtain rfl : j = k := Option.some.inj ((hentitled.of_chokes hc' hchokes).symm.trans hplace)
      rw [hc] at hc'
      cases hc'
      -- It would wait for room in the conduit that is empty.
      obtain ⟨waiting, hpipe, hfull⟩ := hchokes.full
      rw [hempty] at hpipe
      cases hpipe
      rw [hsound.grounded.capacity_eq] at hfull
      exact absurd hfull (Nat.not_le_of_gt hcapacity)

include hsound hplace hdead hcapacity in
/-- No full conduit is waited for. Whoever could read from it belongs to the stage behind it, and
waits for the conduit behind that stage, since there is something in this one. -/
theorem not_choked {waiting : Array UInt8} (hc : s.conduits[k]? = some c)
    (hpipe : s.machine.pipes[c.pipe]? = some waiting)
    (hfull : s.machine.pipeCapacity ≤ waiting.size)
    (hheld : s.machine.isHeld (.reader c.pipe) = true) : False := by
  have hlt := (List.getElem?_eq_some_iff.mp hc).1
  induction hlater : s.conduits.length - k generalizing k c waiting with
  | zero => omega
  | succ n ih =>
    obtain ⟨place, p, request, j, c', hentitled, hholds, hc', hstarves | hchokes⟩ :=
      exists_waiting hsound hplace hdead hc rfl hheld
    · have hplace := (hentitled.of_holds hc hholds).1 rfl
      have hstage := (hentitled.of_starves hc' hstarves).symm.trans hplace
      obtain rfl : j = k := by simpa using hstage
      rw [hc] at hc'
      cases hc'
      -- It would wait for something in the conduit that is full.
      rw [hstarves.empty] at hpipe
      cases hpipe
      rw [hsound.grounded.capacity_eq] at hfull
      exact absurd hfull (Nat.not_le_of_gt hcapacity)
    · -- The reader is of the stage `k + 1`, so that it writes to the conduit behind that.
      have hplace := (hentitled.of_holds hc hholds).1 rfl
      obtain rfl : j = k + 1 :=
        Option.some.inj ((hentitled.of_chokes hc' hchokes).symm.trans hplace)
      obtain ⟨waiting', hpipe', hfull'⟩ := hchokes.full
      have hlt' := (List.getElem?_eq_some_iff.mp hc').1
      exact ih hc' hpipe' hfull' hchokes.held hlt' (by omega)

end Waiting

/-- **No deadlock.** Take a shell with a pipeline of any length and any bindings, on a machine where
any number of bytes, at least one, may wait in a pipe. Whatever the order of the steps, whatever is
refused to the shell, and whatever programs the processes become, it does not come about that the
shell waits for a process, that processes are left, and that all of them are blocked by a conduit.
All that is asked is that nobody opens an end of a conduit by a path unless he has that end already.
-/
theorem never_deadlocked {cwd : NodeId} {plans : List (Except RedirectionError (Plan Nat))}
    {initial : Machine} {s : System} (hinitial : initial.WellFormed)
    (hopen : ∀ fd ≤ 2, (initial.descriptors.get? fd).isSome = true)
    (hplans : ∀ plan, .ok plan ∈ plans → plan.IsReady initial)
    (hcapacity : 0 < initial.pipeCapacity) (hreaches : ReachesOrdinarily cwd plans initial s) :
    ¬ s.IsDeadlocked initial := by
  intro hdead
  have hsound : s.Sound cwd plans initial := .of_reaches hinitial hopen hplans hreaches.reaches
  have hplace : s.InPlace initial := .of_reaches hinitial hopen hplans hreaches
  obtain ⟨pid, hunfinished⟩ := hdead.unfinished
  obtain ⟨-, p, request, next, -, -, c, hmem, hwaits⟩ := hdead.blocked pid hunfinished
  obtain ⟨k, hc⟩ := List.mem_iff_getElem?.mp hmem
  rcases hwaits with hstarves | hchokes
  · exact not_starved hsound hplace hdead hcapacity hc hstarves.empty hstarves.held
  · obtain ⟨waiting, hpipe, hfull⟩ := hchokes.full
    exact not_choked hsound hplace hdead hcapacity hc hpipe hfull hchokes.held

/-- Where no file is opened the steps of the trial are ordinary. -/
theorem quiet_trial {s s' : System}
    (h : ReachesOrdinarily FileTree.root trialPlans trialMachine s)
    (hstep : Step FileTree.root s s')
    (hfiles : s'.machine.files.size = s.machine.files.size) :
    ReachesOrdinarily FileTree.root trialPlans trialMachine s' :=
  h.quiet wellFormed_trialMachine isSome_get?_trialMachine isReady_trialPlans hstep hfiles

/-- The shell of the trial comes to wait for the first process while the second is blocked, reading
from the pipe between them; but the first is not, for it is still to make its changes. -/
theorem never_deadlocked_trial :
    ∃ s, ReachesOrdinarily FileTree.root trialPlans trialMachine s ∧
      (∃ next, s.shell = .wait 0 next) ∧ s.IsUnfinished trialMachine 1 ∧ s.IsBlocked 1 ∧
      ¬ s.IsDeadlocked trialMachine := by
  have h : ReachesOrdinarily FileTree.root trialPlans trialMachine
    (start trialPlans trialMachine) := .refl
  replace h := h.makePipe wellFormed_trialMachine isSome_get?_trialMachine isReady_trialPlans
    (@Step.pipe FileTree.root _ _ 3 4 rfl rfl rfl (by decide))
  replace h := quiet_trial h (@Step.spawn FileTree.root _ _ _ rfl) rfl
  replace h := quiet_trial h (@Step.close FileTree.root _ _ _ rfl) rfl
  replace h := quiet_trial h (@Step.spawn FileTree.root _ _ _ rfl) rfl
  replace h := quiet_trial h (@Step.close FileTree.root _ _ _ rfl) rfl
  -- The second process takes the reading end as its standard input, and goes on to read.
  replace h := quiet_trial h (@Step.advance FileTree.root _ 1 _ _ rfl rfl ⟨_, rfl⟩) rfl
  replace h := quiet_trial h (@Step.advance FileTree.root _ 1 _ _ rfl rfl ⟨_, rfl⟩) rfl
  replace h := quiet_trial h (@Step.become FileTree.root _ 1 _ _ _ rfl rfl ⟨_, rfl⟩ rfl rfl rfl
    (.ask (.read 0 1) fun _ => .leave 0)) rfl
  refine ⟨_, h, ⟨_, rfl⟩, ⟨by decide, _, rfl, _, rfl⟩, ?_, never_deadlocked wellFormed_trialMachine
    isSome_get?_trialMachine isReady_trialPlans (by decide) h⟩
  refine ⟨rfl, _, _, _, rfl, rfl, _, List.mem_cons_self, .inl ⟨?_, rfl, rfl⟩⟩
  exact ⟨0, 4, _, rfl, rfl, rfl, rfl, rfl⟩

/-! ## A pipeline that is stuck -/

/-- The pipeline `true | cat > /dev/stdin`. -/
def devicePlans : List (Except RedirectionError (Plan Nat)) :=
  [.ok ⟨["true"], []⟩, .ok ⟨["cat"], [toDevice]⟩]

theorem wellFormed_deviceMachine : deviceMachine.WellFormed := .of_files (by decide) (by decide)

theorem isReady_devicePlans : ∀ plan, .ok plan ∈ devicePlans → plan.IsReady deviceMachine := by
  intro plan hmem
  rcases List.mem_cons.mp hmem with hplan | hplan
  · cases hplan
    exact fun binding hbinding => absurd hbinding List.not_mem_nil
  · cases List.mem_singleton.mp hplan
    intro binding hbinding
    obtain rfl := List.mem_singleton.mp hbinding
    exact ⟨Nat.le_refl 1, nofun⟩

/-- The binding opens once more what standard input leads to. -/
theorem step_toDevice {s : System} {pid file new : Nat} {b : Beginning} {p : Process}
    {plan : Plan Nat} (hbeginning : s.beginnings pid = some b)
    (hprocess : s.machine.processes[pid]? = some p) (hrunning : p.IsRunning)
    (hplan : b.launch.plan = .ok plan) (hleft : b.left = []) (hpending : b.pending = [toDevice])
    (htree : s.machine.tree = deviceMachine.tree) (hfile : p.descriptors.get? 0 = some file)
    (hreopen : (s.machine.reopen file .overwrite).1 = .ok new) :
    Step FileTree.root s { s with
      machine := (s.machine.reopen file .overwrite).2.setDescriptors pid (adopt p.descriptors 1 new)
      beginnings := Function.update s.beginnings pid (some { b with
        pending := [], bound := b.bound ++ [⟨toDevice, p.descriptors, s.machine⟩] }) } := by
  have hopen := openTarget_stream htree p.descriptors toDevice.redirect file hfile hreopen
  have hbind : s.machine.bind FileTree.root p.descriptors toDevice =
      (.ok (), adopt p.descriptors 1 new, (s.machine.reopen file .overwrite).2) := by
    simp only [bind, toDevice, Plan.binding] at hopen ⊢
    simp only [hopen]
    rfl
  have hstep := @Step.advance FileTree.root s pid b p hbeginning hprocess hrunning
  simpa only [advance, Beginning.advance, hplan, hleft, hpending, hbind] using hstep

/-- The shell comes to wait for the second process, which alone has not ended, and which waits for
bytes that only it could write. -/
theorem exists_waitsForItself :
    ∃ s, Reaches FileTree.root devicePlans deviceMachine s ∧ (∃ next, s.shell = .wait 1 next) ∧
      s.machine.processes.size = 2 ∧ s.machine.ending? 0 = some (.exited 0) ∧
      s.machine.ending? 1 = none ∧ s.IsBlocked 1 := by
  have h : Reaches FileTree.root devicePlans deviceMachine (start devicePlans deviceMachine) :=
    .refl
  replace h := h.tail (@Step.pipe FileTree.root _ _ 3 4 rfl rfl rfl (by decide))
  replace h := h.tail (@Step.spawn FileTree.root _ _ _ rfl)
  replace h := h.tail (@Step.close FileTree.root _ _ _ rfl)
  replace h := h.tail (@Step.spawn FileTree.root _ _ _ rfl)
  replace h := h.tail (@Step.close FileTree.root _ _ _ rfl)
  -- The first process comes to its program, and that ends.
  replace h := h.tail (@Step.advance FileTree.root _ 0 _ _ rfl rfl ⟨_, rfl⟩)
  replace h := h.tail (@Step.advance FileTree.root _ 0 _ _ rfl rfl ⟨_, rfl⟩)
  replace h := h.tail (@Step.advance FileTree.root _ 0 _ _ rfl rfl ⟨_, rfl⟩)
  replace h := h.tail (@Step.become FileTree.root _ 0 _ _ _ rfl rfl ⟨_, rfl⟩ rfl rfl rfl (.leave 0))
  replace h := h.tail (@Step.program FileTree.root _ 0 _ rfl rfl)
  replace h := h.tail (@Step.wait FileTree.root _ 0 _ _ rfl rfl)
  -- The second takes the reading end as its standard input, opens it for writing, and reads.
  replace h := h.tail (@Step.advance FileTree.root _ 1 _ _ rfl rfl ⟨_, rfl⟩)
  replace h := h.tail (@Step.advance FileTree.root _ 1 _ _ rfl rfl ⟨_, rfl⟩)
  replace h := h.tail (@step_toDevice _ 1 3 5 _ _ _ rfl rfl ⟨_, rfl⟩ rfl rfl rfl rfl rfl rfl)
  replace h := h.tail (@Step.become FileTree.root _ 1 _ _ _ rfl rfl ⟨_, rfl⟩ rfl rfl rfl
    (.ask (.read 0 1) fun _ => .leave 0))
  refine ⟨_, h, ⟨_, rfl⟩, rfl, rfl, rfl, ?_⟩
  refine ⟨rfl, _, _, _, rfl, rfl, _, List.mem_cons_self, .inl ⟨?_, rfl, rfl⟩⟩
  exact ⟨0, 3, _, rfl, rfl, rfl, rfl, rfl⟩

/-- **Through a path a pipeline can be stuck**: a process that opens the pipe that it reads from for
writing waits for itself. -/
theorem deadlocked_through_path :
    ¬ ∀ (cwd : NodeId) (plans : List (Except RedirectionError (Plan Nat))) (initial : Machine)
      (s : System), initial.WellFormed →
      (∀ fd ≤ 2, (initial.descriptors.get? fd).isSome = true) →
      (∀ plan, .ok plan ∈ plans → plan.IsReady initial) → 0 < initial.pipeCapacity →
      Reaches cwd plans initial s → ¬ s.IsDeadlocked initial := by
  intro hnever
  obtain ⟨s, h, ⟨next, hshell⟩, hsize, hended, hrunning, hblocked⟩ := exists_waitsForItself
  refine hnever _ _ _ s wellFormed_deviceMachine (by decide) isReady_devicePlans (by decide) h
    ⟨⟨1, next, hshell, hrunning⟩, ⟨1, by decide, ?_⟩, fun pid ⟨_, p, hp, hrun⟩ => ?_⟩
  · obtain ⟨-, p, request, next, hp, himage, -⟩ := hblocked
    exact ⟨p, hp, _, himage⟩
  · have hlt := (Array.getElem?_eq_some_iff.mp hp).1
    rw [hsize] at hlt
    match pid with
    | 0 =>
      obtain ⟨program, himage⟩ := hrun
      cases p
      cases himage
      rw [ending?, hp] at hended
      cases hended
    | 1 => exact hblocked

end System

end PipeShell.Machine
