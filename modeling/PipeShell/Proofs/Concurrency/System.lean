import Mathlib.Logic.Function.Basic
import Mathlib.Logic.Relation
import PipeShell.Proofs.Concurrency.Beginning
import PipeShell.Proofs.Execution.Course
import PipeShell.Proofs.Machine.Confinement

/-!
# A shell and its processes

The shell carries out a pipeline while the processes that it has started run beside it. The system
takes one step at a time, of the shell or of any process, and nothing is said about whose turn it
is. Whatever the shell asks for may be refused. The numbers under which the shell knows the ends of
a new pipe may be any that are not in use.

## Main definitions

* `Conduit`: a pipe between two stages
* `System`: a machine, what the shell still has to do, and how far the new processes have come
* `Step`: one step of the shell or of a process
* `Reaches`: what a shell with the given plans may come to
-/

namespace PipeShell.Machine

open Execution

/-- A pipe between two stages: its number, and the open files of its reading and its writing end. -/
structure Conduit where
  pipe : Nat
  reader : Nat
  writer : Nat

/-- A machine, what the shell still has to do, the pipes that it has made, and the processes that
are not their programs yet. Such a process is on the machine as one that runs, with its own table.
-/
structure System where
  machine : Machine
  shell : Course Nat Nat Nat
  conduits : List Conduit
  beginnings : Nat → Option Beginning

namespace System

/-- The shell has done nothing yet. -/
def start (plans : List (Except RedirectionError (Plan Nat))) (m : Machine) : System :=
  { machine := m, shell := course plans, conduits := [], beginnings := fun _ => none }

/-! ## What the shell does -/

/-- Makes a pipe that the shell knows under two numbers. -/
def makePipe (s : System) (reader writer : Nat) (shell : Course Nat Nat Nat) : System :=
  let files := s.machine.openPipe.1
  { s with
    machine := { s.machine.openPipe.2 with
      descriptors := (s.machine.descriptors.place reader files.1).place writer files.2 }
    shell
    conduits := s.conduits ++ [⟨s.machine.pipes.size, files.1, files.2⟩] }

/-- Takes a number of the shell's out of use. -/
def closeEnd (s : System) (fd : Nat) (shell : Course Nat Nat Nat) : System :=
  { s with
    machine := { s.machine with descriptors := s.machine.descriptors.drop fd }
    shell }

/-- A process with a copy of the shell's table, as yet without a program. -/
def newProcess (s : System) (cwd : NodeId) : Process :=
  { descriptors := s.machine.descriptors, cwd, umask := s.machine.umask
    image := .running (.leave 0) }

/-- Starts a process. -/
def startProcess (s : System) (cwd : NodeId) (l : Launch Nat Nat) (shell : Course Nat Nat Nat) :
    System :=
  { s with
    machine := (s.machine.addProcess (s.newProcess cwd)).2
    shell
    beginnings := Function.update s.beginnings s.machine.processes.size (some (.ofLaunch l)) }

/-- A process that is not its program yet makes a step. -/
def advance (s : System) (cwd : NodeId) (pid : Nat) (b : Beginning) (p : Process) : System :=
  match b.advance cwd p.descriptors s.machine with
  | (.inl b, d, m) =>
    { s with
      machine := m.setDescriptors pid d
      beginnings := Function.update s.beginnings pid (some b) }
  | (.inr program, d, m) =>
    { s with
      machine := (m.setDescriptors pid d).resume pid program
      beginnings := Function.update s.beginnings pid none }

/-- A process becomes a program. -/
def become (s : System) (pid : Nat) (program : Program) : System :=
  { s with
    machine := s.machine.resume pid program
    beginnings := Function.update s.beginnings pid none }

/-- One step of a shell that stands in the directory `cwd`, or of one of the processes. A process
that has come to its program becomes what its arguments stand for, by `advance`, or anything else,
by `become`: nothing depends on which programs there are. -/
inductive Step (cwd : NodeId) : System → System → Prop where
  | pipe {s next reader writer} (hshell : s.shell = .pipe next)
    (hreader : s.machine.descriptors.get? reader = none)
    (hwriter : s.machine.descriptors.get? writer = none) (hne : reader ≠ writer) :
    Step cwd s (s.makePipe reader writer (next (.ok (reader, writer))))
  | noPipe {s next} (hshell : s.shell = .pipe next) (cause : Errno) :
    Step cwd s { s with shell := next (.error cause) }
  | close {s fd next} (hshell : s.shell = .close fd next) : Step cwd s (s.closeEnd fd next)
  | spawn {s l next} (hshell : s.shell = .spawn l next) :
    Step cwd s (s.startProcess cwd l (next (.ok s.machine.processes.size)))
  | noSpawn {s l next} (hshell : s.shell = .spawn l next) (e : SpawnError) :
    Step cwd s { s with shell := next (.error e) }
  | wait {s pid next status} (hshell : s.shell = .wait pid next)
    (hending : s.machine.ending? pid = some status) :
    Step cwd s { s with shell := next (understood status) }
  | noWait {s pid next} (hshell : s.shell = .wait pid next) (e : SpawnError) :
    Step cwd s { s with shell := next (.error e) }
  | advance {s : System} {pid : Nat} {b : Beginning} {p : Process}
    (hbeginning : s.beginnings pid = some b) (hprocess : s.machine.processes[pid]? = some p)
    (hrunning : p.IsRunning) : Step cwd s (s.advance cwd pid b p)
  | become {s : System} {pid : Nat} {b : Beginning} {p : Process} {plan : Plan Nat}
    (hbeginning : s.beginnings pid = some b) (hprocess : s.machine.processes[pid]? = some p)
    (hrunning : p.IsRunning) (hplan : b.launch.plan = .ok plan) (hleft : b.left = [])
    (hpending : b.pending = []) (program : Program) : Step cwd s (s.become pid program)
  | program {s : System} {pid : Nat} {m : Machine} (hbeginning : s.beginnings pid = none)
    (hstep : s.machine.step pid = some m) : Step cwd s { s with machine := m }

/-- What a shell that stands in the directory `cwd` may come to, with the given plans. -/
def Reaches (cwd : NodeId) (plans : List (Except RedirectionError (Plan Nat))) (m : Machine) :
    System → Prop :=
  Relation.ReflTransGen (Step cwd) (start plans m)

/-! ## Steps of a beginning process -/

/-- What a process does before it is its program is confined to it. -/
theorem confined_advance {s : System} {pid : Nat} {p : Process} (cwd : NodeId) (b : Beginning)
    (hprocess : s.machine.processes[pid]? = some p) (hrunning : p.IsRunning) :
    Confined pid (textsOf b.pending) s.machine (s.advance cwd pid b p).machine := by
  have hgrows := Grows.advance cwd b p.descriptors s.machine
  have hfiles : ∀ file ∈ (b.advance cwd p.descriptors s.machine).2.1.files,
      MayGet (textsOf b.pending) p s.machine (b.advance cwd p.descriptors s.machine).2.2 file :=
    fun _ => mem_files_advance
  unfold System.advance
  split
  · rename_i b' d m heq
    rw [heq] at hgrows hfiles
    exact .of_modify hgrows hprocess hrunning _ hfiles
  · rename_i program d m heq
    rw [heq] at hgrows hfiles
    exact .of_acts (.setDescriptors hgrows hfiles program) hprocess hrunning

end System

end PipeShell.Machine
