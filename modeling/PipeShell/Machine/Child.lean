import PipeShell.Execution
import PipeShell.Machine.Binding
import PipeShell.Machine.Schedule
import PipeShell.Machine.Stream

/-!
# Processes of a pipeline

A process starts with a copy of the shell's descriptors. Before it becomes its program it takes the
pipe ends meant for it as its standard streams, closes every other pipe end, and carries out its
bindings, which so win over the pipes. Whatever goes wrong is reported once on its standard error
and, once that is written, ends it with a status of its own:

* 1 if its words could not be resolved, or a file of its bindings could not be opened
* 126 if an argument holds a NUL character, or the program cannot be run
* 127 if there is no such program
* 0 if there is nothing to run

## Main definitions

* `launch`: what the process does before it runs its program, and that program
* `builder`: pipes and processes on a machine
-/

namespace PipeShell.Machine

/-- Reports a fault on standard error, and what the process goes on with: the given program, once
all has been written. Where nobody reads any more the process is ended by the signal for that, which
is not ignored any more. -/
def report (d : Descriptors) (m : Machine) (message : String) (next : Program) :
    Program × Machine :=
  let bytes := Text.Utf8.encode ("ish: " ++ message ++ "\n")
  match d.get? 2 with
  | none => (next, m)
  | some file =>
    match m.writeChunk file bytes with
    | (.all, m) | (.failed _, m) => (next, m)
    | (.part rest, m) => (.ask (.write 2 rest) fun _ => next, m)
    | (.waiting, m) => (.ask (.write 2 bytes) fun _ => next, m)
    | (.broken, m) => (.raise brokenPipeSignal, m)

/-- A descriptor of the process becomes what another one stands for. -/
def wire (source : Option Nat) (target : Nat) (d : Descriptors) : Descriptors :=
  match source.bind d.get? with
  | none => d
  | some file => d.place target file

/-- Closes descriptors, the standard ones excepted. -/
def closePipes (fds : List Nat) (d : Descriptors) : Descriptors :=
  fds.foldl (fun d fd => if 2 < fd then d.drop fd else d) d

/-- Why the arguments cannot be passed to a program: the first that holds a NUL character. -/
def invalidArgument? (args : List String) : Option ExecError :=
  (args.find? fun arg => arg.toList.contains '\x00').map .invalidArgument

/-- The program that the arguments stand for, or the fault that ends the process. -/
def programOf (m : Machine) (cwd : NodeId) (args : List String) : Except ExecError Program :=
  match invalidArgument? args with
  | some e => .error e
  | none =>
    match args with
    | [] => .ok (.leave 0)
    | name :: _ =>
      match become m.tree cwd m.environment args with
      | .ok program => .ok program
      | .error cause =>
        .error (if cause = .noEntry then .notFound name else .failed name cause)

/-- What a process does before it runs its program: its descriptors, what it goes on with, and the
machine afterwards. -/
def launch (cwd : NodeId) (l : Launch Nat Nat) (d : Descriptors) (m : Machine) :
    Descriptors × Program × Machine :=
  -- The ends are closed last: the ones that were needed stand for standard input and output now.
  let d := closePipes l.close (wire l.stdout 1 (wire l.stdin 0 d))
  match l.plan with
  | .error e => (d, report d m e.message (.leave 1))
  | .ok plan =>
    match apply cwd plan.bindings d m with
    -- The message goes where standard error leads by then.
    | (.error e, d, m) => (d, report d m e.message (.leave 1))
    | (.ok (), d, m) =>
      match m.programOf cwd plan.args with
      | .error e => (d, report d m e.message (.leave e.status.toNat))
      | .ok program => (d, program, m)

/-- Starts a process for a stage. -/
def spawn (cwd : NodeId) (l : Launch Nat Nat) (m : Machine) : Nat × Machine :=
  let (descriptors, program, m) := launch cwd l m.descriptors m
  m.addProcess { descriptors, cwd, umask := m.umask, image := .running program }

/-- The greatest number of a signal whose endings the shell understands. -/
def lastSignal : Int := 31

/-- An ending as the shell understands it. -/
def understood : ExitStatus → Except SpawnError ExitStatus
  | .exited code => .ok (.exited code)
  | .signaled signal =>
    if lastSignal < signal then .error (.wait .invalid) else .ok (.signaled signal)

/-- Waits for a process. One that is not there cannot be waited for, and the ending of one that was
ended by a signal unknown to the shell is not understood. -/
def wait (pid : Nat) (m : Machine) : Except SpawnError ExitStatus × Machine :=
  if m.processes.size ≤ pid then (.error (.wait .noChild), m)
  else match m.await pid with
    | (some status, m) => (understood status, m)
    | (none, m) => (.error (.wait .deadlock), m)

/-- Makes a pipe known to the shell. -/
def pipe (m : Machine) : (Nat × Nat) × Machine :=
  let ((reader, writer), m) := m.openPipe
  let (readFd, d) := m.descriptors.insertLeast reader
  let (writeFd, d) := d.insertLeast writer
  ((readFd, writeFd), { m with descriptors := d })

/-- Pipes and processes on a machine, for a shell that stands in a directory. -/
def builder (cwd : NodeId) : Builder Machine Nat Nat Nat where
  pipe m := let (ends, m) := m.pipe; (.ok ends, m)
  close fd m := { m with descriptors := m.descriptors.drop fd }
  spawn l m := let (pid, m) := spawn cwd l m; (.ok pid, m)
  wait := wait

end PipeShell.Machine
