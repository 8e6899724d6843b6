import PipeShell.Execution
import PipeShell.Plan

/-!
# Rehearsing a pipeline

A rehearsal starts no process. Its pipes are numbered ends, its processes are stage numbers, and its
captured texts are empty. It follows a script, which says how each stage ends and which steps fail,
and keeps a record of what was asked of it.

## Main definitions

* `Rehearsal.Script`: how each stage ends, and what fails
* `Rehearsal`: the record
* `Rehearsal.builder`, `Rehearsal.capture`: how pipelines are rehearsed
-/

namespace PipeShell

/-- One end of a numbered pipe. -/
inductive PipeEnd where
  | reader (pipe : Nat)
  | writer (pipe : Nat)
  deriving DecidableEq, Repr

/-- How each stage ends, and which steps fail with which cause. Stages without a status succeed.
After the stage `pipelessAfter` has been started no pipe can be made, until something is waited
for. Captures are numbered over the whole rehearsal. -/
structure Rehearsal.Script where
  statuses : List ExitStatus := []
  spawnFaults : List (Nat × Errno) := []
  waitFaults : List (Nat × Errno) := []
  pipelessAfter : Option Nat := none
  captureFaults : List (Nat × Errno) := []

/-- One thing asked of a rehearsal. -/
inductive RehearsalEvent where
  | spawned (launch : Launch PipeEnd Unit)
  | waited (stage : Nat)

/-- The record of a rehearsal, the latest first: the number of pipes made, whether pipes are used
up, what was asked, and the delimiters up to which text was to be captured. -/
structure Rehearsal where
  pipes : Nat := 0
  exhausted : Bool := false
  events : List RehearsalEvent := []
  captures : List String := []

namespace Rehearsal

/-- The next pipe, while there are any. -/
def pipe (r : Rehearsal) : Except Errno (PipeEnd × PipeEnd) × Rehearsal :=
  if r.exhausted then (.error .tooManyFiles, r)
  else (.ok (.reader r.pipes, .writer r.pipes), { r with pipes := r.pipes + 1 })

/-- Starts a stage, unless the script refuses it. -/
def spawn (script : Script) (l : Launch PipeEnd Unit) (r : Rehearsal) :
    Except SpawnError Nat × Rehearsal :=
  match script.spawnFaults.lookup l.stage with
  | some cause => (.error (.fork cause), r)
  | none =>
    (.ok l.stage,
      { r with
        events := .spawned l :: r.events
        exhausted := r.exhausted || script.pipelessAfter == some l.stage })

/-- Waits for a stage. -/
def wait (script : Script) (stage : Nat) (r : Rehearsal) :
    Except SpawnError ExitStatus × Rehearsal :=
  let r := { r with events := .waited stage :: r.events, exhausted := false }
  match script.waitFaults.lookup stage with
  | some cause => (.error (.wait cause), r)
  | none => (.ok (script.statuses.getD stage (.exited 0)), r)

/-- Pipes and processes of a rehearsal. -/
def builder (script : Script) : Builder Rehearsal PipeEnd Unit Nat where
  pipe := pipe
  close _ r := r
  spawn := spawn script
  wait := wait script

/-- Records a delimiter. -/
def capture (script : Script) : Capture Rehearsal Unit := fun delimiter r =>
  let index := r.captures.length
  let r := { r with captures := delimiter :: r.captures }
  match script.captureFaults.lookup index with
  | some cause => (.error cause, r)
  | none => (.ok (), r)

end Rehearsal

end PipeShell
