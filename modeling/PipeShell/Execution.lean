import PipeShell.Error

/-!
# Carrying out a pipeline

One process is started for each stage, from left to right, with a pipe between each two neighbours,
and only then are they waited for, in the same order. Where a pipe or a process cannot be had, no
further stage is started, but the ones already running are still waited for.

How pipes and processes are made is left to a `Builder`. It owns a state, which every step passes on
whether it succeeds or fails. The shell's own copies of pipe ends are closed through the builder
too: after a stage has been started its neighbours' reader is all the shell keeps, and at the first
wait it keeps nothing.

## Main definitions

* `Launch`: what a process needs to know when it starts
* `Builder`: how pipes and processes are made
* `start`, `collect`: the two halves of the work
* `execute`: the endings of all stages, or the first fault
-/

namespace PipeShell

/-- What a process needs to know when it starts: its stage, the pipe ends that become its standard
input and output, the pipe ends that it must close, and its plan, or why there is none. -/
structure Launch (φ κ : Type) where
  stage : Nat
  stdin : Option φ
  stdout : Option φ
  close : List φ
  plan : Except RedirectionError (Plan κ)

/-- The program that a process is to become. -/
def Launch.program? {φ κ : Type} (l : Launch φ κ) : Option String :=
  match l.plan with
  | .ok plan => plan.program?
  | .error _ => none

/-- How pipes and processes are made: `φ` are pipe ends, `κ` captured texts, `η` processes. A pipe
is its reading end and its writing end. -/
structure Builder (σ φ κ η : Type) where
  pipe : σ → Except Errno (φ × φ) × σ
  close : φ → σ → σ
  spawn : Launch φ κ → σ → Except SpawnError η × σ
  wait : η → σ → Except SpawnError ExitStatus × σ

namespace Execution

variable {σ φ κ η : Type}

/-- What starting the stages came to: the processes started, in stage order, and the stage and kind
of the fault that ended it, if any. -/
structure Started (η : Type) where
  handles : List η
  fault : Option (Nat × SpawnError)

/-- One more process in front. -/
def Started.cons (handle : η) (s : Started η) : Started η :=
  { s with handles := handle :: s.handles }

/-- Closes the pipe ends, in order. -/
def closeAll (b : Builder σ φ κ η) (ends : List φ) (s : σ) : σ :=
  ends.foldl (fun s fd => b.close fd s) s

/-- Starts the stages from number `stage` on, of which the first reads from `carried`. At a fault
all pipe ends still at hand are closed. -/
def start (b : Builder σ φ κ η) :
    (stage : Nat) → (carried : Option φ) → List (Except RedirectionError (Plan κ)) → σ →
      Started η × σ
  | _, carried, [], s => (⟨[], none⟩, closeAll b carried.toList s)
  | stage, carried, [plan], s =>
    let launch := { stage, stdin := carried, stdout := none, close := carried.toList, plan }
    match b.spawn launch s with
    | (.error e, s) => (⟨[], some (stage, e)⟩, closeAll b carried.toList s)
    | (.ok handle, s) => (⟨[handle], none⟩, closeAll b carried.toList s)
  | stage, carried, plan :: rest, s =>
    match b.pipe s with
    | (.error cause, s) => (⟨[], some (stage, .pipe cause)⟩, closeAll b carried.toList s)
    | (.ok (reader, writer), s) =>
      let launch :=
        { stage, stdin := carried, stdout := some writer
          close := carried.toList ++ [writer, reader], plan }
      match b.spawn launch s with
      | (.error e, s) =>
        (⟨[], some (stage, e)⟩, closeAll b (writer :: reader :: carried.toList) s)
      | (.ok handle, s) =>
        -- The process has its own copies now. Were the writing end kept here, its reader would
        -- never meet the end of its input.
        let s := closeAll b (writer :: carried.toList) s
        let (started, s) := start b (stage + 1) (some reader) rest s
        (started.cons handle, s)

/-- Waits for the processes, in order, each whatever became of the others. -/
def collect (b : Builder σ φ κ η) : List η → σ → List (Except SpawnError ExitStatus) × σ
  | [], s => ([], s)
  | handle :: rest, s =>
    let (ending, s) := b.wait handle s
    let (endings, s) := collect b rest s
    (ending :: endings, s)

/-- The endings that waiting gave. -/
def reaped (endings : List (Except SpawnError ExitStatus)) : List ExitStatus :=
  endings.filterMap fun
    | .ok status => some status
    | .error _ => none

/-- The first wait that failed, with its stage. -/
def waitFault? : (stage : Nat) → List (Except SpawnError ExitStatus) → Option (Nat × SpawnError)
  | _, [] => none
  | stage, .error e :: _ => some (stage, e)
  | stage, .ok _ :: rest => waitFault? (stage + 1) rest

/-- The endings of all stages, or the fault: the one met while starting comes before any met while
waiting. -/
def outcome (fault : Option (Nat × SpawnError)) (endings : List (Except SpawnError ExitStatus)) :
    Except PipelineError (List ExitStatus) :=
  match fault.or (waitFault? 0 endings) with
  | none => .ok (reaped endings)
  | some (stage, source) => .error { stage, source, reaped := reaped endings }

end Execution

open Execution in
/-- Starts all stages and waits for them. -/
def execute {σ φ κ η : Type} (b : Builder σ φ κ η)
    (plans : List (Except RedirectionError (Plan κ))) (s : σ) :
    Except PipelineError (List ExitStatus) × σ :=
  let (started, s) := start b 0 none plans s
  let (endings, s) := collect b started.handles s
  (outcome started.fault endings, s)

end PipeShell
