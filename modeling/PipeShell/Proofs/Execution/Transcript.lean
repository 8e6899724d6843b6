import PipeShell.Execution

/-!
# The transcript of an execution

Whatever a builder is, it can be asked to keep a record: the actions that the execution asks of it,
in order, each with its answer. Recording changes nothing else, so the record is what the execution
does. It has two parts. The opening makes pipes, starts processes and closes pipe ends; the rest
waits, once for each process of the opening.

An opening goes round by round, one round a stage, until the last stage or the first fault. The
relation `Opening` has one rule for each way a round can go, and everything said about openings is
said by induction on it.

## Main definitions

* `Action`: one thing asked of a builder, with its answer
* `Builder.recorded`: a builder that keeps a record
* `transcript`: the record of an execution
* `Opening`: the ways in which starting the stages can go
* `Builder.Keeps`: no step of a builder breaks a property of its state

## Main results

* `start_recorded`: what starting the stages asks for is an opening
* `execute_recorded`: recording changes nothing, and the transcript is an opening and then the waits
* `Builder.Keeps.execute`: what no step breaks, an execution keeps
-/

namespace PipeShell

/-- One thing asked of a builder, with its answer. -/
inductive Execution.Action (φ κ η : Type) where
  | pipe (answer : Except Errno (φ × φ))
  | close (fd : φ)
  | spawn (launch : Launch φ κ) (answer : Except SpawnError η)
  | wait (handle : η) (answer : Except SpawnError ExitStatus)

open Execution in
/-- The same builder, which besides keeps a record of what it is asked, the latest last. -/
def Builder.recorded {σ φ κ η : Type} (b : Builder σ φ κ η) :
    Builder (σ × List (Action φ κ η)) φ κ η where
  pipe s :=
    let (answer, after) := b.pipe s.1
    (answer, after, s.2 ++ [.pipe answer])
  close fd s := (b.close fd s.1, s.2 ++ [.close fd])
  spawn l s :=
    let (answer, after) := b.spawn l s.1
    (answer, after, s.2 ++ [.spawn l answer])
  wait h s :=
    let (answer, after) := b.wait h s.1
    (answer, after, s.2 ++ [.wait h answer])

namespace Execution

variable {σ φ κ η : Type}

/-- What an execution asks of its builder, in order. -/
def transcript (b : Builder σ φ κ η) (plans : List (Except RedirectionError (Plan κ))) (s : σ) :
    List (Action φ κ η) :=
  (execute b.recorded plans (s, [])).2.2

namespace Action

/-- The process that an action started, with what it was given. -/
def spawned? : Action φ κ η → Option (Launch φ κ × η)
  | spawn launch (.ok handle) => some (launch, handle)
  | _ => none

/-- The process that an action waited for, with the answer. -/
def waited? : Action φ κ η → Option (η × Except SpawnError ExitStatus)
  | wait handle answer => some (handle, answer)
  | _ => none

/-- The pipe that an action made. -/
def piped? : Action φ κ η → Option (φ × φ)
  | pipe (.ok ends) => some ends
  | _ => none

/-- The fault of an action that could not make its pipe or start its process. -/
def fault? : Action φ κ η → Option SpawnError
  | pipe (.error cause) => some (.pipe cause)
  | spawn _ (.error e) => some e
  | _ => none

section Views

variable (answer : Except Errno (φ × φ)) (fd : φ) (launch : Launch φ κ) (handle : η)
  (ending : Except SpawnError ExitStatus)

@[simp] theorem spawned?_pipe : (pipe answer : Action φ κ η).spawned? = none := rfl

@[simp] theorem spawned?_close : (close fd : Action φ κ η).spawned? = none := rfl

@[simp] theorem spawned?_spawn_ok :
    (spawn launch (.ok handle)).spawned? = some (launch, handle) := rfl

@[simp] theorem spawned?_spawn_error (e : SpawnError) :
    (spawn launch (.error e) : Action φ κ η).spawned? = none := rfl

@[simp] theorem spawned?_wait : (wait handle ending : Action φ κ η).spawned? = none := rfl

@[simp] theorem waited?_pipe : (pipe answer : Action φ κ η).waited? = none := rfl

@[simp] theorem waited?_close : (close fd : Action φ κ η).waited? = none := rfl

@[simp] theorem waited?_spawn (started : Except SpawnError η) :
    (spawn launch started).waited? = none := rfl

@[simp] theorem waited?_wait :
    (wait handle ending : Action φ κ η).waited? = some (handle, ending) := rfl

@[simp] theorem fault?_pipe_ok (ends : φ × φ) :
    (pipe (.ok ends) : Action φ κ η).fault? = none := rfl

@[simp] theorem fault?_pipe_error (cause : Errno) :
    (pipe (.error cause) : Action φ κ η).fault? = some (.pipe cause) := rfl

@[simp] theorem fault?_close : (close fd : Action φ κ η).fault? = none := rfl

@[simp] theorem fault?_spawn_ok : (spawn launch (.ok handle)).fault? = none := rfl

@[simp] theorem fault?_spawn_error (e : SpawnError) :
    (spawn launch (.error e) : Action φ κ η).fault? = some e := rfl

@[simp] theorem fault?_wait : (wait handle ending : Action φ κ η).fault? = none := rfl

end Views

end Action

/-- The processes that an execution starts, in order, each with what it was given. -/
def processes (b : Builder σ φ κ η) (plans : List (Except RedirectionError (Plan κ))) (s : σ) :
    List (Launch φ κ × η) :=
  (transcript b plans s).filterMap Action.spawned?

/-- The waits of an execution, in order, each with its process and its answer. -/
def waits (b : Builder σ φ κ η) (plans : List (Except RedirectionError (Plan κ))) (s : σ) :
    List (η × Except SpawnError ExitStatus) :=
  (transcript b plans s).filterMap Action.waited?

/-- The closing of pipe ends, in order. -/
def closing (ends : List φ) : List (Action φ κ η) := ends.map .close

/-- The launch of a stage that is not the last. -/
def innerLaunch (stage : Nat) (carried : Option φ) (reader writer : φ)
    (plan : Except RedirectionError (Plan κ)) : Launch φ κ :=
  { stage, stdin := carried, stdout := some writer
    close := carried.toList ++ [writer, reader], plan }

/-- The launch of the last stage. -/
def lastLaunch (stage : Nat) (carried : Option φ) (plan : Except RedirectionError (Plan κ)) :
    Launch φ κ :=
  { stage, stdin := carried, stdout := none, close := carried.toList, plan }

/-- The ways in which starting the stages from number `stage` on can go, of which the first reads
from `carried`: what is asked, and what is started. -/
inductive Opening :
    Nat → Option φ → List (Except RedirectionError (Plan κ)) → List (Action φ κ η) → Started η →
      Prop where
  | nothing (stage carried) : Opening stage carried [] (closing carried.toList) ⟨[], none⟩
  | last (stage carried plan handle) :
    Opening stage carried [plan]
      (.spawn (lastLaunch stage carried plan) (.ok handle) :: closing carried.toList)
      ⟨[handle], none⟩
  | lastRefused (stage carried plan e) :
    Opening stage carried [plan]
      (.spawn (lastLaunch stage carried plan) (.error e) :: closing carried.toList)
      ⟨[], some (stage, e)⟩
  | unpiped (stage carried plan next rest cause) :
    Opening stage carried (plan :: next :: rest)
      (.pipe (.error cause) :: closing carried.toList) ⟨[], some (stage, .pipe cause)⟩
  | refused (stage carried plan next rest reader writer e) :
    Opening stage carried (plan :: next :: rest)
      (.pipe (.ok (reader, writer)) ::
        .spawn (innerLaunch stage carried reader writer plan) (.error e) ::
          closing (writer :: reader :: carried.toList))
      ⟨[], some (stage, e)⟩
  | round (stage carried plan next rest reader writer handle actions started)
    (later : Opening (stage + 1) (some reader) (next :: rest) actions started) :
    Opening stage carried (plan :: next :: rest)
      (.pipe (.ok (reader, writer)) ::
        .spawn (innerLaunch stage carried reader writer plan) (.ok handle) ::
          (closing (writer :: carried.toList) ++ actions))
      (started.cons handle)

/-! ## Recording changes nothing -/

section Recording

variable (b : Builder σ φ κ η) (s : σ) (log : List (Action φ κ η))

@[simp] theorem pipe_recorded :
    b.recorded.pipe (s, log) = ((b.pipe s).1, (b.pipe s).2, log ++ [.pipe (b.pipe s).1]) := rfl

@[simp] theorem close_recorded (fd : φ) :
    b.recorded.close fd (s, log) = (b.close fd s, log ++ [.close fd]) := rfl

@[simp] theorem spawn_recorded (l : Launch φ κ) :
    b.recorded.spawn l (s, log) =
      ((b.spawn l s).1, (b.spawn l s).2, log ++ [.spawn l (b.spawn l s).1]) := rfl

@[simp] theorem wait_recorded (h : η) :
    b.recorded.wait h (s, log) =
      ((b.wait h s).1, (b.wait h s).2, log ++ [.wait h (b.wait h s).1]) := rfl

theorem closeAll_recorded (ends : List φ) :
    closeAll b.recorded ends (s, log) = (closeAll b ends s, log ++ closing ends) := by
  induction ends generalizing s log with
  | nil => simp [closeAll, closing]
  | cons fd ends ih =>
    have := ih (b.close fd s) (log ++ [.close fd])
    simpa [closeAll, closing] using this

/-- What starting the stages asks for is an opening, and recording it changes nothing. -/
theorem start_recorded (stage : Nat) (carried : Option φ)
    (plans : List (Except RedirectionError (Plan κ))) :
    ∃ actions, Opening stage carried plans actions (start b stage carried plans s).1 ∧
      start b.recorded stage carried plans (s, log) =
        ((start b stage carried plans s).1, (start b stage carried plans s).2, log ++ actions) := by
  -- Each case of the recursion is a rule of `Opening`, in the same order.
  fun_induction start b stage carried plans s generalizing log with
  | case1 stage carried s =>
    exact ⟨_, .nothing stage carried, by simp [start, closeAll_recorded]⟩
  | case2 stage carried plan s launch e after h =>
    refine ⟨_, .lastRefused stage carried plan e, ?_⟩
    simp only [launch] at h
    simp [start, h, closeAll_recorded, lastLaunch]
  | case3 stage carried plan s launch handle after h =>
    refine ⟨_, .last stage carried plan handle, ?_⟩
    simp only [launch] at h
    simp [start, h, closeAll_recorded, lastLaunch]
  | case4 stage carried plan rest s hne cause after h =>
    obtain ⟨next, rest, rfl⟩ := List.exists_cons_of_ne_nil hne
    refine ⟨_, .unpiped stage carried plan next rest cause, ?_⟩
    simp [start, h, closeAll_recorded]
  | case5 stage carried plan rest s hne reader writer after hp launch e after' h =>
    obtain ⟨next, rest, rfl⟩ := List.exists_cons_of_ne_nil hne
    refine ⟨_, .refused stage carried plan next rest reader writer e, ?_⟩
    simp only [launch] at h
    simp [start, hp, h, closeAll_recorded, innerLaunch]
  | case6 stage carried plan rest s hne reader writer after hp launch handle after' h s' started
      s'' hs ih =>
    obtain ⟨next, rest, rfl⟩ := List.exists_cons_of_ne_nil hne
    -- The later rounds are recorded behind this one.
    obtain ⟨actions, hopen, heq⟩ := ih (log ++ .pipe (.ok (reader, writer)) ::
      .spawn (innerLaunch stage carried reader writer plan) (.ok handle) ::
        closing (writer :: carried.toList))
    rw [hs] at hopen heq
    refine ⟨_, .round stage carried plan next rest reader writer handle actions started hopen, ?_⟩
    simp only [launch] at h
    simp only [s', innerLaunch] at heq
    simp [start, hp, h, closeAll_recorded, innerLaunch, heq]

/-- Recording the waits changes nothing. -/
theorem collect_recorded (handles : List η) :
    collect b.recorded handles (s, log) =
      ((collect b handles s).1, (collect b handles s).2,
        log ++ List.zipWith .wait handles (collect b handles s).1) := by
  induction handles generalizing s log with
  | nil => simp [collect]
  | cons handle rest ih => simp [collect, ih]

omit log

theorem length_collect (handles : List η) : (collect b handles s).1.length = handles.length := by
  induction handles generalizing s with
  | nil => rfl
  | cons handle rest ih => simp [collect, ih]

/-- **Recording changes nothing**, and what it records is an opening and then the waits, one for
each process of the opening. The outcome is made of the fault of the one and the answers of the
other. -/
theorem execute_recorded (plans : List (Except RedirectionError (Plan κ))) :
    ∃ (actions : List (Action φ κ η)) (started : Started η)
      (endings : List (Except SpawnError ExitStatus)),
      Opening 0 none plans actions started ∧ endings.length = started.handles.length ∧
      transcript b plans s = actions ++ List.zipWith .wait started.handles endings ∧
      (execute b plans s).1 = outcome started.fault endings ∧
      execute b.recorded plans (s, []) =
        ((execute b plans s).1, (execute b plans s).2, transcript b plans s) := by
  obtain ⟨actions, hopen, hstart⟩ := start_recorded b s [] 0 none plans
  -- The waits are recorded behind the opening.
  have hrun : execute b.recorded plans (s, []) =
      ((execute b plans s).1, (execute b plans s).2,
        actions ++ List.zipWith .wait (start b 0 none plans s).1.handles
          (collect b (start b 0 none plans s).1.handles (start b 0 none plans s).2).1) := by
    simp [execute, hstart, collect_recorded]
  refine ⟨actions, _, _, hopen, length_collect b _ _, ?_, rfl, ?_⟩
  · rw [transcript, hrun]
  · rw [transcript, hrun]

end Recording

end Execution

/-! ## What every step keeps -/

/-- No step of a builder breaks a property of its state. -/
structure Builder.Keeps {σ φ κ η : Type} (b : Builder σ φ κ η) (P : σ → Prop) : Prop where
  pipe : ∀ s, P s → P (b.pipe s).2
  close : ∀ fd s, P s → P (b.close fd s)
  spawn : ∀ l s, P s → P (b.spawn l s).2
  wait : ∀ h s, P s → P (b.wait h s).2

namespace Builder.Keeps

variable {σ φ κ η : Type} {b : Builder σ φ κ η} {P : σ → Prop} (keeps : b.Keeps P)

include keeps

theorem of_pipe {s after : σ} {answer : Except Errno (φ × φ)} (h : P s)
    (hpipe : b.pipe s = (answer, after)) : P after := by
  have := keeps.pipe s h
  rwa [hpipe] at this

theorem of_spawn {s after : σ} {l : Launch φ κ} {answer : Except SpawnError η} (h : P s)
    (hspawn : b.spawn l s = (answer, after)) : P after := by
  have := keeps.spawn l s h
  rwa [hspawn] at this

theorem closeAll (ends : List φ) {s : σ} (h : P s) : P (Execution.closeAll b ends s) := by
  induction ends generalizing s with
  | nil => exact h
  | cons fd ends ih => exact ih (keeps.close fd s h)

theorem start (stage : Nat) (carried : Option φ)
    (plans : List (Except RedirectionError (Plan κ))) {s : σ} (h : P s) :
    P (Execution.start b stage carried plans s).2 := by
  fun_induction Execution.start b stage carried plans s with
  | case1 stage carried s => exact keeps.closeAll _ h
  | case2 stage carried plan s launch e after hspawn =>
    exact keeps.closeAll _ (keeps.of_spawn h hspawn)
  | case3 stage carried plan s launch handle after hspawn =>
    exact keeps.closeAll _ (keeps.of_spawn h hspawn)
  | case4 stage carried plan rest s hne cause after hpipe =>
    exact keeps.closeAll _ (keeps.of_pipe h hpipe)
  | case5 stage carried plan rest s hne reader writer after hpipe launch e after' hspawn =>
    have hpiped := keeps.of_pipe h hpipe
    exact keeps.closeAll _ (keeps.of_spawn hpiped hspawn)
  | case6 stage carried plan rest s hne reader writer after hpipe launch handle after' hspawn s'
      started s'' hlater ih =>
    have hpiped := keeps.of_pipe h hpipe
    have hspawned := keeps.of_spawn hpiped hspawn
    rw [hlater] at ih
    exact ih (keeps.closeAll _ hspawned)

theorem collect (handles : List η) {s : σ} (h : P s) : P (Execution.collect b handles s).2 := by
  induction handles generalizing s with
  | nil => exact h
  | cons handle rest ih => exact ih (keeps.wait handle s h)

/-- What no step of the builder breaks, an execution keeps. -/
theorem execute (plans : List (Except RedirectionError (Plan κ))) {s : σ} (h : P s) :
    P (PipeShell.execute b plans s).2 :=
  keeps.collect _ (keeps.start 0 none plans h)

end Builder.Keeps

end PipeShell
