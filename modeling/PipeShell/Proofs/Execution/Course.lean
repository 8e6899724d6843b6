import PipeShell.Proofs.Execution.Transcript

/-!
# The course of an execution

An execution is a sequence of actions, each chosen by the answers to those before it. Laid out as a
tree it needs no builder: it asks for something, and goes on in one way for every answer. So between
two actions anything may happen that a builder knows nothing of.

## Main definitions

* `Course`: what a shell still has to do
* `Course.run`: carries out a course with a builder
* `course plans`: the course of an execution
* `Builder.Views`: a builder works on a part of what another one works on

## Main results

* `run_course`: carried out with a builder, the course of an execution is the execution
* `Builder.Views.execute`: an execution on a richer state is the same as far as the coarser one is
  seen
-/

namespace PipeShell

namespace Execution

variable {σ φ κ η : Type}

/-- What a shell still has to do: nothing more, its work having come to something, or one action,
and what then depends on the answer. -/
inductive Course (φ κ η : Type) where
  | finished (result : Except PipelineError (List ExitStatus))
  | pipe (next : Except Errno (φ × φ) → Course φ κ η)
  | close (fd : φ) (next : Course φ κ η)
  | spawn (launch : Launch φ κ) (next : Except SpawnError η → Course φ κ η)
  | wait (handle : η) (next : Except SpawnError ExitStatus → Course φ κ η)

namespace Course

/-- Carries out a course with a builder. -/
def run (b : Builder σ φ κ η) :
    Course φ κ η → σ → Except PipelineError (List ExitStatus) × σ
  | finished result, s => (result, s)
  | pipe next, s => (next (b.pipe s).1).run b (b.pipe s).2
  | close fd next, s => next.run b (b.close fd s)
  | spawn launch next, s => (next (b.spawn launch s).1).run b (b.spawn launch s).2
  | wait handle next, s => (next (b.wait handle s).1).run b (b.wait handle s).2

/-- Closes the pipe ends, in order, before something else. -/
def closings (ends : List φ) (next : Course φ κ η) : Course φ κ η := ends.foldr close next

/-- Waits for the processes, in order, whose predecessors have ended in the given ways. -/
def waits (fault : Option (Nat × SpawnError)) (endings : List (Except SpawnError ExitStatus)) :
    List η → Course φ κ η
  | [] => finished (outcome fault endings)
  | handle :: rest => wait handle fun ending => waits fault (endings ++ [ending]) rest

/-- Starts the last stage, and then waits. -/
def lastRound (stage : Nat) (carried : Option φ) (plan : Except RedirectionError (Plan κ))
    (handles : List η) : Course φ κ η :=
  spawn (lastLaunch stage carried plan) fun
    | .error e => closings carried.toList (waits (some (stage, e)) [] handles)
    | .ok handle => closings carried.toList (waits none [] (handles ++ [handle]))

/-- Starts a stage in front of a pipe that has been made, and then goes on with the later ones. -/
def innerRound (stage : Nat) (carried : Option φ) (reader writer : φ)
    (plan : Except RedirectionError (Plan κ)) (later : List η → Course φ κ η) (handles : List η) :
    Course φ κ η :=
  spawn (innerLaunch stage carried reader writer plan) fun
    | .error e => closings (writer :: reader :: carried.toList) (waits (some (stage, e)) [] handles)
    | .ok handle => closings (writer :: carried.toList) (later (handles ++ [handle]))

/-- Starts the stages from number `stage` on, of which the first reads from `carried`, and then
waits for them and for those that run already. -/
def rounds : (stage : Nat) → (carried : Option φ) → List (Except RedirectionError (Plan κ)) →
    (handles : List η) → Course φ κ η
  | _, carried, [], handles => closings carried.toList (waits none [] handles)
  | stage, carried, [plan], handles => lastRound stage carried plan handles
  | stage, carried, plan :: next :: rest, handles =>
    pipe fun
      | .error cause => closings carried.toList (waits (some (stage, .pipe cause)) [] handles)
      | .ok (reader, writer) =>
        innerRound stage carried reader writer plan
          (rounds (stage + 1) (some reader) (next :: rest)) handles

end Course

/-- The course of an execution. -/
def course (plans : List (Except RedirectionError (Plan κ))) : Course φ κ η :=
  .rounds 0 none plans []

/-! ## Carrying out the course -/

section Run

variable (b : Builder σ φ κ η)

@[simp] theorem run_closings (ends : List φ) (next : Course φ κ η) (s : σ) :
    (Course.closings ends next).run b s = next.run b (closeAll b ends s) := by
  induction ends generalizing s with
  | nil => rfl
  | cons fd ends ih => exact ih (b.close fd s)

@[simp] theorem run_waits (fault : Option (Nat × SpawnError))
    (endings : List (Except SpawnError ExitStatus)) (handles : List η) (s : σ) :
    (Course.waits fault endings handles : Course φ κ η).run b s =
      (outcome fault (endings ++ (collect b handles s).1), (collect b handles s).2) := by
  induction handles generalizing endings s with
  | nil => simp [Course.waits, Course.run, collect]
  | cons handle rest ih => simp [Course.waits, Course.run, ih, collect]

/-- Carrying out the rounds starts the stages, and then waits for all that run. -/
theorem run_rounds (stage : Nat) (carried : Option φ)
    (plans : List (Except RedirectionError (Plan κ))) (handles : List η) (s : σ) :
    (Course.rounds stage carried plans handles).run b s =
      let (started, s) := start b stage carried plans s
      let (endings, s) := collect b (handles ++ started.handles) s
      (outcome started.fault endings, s) := by
  fun_induction start b stage carried plans s generalizing handles with
  | case1 stage carried s => simp [Course.rounds]
  | case2 stage carried plan s launch e after h =>
    simp only [launch] at h
    simp [Course.rounds, Course.lastRound, Course.run, lastLaunch, h]
  | case3 stage carried plan s launch handle after h =>
    simp only [launch] at h
    simp [Course.rounds, Course.lastRound, Course.run, lastLaunch, h]
  | case4 stage carried plan rest s hne cause after h =>
    obtain ⟨next, rest, rfl⟩ := List.exists_cons_of_ne_nil hne
    simp [Course.rounds, Course.run, h]
  | case5 stage carried plan rest s hne reader writer after hp launch e after' h =>
    obtain ⟨next, rest, rfl⟩ := List.exists_cons_of_ne_nil hne
    simp only [launch] at h
    simp [Course.rounds, Course.innerRound, Course.run, hp, innerLaunch, h]
  | case6 stage carried plan rest s hne reader writer after hp launch handle after' h s' started
      s'' hs ih =>
    obtain ⟨next, rest, rfl⟩ := List.exists_cons_of_ne_nil hne
    simp only [launch] at h
    -- The process of this round comes in front of those of the later ones.
    have hlater := ih (handles ++ [handle])
    simp only [s', hs, List.append_assoc, List.singleton_append] at hlater
    simp [Course.rounds, Course.innerRound, Course.run, hp, innerLaunch, h, hlater, Started.cons]

/-- **The course of an execution** is the execution, whatever the builder. -/
theorem run_course (plans : List (Except RedirectionError (Plan κ))) (s : σ) :
    (course plans).run b s = execute b plans s := by
  simp [course, run_rounds, execute]

end Run

end Execution

/-! ## Richer builders -/

/-- What a builder does on a state can be seen on a richer one, on which another builder works. -/
structure Builder.Views {σ τ φ κ η : Type} (fine : Builder τ φ κ η) (coarse : Builder σ φ κ η)
    (view : τ → σ) : Prop where
  pipe : ∀ t, coarse.pipe (view t) = ((fine.pipe t).1, view (fine.pipe t).2)
  close : ∀ fd t, coarse.close fd (view t) = view (fine.close fd t)
  spawn : ∀ l t, coarse.spawn l (view t) = ((fine.spawn l t).1, view (fine.spawn l t).2)
  wait : ∀ h t, coarse.wait h (view t) = ((fine.wait h t).1, view (fine.wait h t).2)

namespace Builder.Views

variable {σ τ φ κ η : Type} {fine : Builder τ φ κ η} {coarse : Builder σ φ κ η} {view : τ → σ}
  (views : fine.Views coarse view)

include views

theorem run (course : Execution.Course φ κ η) (t : τ) :
    course.run coarse (view t) = ((course.run fine t).1, view (course.run fine t).2) := by
  induction course generalizing t with
  | finished result => rfl
  | pipe next ih => simp only [Execution.Course.run, views.pipe, ih]
  | close fd next ih => simp only [Execution.Course.run, views.close, ih]
  | spawn launch next ih => simp only [Execution.Course.run, views.spawn, ih]
  | wait handle next ih => simp only [Execution.Course.run, views.wait, ih]

/-- An execution on a richer state is the same as far as the coarser one is seen. -/
theorem execute (plans : List (Except RedirectionError (Plan κ))) (t : τ) :
    PipeShell.execute coarse plans (view t) =
      ((PipeShell.execute fine plans t).1, view (PipeShell.execute fine plans t).2) := by
  rw [← Execution.run_course, ← Execution.run_course]
  exact views.run _ t

end Builder.Views

end PipeShell
