import Mathlib.Algebra.Order.Group.Multiset
import PipeShell.Proofs.Execution.Reaping

/-!
# Wiring, and who holds the pipe ends

Between each two neighbours stands one pipe: the stage in front of it writes, the stage behind it
reads. What a process is given besides its own plan follows from its place alone, and it is told to
close exactly the ends that the shell holds when it is started.

The shell itself keeps little. The pipe ends that it holds can be counted off the transcript: a pipe
adds two, closing takes one away. Between two rounds it holds the reading end of the last pipe and
nothing else, and when the starting is over, however it went, it holds nothing.

## Main definitions

* `held`: the pipe ends that the shell holds after some actions
* `wire`: the launch of a stage, from its place and the pipes
* `BetweenRounds`: the invariant of the rounds
* `Placed`: what is asked is in its place

## Main results

* `Opening.placed`: everything an opening asks for is in its place, and it leaves nothing held
* `launches_wired`: the launches of an execution, and what the shell holds along it
-/

namespace PipeShell.Execution

variable {σ φ κ η : Type}

open Execution.Action (spawned? piped?)

namespace Action

section Views

variable (answer : Except Errno (φ × φ)) (fd : φ) (launch : Launch φ κ)

@[simp] theorem piped?_pipe_ok (ends : φ × φ) :
    (pipe (.ok ends) : Action φ κ η).piped? = some ends := rfl

@[simp] theorem piped?_close : (close fd : Action φ κ η).piped? = none := rfl

@[simp] theorem piped?_spawn (started : Except SpawnError η) :
    (spawn launch started).piped? = none := rfl

end Views

/-- Only a pipe end is closed. -/
def isClose : Action φ κ η → Bool
  | close _ => true
  | _ => false

/-- What the shell holds after an action, where it held `ends` before. -/
def hold [DecidableEq φ] (ends : Multiset φ) : Action φ κ η → Multiset φ
  | pipe (.ok (reader, writer)) => reader ::ₘ writer ::ₘ ends
  | close fd => ends.erase fd
  | _ => ends

section Holding

variable [DecidableEq φ] (ends : Multiset φ) (launch : Launch φ κ)

@[simp] theorem hold_pipe_ok (reader writer : φ) :
    (pipe (.ok (reader, writer)) : Action φ κ η).hold ends = reader ::ₘ writer ::ₘ ends := rfl

@[simp] theorem hold_pipe_error (cause : Errno) :
    (pipe (.error cause) : Action φ κ η).hold ends = ends := rfl

@[simp] theorem hold_close (fd : φ) : (close fd : Action φ κ η).hold ends = ends.erase fd := rfl

@[simp] theorem hold_spawn (answer : Except SpawnError η) :
    (spawn launch answer).hold ends = ends := rfl

@[simp] theorem hold_wait (handle : η) (ending : Except SpawnError ExitStatus) :
    (wait handle ending : Action φ κ η).hold ends = ends := rfl

end Holding

end Action

/-- The pipe ends that the shell holds after some actions. -/
def held [DecidableEq φ] (actions : List (Action φ κ η)) : Multiset φ :=
  actions.foldl Action.hold 0

/-- The reading end of the pipe in front of a stage. -/
def readerBefore? (pipes : List (φ × φ)) : (stage : Nat) → Option φ
  | 0 => none
  | stage + 1 => pipes[stage]?.map Prod.fst

/-- The launch of a stage of `n`, with these pipes: it reads from the pipe in front of it, writes to
the one behind it, and closes what there is of their ends. -/
def wire (n : Nat) (pipes : List (φ × φ)) (stage : Nat) (plan : Except RedirectionError (Plan κ)) :
    Launch φ κ :=
  let behind := if stage + 1 < n then pipes[stage]? else none
  { stage
    stdin := readerBefore? pipes stage
    stdout := behind.map Prod.snd
    close := (readerBefore? pipes stage).toList ++ behind.elim [] (fun ends => [ends.2, ends.1])
    plan }

/-- A process is started in its place: it is the next stage, it is wired to the pipes made so far,
and what it must close is what the shell holds. Once it is started and the closing that follows is
over, the shell holds the reading end of the pipe behind it. -/
structure Wired [DecidableEq φ] (stages : List (Except RedirectionError (Plan κ)))
    (before : List (Action φ κ η)) (launch : Launch φ κ) (answer : Except SpawnError η)
    (after : List (Action φ κ η)) : Prop where
  stage_eq : launch.stage = (before.filterMap spawned?).length
  plan_eq : stages[launch.stage]? = some launch.plan
  length_pipes : (before.filterMap piped?).length = min (launch.stage + 1) (stages.length - 1)
  launch_eq : launch = wire stages.length (before.filterMap piped?) launch.stage launch.plan
  stdin_eq_none_iff : launch.stdin = none ↔ launch.stage = 0
  stdout_eq_none_iff : launch.stdout = none ↔ launch.stage + 1 = stages.length
  close_eq : (launch.close : Multiset φ) = held before
  held_after : ∀ handle, answer = .ok handle →
    held (before ++ .spawn launch answer :: after.takeWhile Action.isClose) =
      ((readerBefore? (before.filterMap piped?) (launch.stage + 1)).toList : Multiset φ)

/-- What is asked is in its place: a process is wired to its neighbours, only what is held is
closed, and nothing is held when a process is waited for. -/
def Placed [DecidableEq φ] (stages : List (Except RedirectionError (Plan κ)))
    (before : List (Action φ κ η)) : Action φ κ η → List (Action φ κ η) → Prop
  | .pipe _, _ => True
  | .close fd, _ => fd ∈ held before
  | .spawn launch answer, after => Wired stages before launch answer after
  | .wait _ _, _ => held before = 0

/-! ## Along a list -/

section Throughout

variable {α : Type} {P : List α → α → List α → Prop}

/-- `P` holds of each member of a list, between what stands before it and what stands after it. -/
def Throughout (P : List α → α → List α → Prop) (done : List α) : List α → Prop
  | [] => True
  | a :: rest => P done a rest ∧ Throughout P (done ++ [a]) rest

theorem throughout_append {done l m : List α} :
    Throughout P done (l ++ m) ↔
      Throughout (fun before a after => P before a (after ++ m)) done l ∧
        Throughout P (done ++ l) m := by
  induction l generalizing done with
  | nil => simp [Throughout]
  | cons a l ih => simp [Throughout, ih, and_assoc]

theorem Throughout.of_eq {done l before after : List α} {a : α} (h : Throughout P done l)
    (hl : l = before ++ a :: after) : P (done ++ before) a after := by
  subst hl
  exact (throughout_append.mp h).2.1

end Throughout

/-! ## What is held -/

section Held

variable [DecidableEq φ] (done : List (Action φ κ η)) (ends : List φ)

@[simp] theorem held_nil : held ([] : List (Action φ κ η)) = 0 := rfl

theorem held_append_cons (a : Action φ κ η) (rest : List (Action φ κ η)) :
    held (done ++ a :: rest) = held ((done ++ [a]) ++ rest) := by
  rw [List.append_assoc, List.singleton_append]

@[simp] theorem held_concat (a : Action φ κ η) : held (done ++ [a]) = a.hold (held done) := by
  rw [held, List.foldl_append]
  rfl

theorem held_append_closing :
    held (done ++ closing ends) = held done - (ends : Multiset φ) := by
  induction ends generalizing done with
  | nil => simp [closing]
  | cons fd ends ih =>
    calc held (done ++ closing (fd :: ends))
        = held ((done ++ [.close fd]) ++ closing ends) := held_append_cons ..
      _ = (held done).erase fd - (ends : Multiset φ) := by
        rw [ih, held_concat, Action.hold_close]
      _ = held done - ((fd :: ends : List φ) : Multiset φ) := (Multiset.sub_cons ..).symm

theorem held_append_waits (handles : List η) (endings : List (Except SpawnError ExitStatus)) :
    held (done ++ List.zipWith .wait handles endings) = held done := by
  induction handles generalizing endings done with
  | nil => simp
  | cons handle rest ih =>
    cases endings with
    | nil => simp
    | cons ending endings =>
      rw [List.zipWith_cons_cons, held_append_cons, ih, held_concat, Action.hold_wait]

variable {done ends}

/-- Closing some of what is held leaves the others. -/
theorem held_closing_eq {others : List φ}
    (h : held done = ((ends ++ others : List φ) : Multiset φ)) :
    held (done ++ closing ends) = (others : Multiset φ) := by
  rw [held_append_closing, h, ← Multiset.coe_add, add_tsub_cancel_left]

/-- Closing all of what is held leaves nothing. -/
theorem held_closing_eq_zero (h : held done = (ends : Multiset φ)) :
    held (done ++ closing ends) = 0 := by
  rw [← Multiset.coe_nil]
  refine held_closing_eq ?_
  rw [h, List.append_nil]

/-- Only what is held is closed. -/
theorem throughout_closing {stages : List (Except RedirectionError (Plan κ))}
    {tail : List (Action φ κ η)} (h : (ends : Multiset φ) ≤ held done) :
    Throughout (fun before a after => Placed stages before a (after ++ tail)) done
      (closing ends) := by
  induction ends generalizing done with
  | nil => trivial
  | cons fd ends ih =>
    refine ⟨Multiset.mem_of_le h (by simp), ih ?_⟩
    rw [held_concat]
    have := Multiset.erase_le_erase fd h
    rwa [← Multiset.cons_coe, Multiset.erase_cons_head] at this

/-- Where nothing is held, nothing is held at the waits. -/
theorem throughout_waits {stages : List (Except RedirectionError (Plan κ))} (h : held done = 0)
    (handles : List η) (endings : List (Except SpawnError ExitStatus)) :
    Throughout (Placed stages) done (List.zipWith .wait handles endings) := by
  induction handles generalizing endings done with
  | nil => trivial
  | cons handle rest ih =>
    cases endings with
    | nil => trivial
    | cons ending endings =>
      refine ⟨h, ih ?_ endings⟩
      rw [held_concat]
      exact h

end Held

/-! ## The rounds -/

@[simp] theorem piped?_closing (ends : List φ) :
    (closing ends : List (Action φ κ η)).filterMap piped? = [] := by
  simp [closing]

theorem takeWhile_closing (ends : List φ) {rest : List (Action φ κ η)}
    (h : rest.takeWhile Action.isClose = []) :
    (closing ends ++ rest).takeWhile Action.isClose = closing ends := by
  induction ends with
  | nil => simpa [closing] using h
  | cons fd ends ih => exact congrArg (Action.close fd :: ·) ih

@[simp] theorem takeWhile_waits (handles : List η)
    (endings : List (Except SpawnError ExitStatus)) :
    (List.zipWith .wait handles endings : List (Action φ κ η)).takeWhile Action.isClose = [] := by
  cases handles <;> cases endings <;> rfl

/-- Where stages are left, the first thing asked is not to close a pipe end. -/
theorem Opening.takeWhile_isClose {stage : Nat} {carried : Option φ}
    {plan : Except RedirectionError (Plan κ)} {rest : List (Except RedirectionError (Plan κ))}
    {actions tail : List (Action φ κ η)} {started : Started η}
    (h : Opening stage carried (plan :: rest) actions started) :
    (actions ++ tail).takeWhile Action.isClose = [] := by
  cases h <;> rfl

/-- Between two rounds: as many stages have been started, and as many pipes made, as there are
stages in front; the reading end of the last pipe is carried over, and nothing else is held. -/
structure BetweenRounds [DecidableEq φ] (stage : Nat) (carried : Option φ)
    (done : List (Action φ κ η)) : Prop where
  spawned : (done.filterMap spawned?).length = stage
  piped : (done.filterMap piped?).length = stage
  carried_eq : readerBefore? (done.filterMap piped?) stage = carried
  held_eq : held done = (carried.toList : Multiset φ)

namespace BetweenRounds

variable [DecidableEq φ] {stage : Nat} {carried : Option φ} {done : List (Action φ κ η)}

theorem start : BetweenRounds 0 none ([] : List (Action φ κ η)) :=
  ⟨rfl, rfl, rfl, rfl⟩

theorem carried_eq_none_iff (h : BetweenRounds stage carried done) :
    carried = none ↔ stage = 0 := by
  obtain ⟨-, hpiped, rfl, -⟩ := h
  cases stage with
  | zero => simp [readerBefore?]
  | succ stage => simp [readerBefore?, hpiped]

/-- What is held once a pipe has been made. -/
theorem held_pipe (h : BetweenRounds stage carried done) (reader writer : φ) :
    held (done ++ [.pipe (.ok (reader, writer))]) =
      ((writer :: reader :: carried.toList : List φ) : Multiset φ) := by
  rw [held_concat, Action.hold_pipe_ok, h.held_eq, Multiset.cons_coe, Multiset.cons_coe]
  exact Multiset.coe_eq_coe.mpr (.swap ..)

/-- Trying to start the stage in front of the pipe changes nothing of what is held. -/
theorem held_spawn (h : BetweenRounds stage carried done) (reader writer : φ)
    (launch : Launch φ κ) (answer : Except SpawnError η) :
    held (done ++ [.pipe (.ok (reader, writer))] ++ [.spawn launch answer]) =
      ((writer :: reader :: carried.toList : List φ) : Multiset φ) := by
  rw [held_concat, Action.hold_spawn, h.held_pipe]

/-- The reading end of the pipe just made. -/
theorem readerBefore?_pipe (h : BetweenRounds stage carried done) (reader writer : φ) :
    readerBefore? ((done ++ [Action.pipe (.ok (reader, writer))]).filterMap piped?) (stage + 1) =
      some reader := by
  simp [readerBefore?, ← h.piped]

/-- Earlier stages read from earlier pipes. -/
theorem readerBefore?_append (h : BetweenRounds stage carried done) (more : List (φ × φ)) :
    readerBefore? (done.filterMap piped? ++ more) stage = carried := by
  rw [← h.carried_eq]
  cases stage with
  | zero => rfl
  | succ stage =>
    simp only [readerBefore?]
    rw [List.getElem?_append_left (by rw [h.piped]; omega)]

/-- A round that succeeds keeps the invariant. -/
theorem round (h : BetweenRounds stage carried done) (reader writer : φ)
    (launch : Launch φ κ) (handle : η) :
    BetweenRounds (stage + 1) (some reader)
      (done ++ [.pipe (.ok (reader, writer))] ++ [.spawn launch (.ok handle)] ++
        closing (writer :: carried.toList)) where
  spawned := by simp [List.filterMap_cons, h.spawned]
  piped := by simp [List.filterMap_cons, h.piped]
  carried_eq := by simp [List.filterMap_cons, readerBefore?, ← h.piped]
  held_eq := by
    refine held_closing_eq ?_
    rw [h.held_spawn]
    exact Multiset.coe_eq_coe.mpr ((List.perm_append_singleton reader _).symm.cons writer)

variable {stages : List (Except RedirectionError (Plan κ))}
  {plan : Except RedirectionError (Plan κ)} {answer : Except SpawnError η}
  {after : List (Action φ κ η)}

/-- The last stage is wired. -/
theorem wired_last (h : BetweenRounds stage carried done) (hlast : stage + 1 = stages.length)
    (hplan : stages[stage]? = some plan)
    (hafter : after.takeWhile Action.isClose = closing carried.toList) :
    Wired stages done (lastLaunch stage carried plan) answer after where
  stage_eq := h.spawned.symm
  plan_eq := hplan
  length_pipes := by
    rw [h.piped]
    simp only [lastLaunch]
    omega
  launch_eq := by simp [lastLaunch, wire, h.carried_eq, hlast]
  stdin_eq_none_iff := h.carried_eq_none_iff
  stdout_eq_none_iff := iff_of_true rfl hlast
  close_eq := h.held_eq.symm
  held_after handle hok := by
    -- There is no pipe behind the last stage, and what is held is closed.
    rw [hafter, held_append_cons]
    have hnone : readerBefore? (done.filterMap piped?) (stage + 1) = none := by
      simp [readerBefore?, h.piped]
    rw [show (lastLaunch stage carried plan).stage = stage from rfl, hnone]
    refine held_closing_eq ?_
    rw [held_concat, Action.hold_spawn, h.held_eq, Option.toList_none, List.append_nil]

/-- A stage that is not the last is wired once the pipe behind it is made. -/
theorem wired_inner (h : BetweenRounds stage carried done) (hinner : stage + 1 < stages.length)
    (hplan : stages[stage]? = some plan) (reader writer : φ)
    (hafter : ∀ handle, answer = .ok handle →
      after.takeWhile Action.isClose = closing (writer :: carried.toList)) :
    Wired stages (done ++ [.pipe (.ok (reader, writer))])
      (innerLaunch stage carried reader writer plan) answer after where
  stage_eq := by simp [innerLaunch, h.spawned]
  plan_eq := hplan
  length_pipes := by
    simp [innerLaunch, h.piped]
    omega
  launch_eq := by
    have hbehind : ((done ++ [Action.pipe (.ok (reader, writer))]).filterMap piped?)[stage]? =
        some (reader, writer) := by
      simp [← h.piped]
    have hbefore := h.readerBefore?_append [(reader, writer)]
    simp only [innerLaunch, wire, if_pos hinner, hbehind]
    simp [hbefore]
  stdin_eq_none_iff := h.carried_eq_none_iff
  stdout_eq_none_iff := iff_of_false (by simp [innerLaunch]) (by simp [innerLaunch]; omega)
  close_eq := by
    rw [h.held_pipe]
    exact Multiset.coe_eq_coe.mpr List.perm_append_comm
  held_after handle hok := by
    -- What follows is closed up to the next round, where the invariant holds again.
    subst hok
    rw [hafter handle rfl, held_append_cons]
    have := (h.round reader writer (innerLaunch stage carried reader writer plan) handle).held_eq
    rw [this]
    simp only [innerLaunch, h.readerBefore?_pipe]

/-- Whatever becomes of the last stage, what is asked is in its place and nothing is left held. -/
theorem placed_last (h : BetweenRounds stage carried done) (hlast : stage + 1 = stages.length)
    (hplan : stages[stage]? = some plan) {tail : List (Action φ κ η)}
    (htail : tail.takeWhile Action.isClose = []) :
    Throughout (fun before a after => Placed stages before a (after ++ tail)) done
        (.spawn (lastLaunch stage carried plan) answer :: closing carried.toList) ∧
      held (done ++ .spawn (lastLaunch stage carried plan) answer ::
        closing carried.toList) = 0 := by
  have hheld : held (done ++ [.spawn (lastLaunch stage carried plan) answer]) =
      (carried.toList : Multiset φ) := by
    rw [held_concat, Action.hold_spawn, h.held_eq]
  refine ⟨⟨h.wired_last hlast hplan (takeWhile_closing _ htail),
    throughout_closing hheld.ge⟩, ?_⟩
  rw [held_append_cons]
  exact held_closing_eq_zero hheld

end BetweenRounds

/-! ## Openings and executions -/

section Executions

variable [DecidableEq φ]

/-- Everything an opening asks for is in its place, and it leaves nothing held. -/
theorem Opening.placed {stages plans : List (Except RedirectionError (Plan κ))} {stage : Nat}
    {carried : Option φ} {actions done tail : List (Action φ κ η)} {started : Started η}
    (h : Opening stage carried plans actions started) (hb : BetweenRounds stage carried done)
    (hplans : stages.drop stage = plans) (htail : tail.takeWhile Action.isClose = []) :
    Throughout (fun before a after => Placed stages before a (after ++ tail)) done actions ∧
      held (done ++ actions) = 0 := by
  -- How many stages are left, and which of them is the first.
  have hlen := congrArg List.length hplans
  have hget := congrArg List.head? hplans
  rw [List.length_drop] at hlen
  rw [List.head?_drop] at hget
  induction h generalizing done with
  | nothing stage carried =>
    exact ⟨throughout_closing hb.held_eq.ge, held_closing_eq_zero hb.held_eq⟩
  | last stage carried plan handle => exact hb.placed_last (by simp at hlen; omega) hget htail
  | lastRefused stage carried plan e => exact hb.placed_last (by simp at hlen; omega) hget htail
  | unpiped stage carried plan next rest cause =>
    have hheld : held (done ++ [.pipe (.error cause)]) = (carried.toList : Multiset φ) := by
      rw [held_concat, Action.hold_pipe_error, hb.held_eq]
    refine ⟨⟨trivial, throughout_closing hheld.ge⟩, ?_⟩
    rw [held_append_cons]
    exact held_closing_eq_zero hheld
  -- The pipe is there already when the process is refused, so both its ends are closed as well.
  | refused stage carried plan next rest reader writer e =>
    have hinner : stage + 1 < stages.length := by
      simp only [List.length_cons] at hlen
      omega
    have hheld := hb.held_spawn reader writer
      (innerLaunch stage carried reader writer plan) (.error e : Except SpawnError η)
    refine ⟨⟨trivial, hb.wired_inner hinner hget reader writer (by rintro handle ⟨⟩),
      throughout_closing hheld.ge⟩, ?_⟩
    rw [held_append_cons, held_append_cons]
    exact held_closing_eq_zero hheld
  | round stage carried plan next rest reader writer handle actions started later ih =>
    have hinner : stage + 1 < stages.length := by
      simp only [List.length_cons] at hlen
      omega
    -- The invariant holds again behind this round, and the later ones begin there.
    have hnext := hb.round reader writer (innerLaunch stage carried reader writer plan) handle
    have hdrop : stages.drop (stage + 1) = next :: rest := by
      rw [← List.drop_drop, hplans, List.drop_one, List.tail_cons]
    obtain ⟨hplaced, hzero⟩ := ih hnext hdrop (by rw [← hdrop, List.length_drop])
      (by rw [← hdrop, List.head?_drop])
    refine ⟨⟨trivial, hb.wired_inner hinner hget reader writer ?_,
      throughout_append.mpr ⟨?_, hplaced⟩⟩, ?_⟩
    · -- The next round begins with a pipe or a process, so the closing ends where this round does.
      intro handle' _
      rw [List.append_assoc]
      exact takeWhile_closing _ later.takeWhile_isClose
    · -- The reading end of the pipe is held too, but kept.
      simp only [List.append_assoc]
      refine throughout_closing ?_
      rw [← List.append_assoc, hb.held_spawn]
      exact Multiset.coe_le.mpr ((List.sublist_cons_self reader _).cons_cons writer).subperm
    · rw [held_append_cons, held_append_cons, ← List.append_assoc]
      exact hzero

/-- **Wiring and ownership.** Each process started is the next stage, wired to its neighbours by its
place alone, and is told to close exactly what the shell holds; once it is started the shell holds
the reading end of the pipe behind it, if there is one. Only what is held is closed, nothing is held
at any wait, and nothing is held in the end, be there a fault or not. -/
theorem launches_wired (b : Builder σ φ κ η) (plans : List (Except RedirectionError (Plan κ)))
    (s : σ) :
    (∀ before launch answer after,
      transcript b plans s = before ++ .spawn launch answer :: after →
        Wired plans before launch answer after) ∧
    (∀ before fd after, transcript b plans s = before ++ .close fd :: after → fd ∈ held before) ∧
    (∀ before handle ending after,
      transcript b plans s = before ++ .wait handle ending :: after → held before = 0) ∧
    held (transcript b plans s) = 0 := by
  obtain ⟨actions, started, endings, hopen, -, ht, -, -⟩ := execute_recorded b s plans
  obtain ⟨hopening, hzero⟩ :=
    hopen.placed .start rfl (takeWhile_waits started.handles endings)
  have hall : Throughout (Placed plans) [] (transcript b plans s) := by
    rw [ht]
    exact throughout_append.mpr ⟨hopening, throughout_waits hzero _ _⟩
  refine ⟨?_, ?_, ?_, ?_⟩
  · intro before launch answer after h
    exact hall.of_eq h
  · intro before fd after h
    exact hall.of_eq h
  · intro before handle ending after h
    exact hall.of_eq h
  · rw [ht, held_append_waits]
    exact hzero

end Executions

end PipeShell.Execution
