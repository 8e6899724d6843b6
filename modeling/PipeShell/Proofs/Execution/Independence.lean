import PipeShell.Proofs.Execution.Wiring

/-!
# Runs of a builder, and what does not depend on the plans

A transcript does not tell the states that its builder has been in, but they can be told from it:
each action is carried out on the state that the ones in front of it have led to. So a transcript
can be taken apart at any action.

A builder may answer without looking at the plans. Then the plan of one stage makes no difference to
how the others are started: they get the same pipe ends and the same processes.

## Main definitions

* `Runs b s actions s'`: carried out in order, the actions lead from one state to the other
* `Launch.bare`, `placements`: how processes are started, but for their plans
* `Builder.Ignores`: a builder answers alike whatever the plans are

## Main results

* `runs_transcript`: an execution is a run of its transcript
* `Builder.Ignores.getElem?_processes`: a stage is started alike if its own plan is the same
-/

namespace PipeShell

namespace Execution

variable {σ φ κ η : Type} {b : Builder σ φ κ η} {s s' : σ} {xs ys : List (Action φ κ η)}

/-! ## Runs -/

/-- A builder carries out an action, with the answer that it gives. -/
inductive Does (b : Builder σ φ κ η) : σ → Action φ κ η → σ → Prop where
  | pipe (s : σ) : Does b s (.pipe (b.pipe s).1) (b.pipe s).2
  | close (s : σ) (fd : φ) : Does b s (.close fd) (b.close fd s)
  | spawn (s : σ) (l : Launch φ κ) : Does b s (.spawn l (b.spawn l s).1) (b.spawn l s).2
  | wait (s : σ) (handle : η) : Does b s (.wait handle (b.wait handle s).1) (b.wait handle s).2

/-- Carried out in order, the actions lead from one state to the other. -/
inductive Runs (b : Builder σ φ κ η) : σ → List (Action φ κ η) → σ → Prop where
  | done (s : σ) : Runs b s [] s
  | next {s t s' : σ} {a : Action φ κ η} {rest : List (Action φ κ η)} (does : Does b s a t)
    (later : Runs b t rest s') : Runs b s (a :: rest) s'

/-- A run can be taken apart anywhere, and put together again. -/
theorem runs_append_iff : Runs b s (xs ++ ys) s' ↔ ∃ t, Runs b s xs t ∧ Runs b t ys s' := by
  constructor
  · intro h
    induction xs generalizing s with
    | nil => exact ⟨s, .done s, h⟩
    | cons x xs ih =>
      rw [List.cons_append] at h
      cases h with
      | next does later =>
        obtain ⟨t, hxs, hys⟩ := ih later
        exact ⟨t, .next does hxs, hys⟩
  · rintro ⟨t, hxs, hys⟩
    induction hxs with
    | done => exact hys
    | next does _ ih => exact .next does (ih hys)

theorem runs_spawn_iff {l : Launch φ κ} {answer : Except SpawnError η} :
    Runs b s (.spawn l answer :: xs) s' ↔
      (b.spawn l s).1 = answer ∧ Runs b (b.spawn l s).2 xs s' := by
  constructor
  · intro h
    generalize hlog : Action.spawn l answer :: xs = log at h
    cases h with
    | done => cases hlog
    | next does later =>
      cases does <;> cases hlog
      exact ⟨rfl, later⟩
  · rintro ⟨rfl, later⟩
    exact .next (.spawn s l) later

theorem runs_wait_iff {handle : η} {answer : Except SpawnError ExitStatus} :
    Runs b s (.wait handle answer :: xs) s' ↔
      (b.wait handle s).1 = answer ∧ Runs b (b.wait handle s).2 xs s' := by
  constructor
  · intro h
    generalize hlog : Action.wait handle answer :: xs = log at h
    cases h with
    | done => cases hlog
    | next does later =>
      cases does <;> cases hlog
      exact ⟨rfl, later⟩
  · rintro ⟨rfl, later⟩
    exact .next (.wait s handle) later

theorem Runs.concat {a : Action φ κ η} {t : σ} (h : Runs b s xs t) (does : Does b t a s') :
    Runs b s (xs ++ [a]) s' :=
  runs_append_iff.mpr ⟨t, h, .next does (.done s')⟩

/-- No step of a builder that keeps a record breaks that the record is a run. -/
theorem keeps_runs (b : Builder σ φ κ η) (s : σ) :
    b.recorded.Keeps fun t => Runs b s t.2 t.1 where
  pipe t h := h.concat (.pipe t.1)
  close fd t h := h.concat (.close t.1 fd)
  spawn l t h := h.concat (.spawn t.1 l)
  wait handle t h := h.concat (.wait t.1 handle)

/-- **An execution** is a run of its transcript. -/
theorem runs_transcript (b : Builder σ φ κ η) (plans : List (Except RedirectionError (Plan κ)))
    (s : σ) : Runs b s (transcript b plans s) (execute b plans s).2 := by
  obtain ⟨-, -, -, -, -, -, -, hrec⟩ := execute_recorded b s plans
  have hruns := (keeps_runs b s).execute plans (s := (s, [])) (.done s)
  rw [hrec] at hruns
  exact hruns

/-- A process is started at some time and waited for at a later one. -/
theorem exists_runs {plans : List (Except RedirectionError (Plan κ))} {l : Launch φ κ} {handle : η}
    {answer : Except SpawnError ExitStatus} (hstarted : (l, handle) ∈ processes b plans s)
    (hwaited : (handle, answer) ∈ waits b plans s) :
    ∃ before during xs ys zs, Runs b s xs before ∧ (b.spawn l before).1 = .ok handle ∧
      Runs b (b.spawn l before).2 ys during ∧ (b.wait handle during).1 = answer ∧
      Runs b (b.wait handle during).2 zs (execute b plans s).2 := by
  obtain ⟨actions, started, endings, hopen, -, ht, -, -⟩ := execute_recorded b s plans
  have hruns := runs_transcript b plans s
  rw [ht] at hruns
  obtain ⟨t, hopening, hwaits⟩ := runs_append_iff.mp hruns
  -- The start is in the opening, the wait behind it.
  have hspawn : Action.spawn l (.ok handle) ∈ actions := by
    unfold processes at hstarted
    rw [ht, List.filterMap_append, spawned?_waits, List.append_nil] at hstarted
    obtain ⟨a, ha, hspawned⟩ := List.mem_filterMap.mp hstarted
    cases a with
    | spawn l' answer' => cases answer' <;> cases hspawned; exact ha
    | _ => cases hspawned
  have hwait : Action.wait handle answer ∈
      (List.zipWith .wait started.handles endings : List (Action φ κ η)) := by
    unfold waits at hwaited
    rw [ht, List.filterMap_append, hopen.waited?_eq_nil, List.nil_append] at hwaited
    obtain ⟨a, ha, hwaited⟩ := List.mem_filterMap.mp hwaited
    cases a with
    | wait handle' answer' => cases hwaited; exact ha
    | _ => cases hwaited
  obtain ⟨xs, ys, hxs⟩ := List.append_of_mem hspawn
  obtain ⟨ys', zs, hys⟩ := List.append_of_mem hwait
  rw [hxs] at hopening
  rw [hys] at hwaits
  obtain ⟨before, hbefore, hrest⟩ := runs_append_iff.mp hopening
  obtain ⟨during, hduring, hlast⟩ := runs_append_iff.mp hwaits
  obtain ⟨hspawned, hys⟩ := runs_spawn_iff.mp hrest
  obtain ⟨hanswer, hzs⟩ := runs_wait_iff.mp hlast
  exact ⟨before, during, xs, ys ++ ys', zs, hbefore, hspawned, runs_append_iff.mpr
    ⟨t, hys, hduring⟩,
    hanswer, hzs⟩

end Execution

/-! ## Plans that make no difference -/

namespace Execution

variable {σ φ κ η : Type} {b : Builder σ φ κ η} {s : σ}
  {plans : List (Except RedirectionError (Plan κ))}

/-- A process that was started is that of its stage, and has its plan. -/
theorem stage_of_getElem?_processes {i : Nat} {l : Launch φ κ} {handle : η}
    (h : (processes b plans s)[i]? = some (l, handle)) : l.stage = i ∧ plans[i]? = some l.plan := by
  obtain ⟨actions, started, endings, hopen, -, ht, -, -⟩ := execute_recorded b s plans
  obtain ⟨hhandles, hstages, hplans⟩ := hopen.spawned?_eq
  have hprocesses : processes b plans s = actions.filterMap Action.spawned? := by
    simp [processes, ht]
  rw [← hprocesses] at hhandles hstages hplans
  have hlt : i < started.handles.length := by
    rw [← hhandles, List.length_map]
    exact (List.getElem?_eq_some_iff.mp h).1
  have hstage := congrArg (·[i]?) hstages
  have hplan := congrArg (·[i]?) hplans
  simp only [List.getElem?_map, h, Option.map_some] at hstage hplan
  constructor
  · simpa [hlt] using hstage
  · rw [List.getElem?_take_of_lt hlt] at hplan
    exact hplan.symm

end Execution

/-- What a process is given besides its plan. -/
def Launch.bare {φ κ : Type} (l : Launch φ κ) : Launch φ κ := { l with plan := .ok ⟨[], []⟩ }

theorem Launch.eq_of_bare {φ κ : Type} {l l' : Launch φ κ} (hbare : l'.bare = l.bare)
    (hplan : l'.plan = l.plan) : l' = l := by
  cases l
  cases l'
  simp_all [Launch.bare]

namespace Execution

variable {σ φ κ η : Type} (log : List (Action φ κ η))

/-- How processes were started, but for their plans. -/
def placements : List (Launch φ κ × η) :=
  (log.filterMap Action.spawned?).map fun p => (p.1.bare, p.2)

theorem placements_concat_pipe (answer : Except Errno (φ × φ)) :
    placements (log ++ [.pipe answer]) = placements log := by
  simp [placements]

theorem placements_concat_close (fd : φ) :
    placements (log ++ [.close fd]) = placements log := by
  simp [placements]

theorem placements_concat_spawn (l : Launch φ κ) (answer : Except SpawnError η) :
    placements (log ++ [.spawn l answer]) =
      placements log ++ (answer.toOption.map fun handle => (l.bare, handle)).toList := by
  cases answer <;> simp [placements, Except.toOption]

/-- Processes are started before any is waited for. -/
theorem placements_transcript_eq (b : Builder σ φ κ η)
    (plans : List (Except RedirectionError (Plan κ))) (s : σ) :
    placements (transcript b plans s) = placements (start b.recorded 0 none plans (s, [])).2.2 := by
  obtain ⟨actions, -, hstart⟩ := start_recorded b s [] 0 none plans
  unfold transcript execute
  rw [hstart]
  simp [collect_recorded, placements]

end Execution

open Execution

/-- States in which a builder answers alike, and stays in such states, whatever the plans are. -/
structure Builder.Ignores {σ φ κ η : Type} (b : Builder σ φ κ η) (R : σ → σ → Prop) : Prop where
  pipe : ∀ s t, R s t → (b.pipe t).1 = (b.pipe s).1 ∧ R (b.pipe s).2 (b.pipe t).2
  close : ∀ fd s t, R s t → R (b.close fd s) (b.close fd t)
  spawn : ∀ l l' s t, l'.bare = l.bare → R s t →
    (b.spawn l' t).1 = (b.spawn l s).1 ∧ R (b.spawn l s).2 (b.spawn l' t).2

namespace Builder.Ignores

variable {σ φ κ η : Type} {b : Builder σ φ κ η} {R : σ → σ → Prop}
  {plans plans' : List (Except RedirectionError (Plan κ))} {s t : σ}

theorem exists_of_length {α : Type} {x : α} {xs ys : List α} (hne : xs ≠ [])
    (hlength : ys.length = (x :: xs).length) :
    ∃ y y' ys', ys = y :: y' :: ys' ∧ (y' :: ys').length = xs.length := by
  obtain ⟨x', xs, rfl⟩ := List.exists_cons_of_ne_nil hne
  match ys, hlength with
  | y :: y' :: ys', hlength => exact ⟨y, y', ys', rfl, by simpa using hlength⟩

theorem closeAll (h : b.Ignores R) (ends : List φ) (hst : R s t) :
    R (Execution.closeAll b ends s) (Execution.closeAll b ends t) := by
  induction ends generalizing s t with
  | nil => exact hst
  | cons fd ends ih => exact ih (h.close fd s t hst)

theorem of_pipe (h : b.Ignores R) (hst : R s t) {after : σ} {answer : Except Errno (φ × φ)}
    (hpipe : b.pipe s = (answer, after)) :
    ∃ after', b.pipe t = (answer, after') ∧ R after after' := by
  obtain ⟨hanswer, hafter⟩ := h.pipe s t hst
  rw [hpipe] at hanswer hafter
  exact ⟨(b.pipe t).2, Prod.ext hanswer rfl, hafter⟩

theorem of_spawn (h : b.Ignores R) (hst : R s t) {l : Launch φ κ} {after : σ}
    {answer : Except SpawnError η} (hspawn : b.spawn l s = (answer, after)) (l' : Launch φ κ)
    (hbare : l'.bare = l.bare) :
    ∃ after', b.spawn l' t = (answer, after') ∧ R after after' := by
  obtain ⟨hanswer, hafter⟩ := h.spawn l l' s t hbare hst
  rw [hspawn] at hanswer hafter
  exact ⟨(b.spawn l' t).2, Prod.ext hanswer rfl, hafter⟩

/-- As many stages are started in the same way. -/
theorem start (h : b.Ignores R) (hlength : plans'.length = plans.length) (stage : Nat)
    (carried : Option φ) (hst : R s t) :
    (Execution.start b stage carried plans' t).1 = (Execution.start b stage carried plans s).1 ∧
      R (Execution.start b stage carried plans s).2
        (Execution.start b stage carried plans' t).2 := by
  -- Nothing that `start` branches on tells the two rows of plans apart: each branch is taken in
  -- both, and the states stay related.
  fun_induction Execution.start b stage carried plans s generalizing plans' t with
  | case1 stage carried s =>
    obtain rfl := List.length_eq_zero_iff.mp hlength
    exact ⟨rfl, h.closeAll _ hst⟩
  | case2 stage carried plan s launch e after =>
    rename_i hspawn
    obtain ⟨plan', rfl⟩ := List.length_eq_one_iff.mp hlength
    obtain ⟨t₁, hspawn', hafter⟩ := h.of_spawn hst hspawn (lastLaunch stage carried plan') rfl
    unfold lastLaunch at hspawn'
    simp only [Execution.start, hspawn']
    exact ⟨trivial, h.closeAll _ hafter⟩
  | case3 stage carried plan s launch handle after =>
    rename_i hspawn
    obtain ⟨plan', rfl⟩ := List.length_eq_one_iff.mp hlength
    obtain ⟨t₁, hspawn', hafter⟩ := h.of_spawn hst hspawn (lastLaunch stage carried plan') rfl
    unfold lastLaunch at hspawn'
    simp only [Execution.start, hspawn']
    exact ⟨trivial, h.closeAll _ hafter⟩
  | case4 stage carried plan rest s hne cause after hpipe =>
    obtain ⟨plan', next', rest', rfl, hrest⟩ := exists_of_length hne hlength
    obtain ⟨t₁, hpipe', hafter⟩ := h.of_pipe hst hpipe
    simp only [Execution.start, hpipe']
    exact ⟨trivial, h.closeAll _ hafter⟩
  | case5 stage carried plan rest s hne reader writer after hpipe launch e after₂ =>
    rename_i hspawn
    obtain ⟨plan', next', rest', rfl, hrest⟩ := exists_of_length hne hlength
    obtain ⟨t₁, hpipe', hafter⟩ := h.of_pipe hst hpipe
    obtain ⟨t₂, hspawn', hafter₂⟩ :=
      h.of_spawn hafter hspawn (innerLaunch stage carried reader writer plan') rfl
    unfold innerLaunch at hspawn'
    simp only [Execution.start, hpipe', hspawn']
    exact ⟨trivial, h.closeAll _ hafter₂⟩
  | case6 stage carried plan rest s hne reader writer after hpipe launch handle after₂ hspawn s₃
      started last =>
    rename_i hlater ih
    obtain ⟨plan', next', rest', rfl, hrest⟩ := exists_of_length hne hlength
    obtain ⟨t₁, hpipe', hafter⟩ := h.of_pipe hst hpipe
    obtain ⟨t₂, hspawn', hafter₂⟩ :=
      h.of_spawn hafter hspawn (innerLaunch stage carried reader writer plan') rfl
    obtain ⟨hstarted, hlast⟩ := ih hrest (h.closeAll (writer :: carried.toList) hafter₂)
    unfold innerLaunch at hspawn'
    rw [hlater] at hstarted hlast
    simp only [Execution.start, hpipe', hspawn', hstarted]
    exact ⟨trivial, hlast⟩

/-- The same states with records that differ at most in the plans. -/
def AlikeRecords (R : σ → σ → Prop) (s t : σ × List (Action φ κ η)) : Prop :=
  R s.1 t.1 ∧ placements t.2 = placements s.2

/-- Keeping a record makes no difference to this. -/
theorem recorded (h : b.Ignores R) : b.recorded.Ignores (AlikeRecords R) where
  pipe s t hst := by
    obtain ⟨hanswer, hafter⟩ := h.pipe s.1 t.1 hst.1
    refine ⟨hanswer, hafter, ?_⟩
    rw [pipe_recorded, pipe_recorded, placements_concat_pipe, placements_concat_pipe, hst.2]
  close fd s t hst := by
    refine ⟨h.close fd s.1 t.1 hst.1, ?_⟩
    rw [close_recorded, close_recorded, placements_concat_close, placements_concat_close, hst.2]
  spawn l l' s t hbare hst := by
    obtain ⟨hanswer, hafter⟩ := h.spawn l l' s.1 t.1 hbare hst.1
    refine ⟨hanswer, hafter, ?_⟩
    rw [spawn_recorded, spawn_recorded, placements_concat_spawn, placements_concat_spawn, hst.2,
      hanswer, hbare]

/-- Where as many stages are started, they are started in the same way but for their plans. -/
theorem placements_transcript (h : b.Ignores R) (hs : R s s)
    (hlength : plans'.length = plans.length) :
    placements (transcript b plans' s) = placements (transcript b plans s) := by
  obtain ⟨-, -, hrecords⟩ := h.recorded.start hlength 0 none (s := (s, [])) (t := (s, [])) ⟨hs, rfl⟩
  rw [placements_transcript_eq, placements_transcript_eq, hrecords]

/-- **A stage is started alike** if its own plan is the same, whatever the others are. -/
theorem getElem?_processes (h : b.Ignores R) (hs : R s s) (hlength : plans'.length = plans.length)
    {i : Nat} (hplan : plans'[i]? = plans[i]?) :
    (processes b plans' s)[i]? = (processes b plans s)[i]? := by
  have hplaced := congrArg (·[i]?) (h.placements_transcript hs hlength)
  simp only [placements, List.getElem?_map] at hplaced
  change Option.map _ (processes b plans' s)[i]? = Option.map _ (processes b plans s)[i]? at hplaced
  rcases hstage : (processes b plans s)[i]? with _ | ⟨l, handle⟩
  · rw [hstage] at hplaced
    exact Option.map_eq_none_iff.mp hplaced
  · rw [hstage, Option.map_some] at hplaced
    obtain ⟨⟨l', handle'⟩, hstage', hbare⟩ := Option.map_eq_some_iff.mp hplaced
    obtain ⟨hbare, rfl⟩ := Prod.mk.inj hbare
    have hl := (stage_of_getElem?_processes hstage).2
    have hl' := (stage_of_getElem?_processes hstage').2
    rw [hplan, hl] at hl'
    obtain rfl : l' = l := Launch.eq_of_bare hbare (Option.some.inj hl').symm
    exact hstage'

end Builder.Ignores

end PipeShell
