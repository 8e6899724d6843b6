import PipeShell.Proofs.Execution.Transcript

/-!
# Every process is waited for

An execution starts the stages in order, each once and with its own plan, be it a plan or an error,
until the first fault. After that it starts nothing; it waits for the processes it has started, each
once and in stage order, whatever became of the other waits. No wait comes before the last start.

## Main definitions

* `StopsAt`: starting meets its first fault at a stage

## Main results

* `Opening.spawned?_eq`: an opening starts the first stages, in order
* `Opening.through_or_stops`: it gets through all stages or stops at the first that is not started
* `starts_then_waits`: which processes an execution starts, and which it waits for
-/

namespace PipeShell.Execution

variable {σ φ κ η : Type}

open Execution.Action (spawned? waited? fault?)

/-- Starting meets its first fault at stage `k`: everything asked before succeeded, what is refused
is the pipe behind stage `k` or the process of stage `k`, and all that is asked afterwards is to
close pipe ends. -/
def StopsAt (plans : List (Except RedirectionError (Plan κ))) (opening : List (Action φ κ η))
    (k : Nat) (e : SpawnError) : Prop :=
  ∃ before a ends, opening = before ++ a :: closing ends ∧
    (∀ x ∈ before, x.fault? = none) ∧ (before.filterMap spawned?).length = k ∧
    a.fault? = some e ∧ k < plans.length ∧
    (∀ answer, a = .pipe answer → k + 1 < plans.length) ∧
    (∀ l answer, a = .spawn l answer → l.stage = k ∧ plans[k]? = some l.plan)

/-! ## What an opening starts -/

section Opening

variable {stage : Nat} {carried : Option φ} {plans : List (Except RedirectionError (Plan κ))}
  {actions : List (Action φ κ η)} {started : Started η}

@[simp] theorem spawned?_closing (ends : List φ) :
    (closing ends : List (Action φ κ η)).filterMap spawned? = [] := by
  simp [closing]

@[simp] theorem waited?_closing (ends : List φ) :
    (closing ends : List (Action φ κ η)).filterMap waited? = [] := by
  simp [closing]

theorem fault?_of_mem_closing {ends : List φ} {a : Action φ κ η} (h : a ∈ closing ends) :
    a.fault? = none := by
  obtain ⟨fd, -, rfl⟩ := List.mem_map.mp h
  rfl

/-- Nothing is waited for while stages are started. -/
theorem Opening.waited?_eq_nil (h : Opening stage carried plans actions started) :
    actions.filterMap waited? = [] := by
  induction h with
  | round stage carried plan next rest reader writer handle actions started later ih =>
    simp [List.filterMap_cons, ih]
  | _ => simp [List.filterMap_cons]

/-- The processes are those of the first stages, in order, each with its own plan. -/
theorem Opening.spawned?_eq (h : Opening stage carried plans actions started) :
    (actions.filterMap spawned?).map Prod.snd = started.handles ∧
      (actions.filterMap spawned?).map (fun p => p.1.stage) =
        List.range' stage started.handles.length ∧
      (actions.filterMap spawned?).map (fun p => p.1.plan) =
        plans.take started.handles.length := by
  induction h with
  | round stage carried plan next rest reader writer handle actions started later ih =>
    simpa [List.filterMap_cons, Started.cons, innerLaunch, List.range'_succ] using ih
  | _ => simp [List.filterMap_cons, lastLaunch]

/-- Starting gets through all stages, or it stops at the first stage that is not started. -/
theorem Opening.through_or_stops (h : Opening stage carried plans actions started) :
    started.fault = none ∧ started.handles.length = plans.length ∧
        (∀ a ∈ actions, a.fault? = none) ∨
      ∃ e, started.fault = some (stage + started.handles.length, e) ∧
        ∃ before a ends, actions = before ++ a :: closing ends ∧
          (∀ x ∈ before, x.fault? = none) ∧
          (before.filterMap spawned?).length = started.handles.length ∧
          a.fault? = some e ∧ started.handles.length < plans.length ∧
          (∀ answer, a = .pipe answer → started.handles.length + 1 < plans.length) ∧
          (∀ l answer, a = .spawn l answer →
            l.stage = stage + started.handles.length ∧
              plans[started.handles.length]? = some l.plan) := by
  induction h with
  | nothing stage carried => exact .inl ⟨rfl, rfl, fun a ha => fault?_of_mem_closing ha⟩
  | last stage carried plan handle =>
    refine .inl ⟨rfl, rfl, ?_⟩
    intro a ha
    rcases List.mem_cons.mp ha with rfl | ha
    · rfl
    · exact fault?_of_mem_closing ha
  -- A round that meets a fault is the first one here, so nothing stands in front of the fault but
  -- the pipe of the round itself.
  | lastRefused stage carried plan e =>
    refine .inr ⟨e, rfl, [], _, carried.toList, rfl, by simp, rfl, rfl, by simp, by simp, ?_⟩
    rintro l answer ⟨⟩
    exact ⟨rfl, rfl⟩
  | unpiped stage carried plan next rest cause =>
    exact .inr ⟨.pipe cause, rfl, [], _, carried.toList, rfl, by simp, rfl, rfl, by simp, by simp,
      by simp⟩
  | refused stage carried plan next rest reader writer e =>
    refine .inr ⟨e, rfl, [.pipe (.ok (reader, writer))], _, _, rfl, by simp, rfl, rfl,
      by simp, by simp, ?_⟩
    rintro l answer ⟨⟩
    exact ⟨rfl, rfl⟩
  | round stage carried plan next rest reader writer handle actions started later ih =>
    rcases ih with ⟨hf, hlen, hall⟩ | ⟨e, hf, before, a, ends, rfl, hbefore, hlen, ha, hlt, hp, hs⟩
    · -- The later rounds get through, and nothing in this one is refused.
      refine .inl ⟨hf, by simp [Started.cons, hlen], ?_⟩
      intro a ha
      rcases List.mem_cons.mp ha with rfl | ha
      · rfl
      rcases List.mem_cons.mp ha with rfl | ha
      · rfl
      rcases List.mem_append.mp ha with ha | ha
      · exact fault?_of_mem_closing ha
      · exact hall a ha
    · -- The later rounds stop; this round goes in front of what they ask before the fault.
      refine .inr ⟨e, ?_, .pipe (.ok (reader, writer)) ::
        .spawn (innerLaunch stage carried reader writer plan) (.ok handle) ::
          (closing (writer :: carried.toList) ++ before), a, ends, by simp, ?_, ?_, ha, ?_, ?_, ?_⟩
      · simp only [Started.cons, hf, List.length_cons]
        congr 2
        omega
      · intro x hx
        simp only [List.mem_cons, List.mem_append] at hx
        rcases hx with rfl | rfl | hx | hx
        · rfl
        · rfl
        · exact fault?_of_mem_closing hx
        · exact hbefore x hx
      · simp [List.filterMap_cons, Started.cons, hlen]
      · simpa [Started.cons] using hlt
      · intro answer h
        have := hp answer h
        simp only [Started.cons, List.length_cons] at this ⊢
        omega
      · intro l answer h
        obtain ⟨hstage, hplan⟩ := hs l answer h
        refine ⟨?_, by simpa [Started.cons] using hplan⟩
        simp only [Started.cons, List.length_cons, hstage]
        omega

end Opening

/-! ## What an execution waits for -/

@[simp] theorem waited?_waits (handles : List η) (endings : List (Except SpawnError ExitStatus)) :
    (List.zipWith .wait handles endings : List (Action φ κ η)).filterMap waited? =
      handles.zip endings := by
  induction handles generalizing endings with
  | nil => rfl
  | cons handle rest ih =>
    cases endings with
    | nil => rfl
    | cons ending endings => simp [ih]

@[simp] theorem spawned?_waits (handles : List η) (endings : List (Except SpawnError ExitStatus)) :
    (List.zipWith .wait handles endings : List (Action φ κ η)).filterMap spawned? = [] := by
  induction handles generalizing endings with
  | nil => rfl
  | cons handle rest ih =>
    cases endings with
    | nil => rfl
    | cons ending endings => simpa using ih endings

theorem fault?_of_mem_waits {handles : List η} {endings : List (Except SpawnError ExitStatus)}
    {a : Action φ κ η} (h : a ∈ (List.zipWith .wait handles endings : List (Action φ κ η))) :
    a.fault? = none := by
  obtain ⟨i, hi⟩ := List.mem_iff_getElem?.mp h
  rw [List.getElem?_zipWith] at hi
  split at hi
  · cases hi; rfl
  · cases hi

/-- **Every process is waited for.** With `k` the number of processes started, the stages before `k`
are started in order, each once and with its own plan; `k` is the number of stages, or the stage of
the first fault, after which only pipe ends are closed. Only then are the processes waited for, each
once and in stage order. -/
theorem starts_then_waits (b : Builder σ φ κ η) (plans : List (Except RedirectionError (Plan κ)))
    (s : σ) :
    ∃ (opening : List (Action φ κ η)) (launches : List (Launch φ κ)) (handles : List η)
      (endings : List (Except SpawnError ExitStatus)),
      execute b.recorded plans (s, []) =
          ((execute b plans s).1, (execute b plans s).2,
            opening ++ List.zipWith .wait handles endings) ∧
        opening.filterMap waited? = [] ∧ endings.length = handles.length ∧
        launches.length = handles.length ∧
        opening.filterMap spawned? = launches.zip handles ∧
        launches.map Launch.stage = List.range handles.length ∧
        launches.map Launch.plan = plans.take handles.length ∧
        (handles.length = plans.length ∧ (∀ a ∈ opening, a.fault? = none) ∨
          ∃ e, StopsAt plans opening handles.length e) := by
  obtain ⟨actions, started, endings, hopen, hlen, ht, -, hrec⟩ := execute_recorded b s plans
  obtain ⟨hhandles, hstages, hplans⟩ := hopen.spawned?_eq
  -- The opening is the part in front of the waits, and what it starts is what is waited for.
  refine ⟨actions, (actions.filterMap spawned?).map Prod.fst, started.handles, endings,
    by rw [hrec, ht], hopen.waited?_eq_nil, hlen, ?_, ?_, ?_, ?_, ?_⟩
  · simpa using congrArg List.length hhandles
  · rw [← hhandles]
    exact List.zip_of_prod rfl rfl
  · simpa [List.range_eq_range', Function.comp_def] using hstages
  · simpa [Function.comp_def] using hplans
  · rcases hopen.through_or_stops with ⟨-, hn, hall⟩ | ⟨e, -, hstops⟩
    · exact .inl ⟨hn, hall⟩
    · refine .inr ⟨e, ?_⟩
      simpa [StopsAt] using hstops

end PipeShell.Execution
