import PipeShell.Proofs.Execution.Reaping

/-!
# What an execution reports

A report is read off the transcript. If nothing failed it is the endings of all stages. Otherwise it
is one fault, with all endings that were learnt, in stage order. The fault met while starting comes
before any met while waiting, and of those the one of the first stage is reported. Endings that
could not be learnt leave no gap among the others, which is why a failed wait is told by its stage
and not by a place in that list.

## Main definitions

* `EndedWith`: what waiting for the process of a stage gave

## Main results

* `outcome_eq_ok_iff`, `outcome_eq_error`: what the fault and the answers come to
* `execute_reports`: what an execution reports
-/

namespace PipeShell.Execution

variable {σ φ κ η : Type}

open Execution.Action (spawned? waited? fault?)

/-! ## Faults and answers -/

@[simp] theorem reaped_map_ok (statuses : List ExitStatus) :
    reaped (statuses.map .ok) = statuses := by
  induction statuses with
  | nil => rfl
  | cons status rest ih => exact congrArg (status :: ·) ih

/-- The endings learnt are those of the waits that gave one, in order. -/
theorem reaped_map_snd (waited : List (η × Except SpawnError ExitStatus)) :
    reaped (waited.map Prod.snd) = waited.filterMap (fun w => w.2.toOption) := by
  rw [reaped, List.filterMap_map]
  congr 1
  funext ⟨handle, ending⟩
  cases ending <;> rfl

theorem exists_eq_map_ok_iff (endings : List (Except SpawnError ExitStatus)) :
    (∃ statuses : List ExitStatus, endings = statuses.map .ok) ↔
      ∀ ending ∈ endings, ∃ status, ending = .ok status := by
  constructor
  · rintro ⟨statuses, rfl⟩ ending h
    obtain ⟨status, -, rfl⟩ := List.mem_map.mp h
    exact ⟨status, rfl⟩
  · intro h
    induction endings with
    | nil => exact ⟨[], rfl⟩
    | cons ending rest ih =>
      obtain ⟨status, rfl⟩ := h ending (by simp)
      obtain ⟨statuses, rfl⟩ := ih fun x hx => h x (List.mem_cons_of_mem _ hx)
      exact ⟨status :: statuses, rfl⟩

/-- No wait failed if and only if each gave an ending. -/
theorem waitFault?_eq_none_iff (stage : Nat) (endings : List (Except SpawnError ExitStatus)) :
    waitFault? stage endings = none ↔ ∃ statuses : List ExitStatus, endings = statuses.map .ok := by
  induction endings generalizing stage with
  | nil => exact iff_of_true rfl ⟨[], rfl⟩
  | cons ending rest ih =>
    cases ending with
    | error e =>
      -- Neither side holds: this wait failed.
      constructor
      · intro h
        simp [waitFault?] at h
      · rintro ⟨_ | ⟨status, statuses⟩, h⟩ <;> simp at h
    | ok status =>
      refine (ih (stage + 1)).trans ?_
      constructor
      · rintro ⟨statuses, rfl⟩
        exact ⟨status :: statuses, rfl⟩
      · rintro ⟨_ | ⟨status', statuses⟩, h⟩
        · simp at h
        · exact ⟨statuses, (List.cons.inj h).2⟩

/-- The first wait that failed, with its place. -/
theorem getElem?_of_waitFault? {stage i : Nat} {e : SpawnError}
    {endings : List (Except SpawnError ExitStatus)} (h : waitFault? stage endings = some (i, e)) :
    ∃ j, i = stage + j ∧ endings[j]? = some (.error e) ∧
      ∀ m < j, ∃ status, endings[m]? = some (.ok status) := by
  induction endings generalizing stage with
  | nil => simp [waitFault?] at h
  | cons ending rest ih =>
    cases ending with
    | error e' =>
      simp only [waitFault?, Option.some.injEq, Prod.mk.injEq] at h
      obtain ⟨rfl, rfl⟩ := h
      exact ⟨0, rfl, rfl, by omega⟩
    | ok status =>
      obtain ⟨j, rfl, hj, hall⟩ := ih h
      refine ⟨j + 1, by omega, hj, ?_⟩
      intro m hm
      cases m with
      | zero => exact ⟨status, rfl⟩
      | succ m => exact hall m (by omega)

/-- All endings are reported if and only if there is no fault and every wait gave one. -/
theorem outcome_eq_ok_iff (fault : Option (Nat × SpawnError))
    (endings : List (Except SpawnError ExitStatus)) (statuses : List ExitStatus) :
    outcome fault endings = .ok statuses ↔ fault = none ∧ endings = statuses.map .ok := by
  cases fault with
  | some f => simp [outcome]
  | none =>
    simp only [outcome, Option.none_or, true_and]
    cases hw : waitFault? 0 endings with
    | none =>
      obtain ⟨learnt, rfl⟩ := (waitFault?_eq_none_iff 0 endings).mp hw
      rw [reaped_map_ok]
      constructor
      · rintro ⟨⟩
        rfl
      · -- Endings that are all learnt determine the list of them.
        intro h
        rw [← reaped_map_ok learnt, h, reaped_map_ok]
    | some f =>
      constructor
      · intro h
        simp at h
      · intro h
        rw [(waitFault?_eq_none_iff 0 endings).mpr ⟨statuses, h⟩] at hw
        cases hw

/-- A fault met while starting is reported, or else the first wait that failed, with the endings
that were learnt. -/
theorem outcome_eq_error {fault : Option (Nat × SpawnError)}
    {endings : List (Except SpawnError ExitStatus)} {e : PipelineError}
    (h : outcome fault endings = .error e) :
    e.reaped = reaped endings ∧
      (fault = some (e.stage, e.source) ∨
        fault = none ∧ endings[e.stage]? = some (.error e.source) ∧
          ∀ i < e.stage, ∃ status, endings[i]? = some (.ok status)) := by
  unfold outcome at h
  cases fault with
  | some f =>
    cases h
    exact ⟨rfl, .inl rfl⟩
  | none =>
    rw [Option.none_or] at h
    cases hw : waitFault? 0 endings with
    | none => simp [hw] at h
    | some f =>
      obtain ⟨j, hj, hget, hall⟩ := getElem?_of_waitFault? hw
      rw [hw] at h
      cases h
      rw [Nat.zero_add] at hj
      subst hj
      exact ⟨rfl, .inr ⟨rfl, hget, hall⟩⟩

/-! ## The report of a transcript -/

section Report

variable (b : Builder σ φ κ η) (plans : List (Except RedirectionError (Plan κ))) (s : σ)

/-- Waiting for the process of stage `i` gave this answer. -/
def EndedWith (i : Nat) (ending : Except SpawnError ExitStatus) : Prop :=
  ∃ launch handle, (processes b plans s)[i]? = some (launch, handle) ∧ launch.stage = i ∧
    (waits b plans s)[i]? = some (handle, ending)

/-- The processes of an execution are waited for in the order in which they were started, and the
outcome is made of the answers and of the fault met while starting. -/
theorem exists_outcome :
    ∃ (fault : Option (Nat × SpawnError)) (endings : List (Except SpawnError ExitStatus)),
      (execute b plans s).1 = outcome fault endings ∧
      endings.length = (processes b plans s).length ∧
      waits b plans s = ((processes b plans s).map Prod.snd).zip endings ∧
      (processes b plans s).map (fun p => p.1.stage) = List.range (processes b plans s).length ∧
      (fault = none ∧ (processes b plans s).length = plans.length ∧
          (∀ a ∈ transcript b plans s, a.fault? = none) ∨
        ∃ k e, fault = some (k, e) ∧ ∃ before a after,
          transcript b plans s = before ++ a :: after ∧ a.fault? = some e ∧
            (before.filterMap spawned?).length = k ∧
            ∀ l answer, a = .spawn l answer → l.stage = k) := by
  obtain ⟨actions, started, endings, hopen, hlen, ht, hout, -⟩ := execute_recorded b s plans
  obtain ⟨hhandles, hstages, -⟩ := hopen.spawned?_eq
  have hprocesses : processes b plans s = actions.filterMap spawned? := by
    simp [processes, ht]
  have hcount : (processes b plans s).length = started.handles.length := by
    rw [hprocesses, ← hhandles, List.length_map]
  refine ⟨started.fault, endings, hout, by rw [hlen, hcount], ?_, ?_, ?_⟩
  · rw [hprocesses, hhandles]
    simp [waits, ht, hopen.waited?_eq_nil]
  · rw [hcount, hprocesses, hstages, List.range_eq_range']
  · rcases hopen.through_or_stops with ⟨hf, hn, hall⟩ | ⟨e, hf, before, a, ends, hsplit, -, hk, ha,
      -, -, hs⟩
    · refine .inl ⟨hf, by rw [hcount, hn], ?_⟩
      intro a ha
      rw [ht] at ha
      rcases List.mem_append.mp ha with ha | ha
      · exact hall a ha
      · exact fault?_of_mem_waits ha
    · refine .inr ⟨_, e, hf, before, a,
        closing ends ++ List.zipWith .wait started.handles endings, ?_, ha, by simpa using hk, ?_⟩
      · rw [ht, hsplit, List.append_assoc, List.cons_append]
      · intro l answer h
        exact (hs l answer h).1

/-- The process with number `i` is the one of stage `i`, and so is the wait with number `i`. -/
theorem endedWith_of_getElem? {b : Builder σ φ κ η}
    {plans : List (Except RedirectionError (Plan κ))}
    {s : σ} {endings : List (Except SpawnError ExitStatus)}
    (hlen : endings.length = (processes b plans s).length)
    (hwaits : waits b plans s = ((processes b plans s).map Prod.snd).zip endings)
    (hstages : (processes b plans s).map (fun p => p.1.stage) =
      List.range (processes b plans s).length) {i : Nat} {ending : Except SpawnError ExitStatus}
    (hi : endings[i]? = some ending) : EndedWith b plans s i ending := by
  have hlt : i < (processes b plans s).length := by
    rw [← hlen]
    exact (List.getElem?_eq_some_iff.mp hi).1
  refine ⟨(processes b plans s)[i].1, (processes b plans s)[i].2, by simp [hlt], ?_, ?_⟩
  · have := congrArg (·[i]?) hstages
    simpa [hlt] using this
  · simp [hwaits, List.getElem?_zip_eq_some, hi, hlt]

/-- All endings are reported in stage order, one for each stage. -/
theorem endedWith_of_execute_eq_ok {b : Builder σ φ κ η}
    {plans : List (Except RedirectionError (Plan κ))} {s : σ} {statuses : List ExitStatus}
    (hok : (execute b plans s).1 = .ok statuses) :
    statuses.length = plans.length ∧
      ∀ i status, statuses[i]? = some status → EndedWith b plans s i (.ok status) := by
  obtain ⟨fault, endings, hout, hlen, hwaits, hstages, hfault⟩ := exists_outcome b plans s
  rw [hout, outcome_eq_ok_iff] at hok
  obtain ⟨hf, hall⟩ := hok
  constructor
  · rcases hfault with ⟨-, hn, -⟩ | ⟨k, e, hf', -⟩
    · rw [← hn, ← hlen, hall, List.length_map]
    · simp [hf] at hf'
  · intro i status hi
    refine endedWith_of_getElem? hlen hwaits hstages ?_
    rw [hall, List.getElem?_map, hi, Option.map_some]

/-- **What an execution reports.** The processes that are waited for are those that were started, in
stage order. All endings are reported if and only if nothing failed, and then the ending of stage
`i` is what waiting for the process of stage `i` gave. Otherwise one fault is reported, with the
endings that were learnt, in stage order: the pipe or process that was refused, with the stage that
it was for, or, where there is none, the first stage whose wait failed. -/
theorem execute_reports :
    (waits b plans s).map Prod.fst = (processes b plans s).map Prod.snd ∧
    ((∃ statuses, (execute b plans s).1 = .ok statuses) ↔
      (∀ a ∈ transcript b plans s, a.fault? = none) ∧
        ∀ w ∈ waits b plans s, ∃ status, w.2 = .ok status) ∧
    (∀ statuses : List ExitStatus, (execute b plans s).1 = .ok statuses →
      statuses.length = plans.length ∧
        ∀ i status, statuses[i]? = some status → EndedWith b plans s i (.ok status)) ∧
    ∀ e, (execute b plans s).1 = .error e →
      e.reaped = (waits b plans s).filterMap (fun w => w.2.toOption) ∧
        ((∃ before a after, transcript b plans s = before ++ a :: after ∧
            a.fault? = some e.source ∧ (before.filterMap spawned?).length = e.stage ∧
            ∀ l answer, a = .spawn l answer → l.stage = e.stage) ∨
          (∀ a ∈ transcript b plans s, a.fault? = none) ∧
            EndedWith b plans s e.stage (.error e.source) ∧
            ∀ i < e.stage, ∃ status, EndedWith b plans s i (.ok status)) := by
  obtain ⟨fault, endings, hout, hlen, hwaits, hstages, hfault⟩ := exists_outcome b plans s
  have hsnd : (waits b plans s).map Prod.snd = endings := by
    rw [hwaits, List.map_snd_zip]
    simp [hlen]
  have hended : ∀ i ending, endings[i]? = some ending → EndedWith b plans s i ending :=
    fun _ _ => endedWith_of_getElem? hlen hwaits hstages
  -- There is no fault exactly if nothing asked was refused; the waits never count as refused.
  have hnone : fault = none ↔ ∀ a ∈ transcript b plans s, a.fault? = none := by
    rcases hfault with ⟨hf, -, hall⟩ | ⟨k, e, hf, before, a, after, hsplit, ha, -⟩
    · exact iff_of_true hf hall
    · refine iff_of_false (by simp [hf]) ?_
      intro hall
      have := hall a (by simp [hsplit])
      rw [ha] at this
      cases this
  refine ⟨by rw [hwaits, List.map_fst_zip (by simp [hlen])], ?_, ?_, ?_⟩
  · simp only [hout, outcome_eq_ok_iff, exists_and_left, hnone, exists_eq_map_ok_iff, ← hsnd,
      List.forall_mem_map]
  · exact fun statuses => endedWith_of_execute_eq_ok
  · intro e herror
    rw [hout] at herror
    obtain ⟨hreaped, hcase⟩ := outcome_eq_error herror
    refine ⟨by rw [hreaped, ← hsnd, reaped_map_snd], ?_⟩
    rcases hcase with hf | ⟨hf, hget, hbefore⟩
    · -- The fault reported is the one met while starting.
      rcases hfault with ⟨hf', -⟩ | ⟨k, e', hf', before, a, after, hsplit, ha, hk, hs⟩
      · simp [hf] at hf'
      · rw [hf, Option.some.injEq, Prod.mk.injEq] at hf'
        obtain ⟨rfl, rfl⟩ := hf'
        exact .inl ⟨before, a, after, hsplit, ha, hk, hs⟩
    · -- Starting met no fault, so the one reported is that of the first wait that failed.
      refine .inr ⟨hnone.mp hf, hended _ _ hget, ?_⟩
      intro i hi
      obtain ⟨status, hstatus⟩ := hbefore i hi
      exact ⟨status, hended _ _ hstatus⟩

end Report

end PipeShell.Execution
