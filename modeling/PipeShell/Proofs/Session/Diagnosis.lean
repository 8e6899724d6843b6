import PipeShell.Execution.Scripted
import PipeShell.Proofs.Session.Ending

/-!
# The status behind a reported line

A line of which something is reported, and not in vain, mostly leaves a status behind that is not 0:
a line that is no pipeline leaves 2, and a built-in command or its redirection that fails leaves 1.
It is not so with two others. A line that is too long leaves the status as it was, whatever that is.
And a pipeline that could not be carried out completely leaves the status of the last of its
processes whose ending could be learnt. This is another stage than the one at fault, and it may well
have succeeded. If its input ends there, the session then leaves as if nothing had been reported.

## Main definitions

* `Diagnoses`: what is reported of the line of a turn
* `statusBehind`: the status that a reported line leaves behind

## Main results

* `turn_of_diagnoses`: a turn of which something is reported goes on
* `diagnosed_status`: where the status behind it is 0
* `diagnosed_line_succeeds`: it is 0 behind a line that is too long, and behind a pipeline at fault
-/

namespace PipeShell

variable {β φ κ η : Type}

/-! ## Errors of a line -/

/-- Carrying out a line does not fail because the line is too long. -/
theorem Shell.eval_ne_lineTooLong (tools : Tools β φ κ η) (line : String) (shell : Shell)
    (w : World β) (max : Nat) :
    (shell.eval tools line w).1 ≠ .error (.parse (.lineTooLong max)) := by
  cases hparse : shell.parse w.machine line with
  | error e =>
    rw [eval_of_parse_eq_error tools line shell w hparse]
    obtain ⟨rfl, -⟩ := Pipeline.ofLine?_eq_error_iff.mp hparse
    nofun
  | ok pipeline =>
    rw [eval_of_parse_eq_ok tools line shell w hparse]
    obtain ⟨b, plan, hcalls⟩ | hcalls := calls_or_not
      (Plan.resolveAll (tools.capture shell.cwd) pipeline.commands w).1
    · rw [carryOut_of_calls _ _ _ hcalls]
      unfold runBuiltin
      split
      · nofun
      · split <;> nofun
    · rw [carryOut_of_not_calls _ _ _ hcalls]
      unfold runProcesses
      split <;> nofun

namespace Session

/-- Of all that goes wrong, only a pipeline whose last ending is 0 has the status 0. -/
theorem statusAfter_eq_zero_iff (e : EvalError) :
    statusAfter e = 0 ↔ ∃ fault ending, e = .pipeline fault ∧
      fault.reaped.getLast? = some ending ∧ ending.code = 0 := by
  constructor
  · intro h
    cases e with
    | parse e => cases h
    | redirection e => cases h
    | builtin e => cases h
    | pipeline fault =>
      cases hlast : fault.reaped.getLast? with
      | none => simp [statusAfter, hlast] at h
      | some ending => exact ⟨fault, ending, rfl, hlast, by simpa [statusAfter, hlast] using h⟩
  · rintro ⟨fault, ending, rfl, hlast, hcode⟩
    simpa [statusAfter, hlast] using hcode

/-! ## Reported lines -/

/-- What is reported of the line of a turn: that it is too long, or why carrying it out failed. The
report can be written. -/
inductive Diagnoses (tools : Tools β φ κ η) (journal : Journal) (turn : Shell × World β) :
    EvalError → Prop
  | tooLong {read} (asked : asked journal turn.1 turn.2 = (.ok .tooLong, read))
    (told : (report (ParseError.lineTooLong turn.1.settings.maxLine).message read).1 = true) :
    Diagnoses tools journal turn (.parse (.lineTooLong turn.1.settings.maxLine))
  | fails {line read e} (asked : asked journal turn.1 turn.2 = (.ok (.text line), read))
    (filled : (Text.trim line).isEmpty = false)
    (error_eq : (turn.1.eval tools line read).1 = .error e)
    (told : (report e.message (turn.1.eval tools line read).2.2).1 = true) :
    Diagnoses tools journal turn e

/-- The status that a reported line leaves behind. -/
def statusBehind (lastStatus : Int) : EvalError → Int
  | .parse (.lineTooLong _) => lastStatus
  | e => statusAfter e

theorem statusBehind_of_ne {lastStatus : Int} {e : EvalError}
    (h : ∀ max, e ≠ .parse (.lineTooLong max)) : statusBehind lastStatus e = statusAfter e := by
  unfold statusBehind
  split
  · exact absurd rfl (h _)
  · rfl

section Diagnosed

variable {tools : Tools β φ κ η} {journal : Journal} {turn : Shell × World β} {e : EvalError}

/-- **A turn of which something is reported goes on**, with nothing of the shell changed but the
status. -/
theorem turn_of_diagnoses (h : Diagnoses tools journal turn e) :
    ∃ left, Session.turn tools journal turn.1 turn.2 =
      (none, { turn.1 with lastStatus := statusBehind turn.1.lastStatus e },
        (report e.message left).2) := by
  cases h with
  | @tooLong read hasked htold =>
    exact ⟨read, turn_of_skips (.tooLong hasked htold)⟩
  | @fails line read e hasked hfilled herror htold =>
    have hshell := (Shell.becomes_eval tools line turn.1 read).by_result.1 e herror
    have hne : ∀ max, e ≠ .parse (.lineTooLong max) := by
      rintro max rfl
      exact Shell.eval_ne_lineTooLong tools line turn.1 read max herror
    rw [statusBehind_of_ne hne, turn_of_text hasked, if_neg (by simp [hfilled])]
    rcases heval : turn.1.eval tools line read with ⟨result, shell, left⟩
    rw [heval] at herror hshell htold
    obtain rfl : result = .error e := herror
    obtain rfl : shell = turn.1 := hshell
    exact ⟨left, by rw [settle, orPanic_of_printed _ _ htold]⟩

theorem statusBehind_eq_zero_iff (lastStatus : Int) :
    statusBehind lastStatus e = 0 ↔
      (∃ max, e = .parse (.lineTooLong max)) ∧ lastStatus = 0 ∨
      ∃ fault ending, e = .pipeline fault ∧ fault.reaped.getLast? = some ending ∧
        ending.code = 0 := by
  by_cases hlong : ∃ max, e = .parse (.lineTooLong max)
  · obtain ⟨max, rfl⟩ := hlong
    simp [statusBehind]
  · rw [statusBehind_of_ne fun max h => hlong ⟨max, h⟩, statusAfter_eq_zero_iff]
    simp [hlong]

end Diagnosed

/-- **Where a reported line looks like success.** The turn goes on, and the status behind it is 0
only if the line is too long and the status was 0 before, or if the line is a pipeline that could
not be carried out and the last of its processes that ended has ended with 0. If the input ends
there, the session leaves with this status, unless it panics over the last line feed. -/
theorem diagnosed_status (tools : Tools β φ κ η) (journal : Journal) (turn : Shell × World β)
    (e : EvalError) (h : Diagnoses tools journal turn e) :
    ∃ status left,
      Session.turn tools journal turn.1 turn.2 =
        (none, { turn.1 with lastStatus := status }, (report e.message left).2) ∧
      (status = 0 ↔
        (∃ max, e = .parse (.lineTooLong max)) ∧ turn.1.lastStatus = 0 ∨
        ∃ fault ending, e = .pipeline fault ∧ fault.reaped.getLast? = some ending ∧
          ending.code = 0) ∧
      ∀ read, asked journal { turn.1 with lastStatus := status } (report e.message left).2 =
          (.ok .endOfInput, read) →
        ∃ ended, Finishes tools journal turn [turn]
          ({ turn.1 with lastStatus := status }, (report e.message left).2)
          (if (read.print 1 [Input.lineFeed]).1 then status else panicCode,
            { turn.1 with lastStatus := status }, ended) := by
  obtain ⟨left, hturn⟩ := turn_of_diagnoses h
  refine ⟨statusBehind turn.1.lastStatus e, left, hturn, statusBehind_eq_zero_iff _, ?_⟩
  intro read hasked
  refine ⟨(read.print 1 [Input.lineFeed]).2, .goOn hturn (.here _), ?_⟩
  rw [turn_of_endOfInput hasked, orPanic]
  split <;> rfl

/-! ## Two reported lines -/

section Reported

/-- A machine without files whose standard input is a script. -/
def scripted (script : String) : World Rehearsal where
  machine := (((Machine.onTree .bare []).openStream 0
    (Text.Utf8.encode script).toArray).openStream 1 #[]).openStream 2 #[]
  log := {}

/-- A shell that takes lines of at most so many bytes. -/
def taking (maxLine : Nat) : Shell :=
  { settings := { maxLine }, lastStatus := 0, cwd := Machine.FileTree.root }

/-- No pipe can be made behind the first stage, which ends with this status. -/
def pipeless (status : ExitStatus) : Tools Rehearsal PipeEnd Unit Nat where
  capture _ delimiter := World.onLog (Rehearsal.capture {} delimiter)
  builder _ := (Rehearsal.builder { statuses := [status], pipelessAfter := some 0 }).onLog

/-- A turn whose line is too long. -/
def overlong : Shell × World Rehearsal := (taking 4, scripted "abcdefgh\n")

/-- A turn whose line is a pipeline that gets no further than its first stage. -/
def interrupted : Shell × World Rehearsal := (taking 200, scripted "a | b | c\n")

theorem diagnoses_overlong (status : ExitStatus) :
    Diagnoses (pipeless status) trialJournal overlong (.parse (.lineTooLong 4)) := by
  have hasked : (asked trialJournal overlong.1 overlong.2).1 = .ok .tooLong := by decide +kernel
  exact .tooLong (Prod.ext hasked rfl) (by decide +kernel)

theorem diagnoses_interrupted (status : ExitStatus) :
    Diagnoses (pipeless status) trialJournal interrupted
      (.pipeline ⟨1, .pipe .tooManyFiles, [status]⟩) := by
  have hasked : (asked trialJournal interrupted.1 interrupted.2).1 = .ok (.text "a | b | c") := by
    decide +kernel
  have hparse : interrupted.1.parse (asked trialJournal interrupted.1 interrupted.2).2.machine
      "a | b | c" = .ok ⟨[["a"], ["b"], ["c"]]⟩ := by
    decide +kernel
  -- Carrying the line out leaves the machine alone, so standard error is where it was.
  have htold : (report (EvalError.message (.pipeline ⟨1, .pipe .tooManyFiles, []⟩))
      (asked trialJournal interrupted.1 interrupted.2).2).1 = true := by
    decide +kernel
  refine .fails (Prod.ext hasked rfl) (by decide +kernel) ?_ ?_
  · rw [Shell.eval_of_parse_eq_ok _ _ _ _ hparse]
    rfl
  · rw [Shell.eval_of_parse_eq_ok _ _ _ _ hparse]
    exact htold

/-- Where the first stage has failed, the status behind the pipeline is not 0. -/
theorem diagnosed_status_interrupted :
    Diagnoses (pipeless (.exited 3)) trialJournal interrupted
        (.pipeline ⟨1, .pipe .tooManyFiles, [.exited 3]⟩) ∧
      (turn (pipeless (.exited 3)) trialJournal
        interrupted.1 interrupted.2).2.1.lastStatus ≠ 0 := by
  refine ⟨diagnoses_interrupted _, ?_⟩
  obtain ⟨status, left, hturn, hzero, -⟩ := diagnosed_status (pipeless (.exited 3)) trialJournal
    interrupted _ (diagnoses_interrupted _)
  rw [hturn]
  intro hstatus
  obtain ⟨⟨max, hlong⟩, -⟩ | ⟨fault, ending, hfault, hlast, hcode⟩ := hzero.mp hstatus
  · cases hlong
  · cases hfault
    cases hlast
    cases hcode

/-- **A reported line can look like success**: behind a line that is too long, and behind a pipeline
that gets no further than a first stage that succeeds, the status is 0, and the session leaves with
0 when its input ends there. -/
theorem diagnosed_line_succeeds :
    (Diagnoses (pipeless (.exited 0)) trialJournal overlong (.parse (.lineTooLong 4)) ∧
      (turn (pipeless (.exited 0)) trialJournal overlong.1 overlong.2).2.1.lastStatus = 0 ∧
      (run (pipeless (.exited 0)) trialJournal overlong.1 overlong.2).1 = 0) ∧
    Diagnoses (pipeless (.exited 0)) trialJournal interrupted
        (.pipeline ⟨1, .pipe .tooManyFiles, [.exited 0]⟩) ∧
      (turn (pipeless (.exited 0)) trialJournal interrupted.1 interrupted.2).2.1.lastStatus = 0 ∧
      (run (pipeless (.exited 0)) trialJournal interrupted.1 interrupted.2).1 = 0 :=
  ⟨⟨diagnoses_overlong _, by decide +kernel, by decide +kernel⟩,
    diagnoses_interrupted _, by decide +kernel, by decide +kernel⟩

end Reported

end Session

end PipeShell
