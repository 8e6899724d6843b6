import PipeShell.Proofs.Plan.Capturing
import PipeShell.Shell.Session

/-!
# What a session reads

A session reads standard input for two purposes: one line at the beginning of each turn, and, while
the line is resolved, the text of each `<<` in it. Both are written down here with the positions at
which they begin and end, for every turn of a session and in the order in which they happen. Writing
them down changes nothing.

A pipe forgets what has been read from it. So a position is told from what is left: it is the number
of bytes that are no longer there, of those that there were when the session began.

## Main definitions

* `Reading`: what standard input is read for, from where to where
* `asked`, `commands?`, `resolved?`: a turn up to the point where its line is carried out
* `Panics`: a turn that cannot print what it has to print
* `turns`: the states in which the turns of a session begin
* `readings`: the readings of a session

## Main results

* `resolveAll_recorded`: writing the captures down changes nothing
* `turn_by_asked`, `turn_eq_settle`: a turn by what it reads, and by what its line is resolved to
-/

namespace PipeShell

variable {β φ κ η : Type}

/-- The position of standard input, which had `total` bytes to be read. -/
def World.position (total : Nat) (w : World β) : Nat := total - w.machine.input.unread

/-- What standard input is read for: a line, with what came of it, or the text up to a delimiter,
with whether it was kept. -/
inductive Session.Purpose where
  | line (line : Except Errno Line)
  | text (delimiter : String) (kept : Except Errno Unit)

/-- One reading of standard input: what for, and the positions before it and after it. -/
structure Session.Reading where
  purpose : Session.Purpose
  start : Nat
  stop : Nat

/-- Why the text of a `<<` could not be kept. -/
def Session.Reading.fault? (r : Session.Reading) : Option Errno :=
  match r.purpose with
  | .text _ (.error cause) => some cause
  | _ => none

/-- The same capture, which besides writes down what it reads. -/
def Capture.recorded (total : Nat) (capture : Capture (World β) κ) :
    Capture (World β × List Session.Reading) κ :=
  fun delimiter s =>
    let (body, after) := capture delimiter s.1
    (body, after, s.2 ++ [⟨.text delimiter (body.map fun _ => ()), s.1.position total,
      after.position total⟩])

namespace Session

/-! ## Printing or panicking -/

section Printing

variable (next : Option Int × Shell) (shell : Shell) {printed : Bool × World β}

@[simp] theorem snd_snd_orPanic : (orPanic next shell printed).2.2 = printed.2 := by
  unfold orPanic
  split <;> rfl

theorem orPanic_of_printed (h : printed.1 = true) :
    orPanic next shell printed = (next.1, next.2, printed.2) :=
  if_pos h

theorem orPanic_of_lost (h : printed.1 = false) :
    orPanic next shell printed = (some panicCode, shell, printed.2) :=
  if_neg (by simp [h])

end Printing

/-! ## One turn -/

section Turn

variable (total : Nat) (tools : Tools β φ κ η) (journal : Journal) (shell : Shell) (w : World β)

/-- The line that a turn reads, and the world once it has been read. -/
def asked : Except Errno Line × World β := readLine shell (showPrompt journal shell w)

/-- The commands that the line of a turn is, if it is a pipeline, and the world once it has been
read. -/
def commands? : Option (List Command × World β) :=
  match asked journal shell w with
  | (.ok (.text line), w) =>
    if (Text.trim line).isEmpty then none
    else
      match shell.parse w.machine line with
      | .error _ => none
      | .ok pipeline => some (pipeline.commands, w)
  | _ => none

/-- The plans that these commands are resolved to, and the world after that. -/
def resolved? : Option (List (Except RedirectionError (Plan κ)) × World β) :=
  (commands? journal shell w).map fun (commands, w) =>
    Plan.resolveAll (tools.capture shell.cwd) commands w

/-- The reading of the line of a turn. -/
def lineReading : Reading :=
  ⟨.line (asked journal shell w).1, (showPrompt journal shell w).position total,
    (asked journal shell w).2.position total⟩

/-- The readings of the texts of a turn, captured while its line is resolved. -/
def textReadings : List Reading :=
  match commands? journal shell w with
  | some (commands, w) =>
    (Plan.resolveAll ((tools.capture shell.cwd).recorded total) commands (w, [])).2.2
  | none => []

/-- The readings of a turn: its line, and then the texts of it. -/
def turnReadings : List Reading :=
  lineReading total journal shell w :: textReadings total tools journal shell w

/-- Carries out what a line was resolved to. -/
def carryOut (plans : List (Except RedirectionError (Plan κ))) :
    Except EvalError Flow × Shell × World β :=
  match Shell.builtinOf? plans with
  | some (b, plan) => Shell.runBuiltin b plan shell w
  | none => Shell.runProcesses tools plans shell w

/-- What a turn makes of the end of its line. -/
def settle : Except EvalError Flow × Shell × World β → Option Int × Shell × World β
  | (.ok (.goOn _), shell, w) => (none, shell, w)
  | (.ok (.leave code), shell, w) => (some code, shell, w)
  | (.error e, shell, w) =>
    orPanic (none, { shell with lastStatus := statusAfter e }) shell (report e.message w)

/-- Something that a turn has to print cannot be written: a report, or the last line feed. -/
inductive Panics (turn : Shell × World β) : Prop where
  | unreadable {cause read} (asked : asked journal turn.1 turn.2 = (.error cause, read))
    (lost : (report (ReadError.system cause).message read).1 = false)
  | endOfInput {read} (asked : asked journal turn.1 turn.2 = (.ok .endOfInput, read))
    (lost : (read.print 1 [Input.lineFeed]).1 = false)
  | tooLong {read} (asked : asked journal turn.1 turn.2 = (.ok .tooLong, read))
    (lost : (report (ParseError.lineTooLong turn.1.settings.maxLine).message read).1 = false)
  | fails {line read e} (asked : asked journal turn.1 turn.2 = (.ok (.text line), read))
    (filled : (Text.trim line).isEmpty = false)
    (error_eq : (turn.1.eval tools line read).1 = .error e)
    (lost : (report e.message (turn.1.eval tools line read).2.2).1 = false)

/-- Writing the captures down changes nothing. -/
theorem resolveAll_recorded (capture : Capture (World β) κ) (commands : List Command)
    (log : List Reading) :
    Plan.resolveAll capture commands w =
      ((Plan.resolveAll (capture.recorded total) commands (w, log)).1,
        (Plan.resolveAll (capture.recorded total) commands (w, log)).2.1) :=
  @Plan.resolveAll_view _ _ _ Prod.fst (capture.recorded total) capture (fun _ _ => rfl) commands
    (w, log)

/-- A turn, by what it reads. -/
theorem turn_by_asked :
    turn tools journal shell w =
      match asked journal shell w with
      | (.error cause, read) =>
        orPanic (some 1, shell) shell (report (ReadError.system cause).message read)
      | (.ok .tooLong, read) =>
        orPanic (none, shell) shell
          (report (ParseError.lineTooLong shell.settings.maxLine).message read)
      | (.ok .endOfInput, read) =>
        orPanic (some shell.lastStatus, shell) shell (read.print 1 [Input.lineFeed])
      | (.ok (.text line), read) =>
        if (Text.trim line).isEmpty then (none, shell, read)
        else settle (shell.eval tools line read) := by
  unfold turn asked
  rcases readLine shell (showPrompt journal shell w) with ⟨cause | line | _ | _, read⟩
  · rfl
  · dsimp only [perform]
    split
    · rfl
    · rcases shell.eval tools line read with ⟨_ | _ | _, _, _⟩ <;> rfl
  · rfl
  · rfl

variable {tools journal shell w} {read : World β}

theorem turn_of_endOfInput (h : asked journal shell w = (.ok .endOfInput, read)) :
    turn tools journal shell w =
      orPanic (some shell.lastStatus, shell) shell (read.print 1 [Input.lineFeed]) := by
  rw [turn_by_asked, h]

theorem turn_of_tooLong (h : asked journal shell w = (.ok .tooLong, read)) :
    turn tools journal shell w = orPanic (none, shell) shell
      (report (ParseError.lineTooLong shell.settings.maxLine).message read) := by
  rw [turn_by_asked, h]

theorem turn_of_text {line : String} (h : asked journal shell w = (.ok (.text line), read)) :
    turn tools journal shell w =
      if (Text.trim line).isEmpty then (none, shell, read)
      else settle (shell.eval tools line read) := by
  rw [turn_by_asked, h]

/-- What can be said of the line of a turn whose line is a pipeline. -/
theorem asked_of_commands? {commands : List Command}
    (h : commands? journal shell w = some (commands, read)) :
    ∃ line pipeline, asked journal shell w = (.ok (.text line), read) ∧
      (Text.trim line).isEmpty = false ∧ shell.parse read.machine line = .ok pipeline ∧
      pipeline.commands = commands := by
  unfold commands? at h
  split at h
  · rename_i line after hasked
    split at h
    · cases h
    · rename_i hblank
      split at h
      · cases h
      · rename_i pipeline hparse
        cases h
        exact ⟨line, pipeline, hasked, by simpa using hblank, hparse, rfl⟩
  · cases h

/-- A line that is resolved is a pipeline. -/
theorem commands?_of_resolved? {plans : List (Except RedirectionError (Plan κ))} {after : World β}
    (h : resolved? tools journal shell w = some (plans, after)) :
    ∃ commands read, commands? journal shell w = some (commands, read) ∧
      Plan.resolveAll (tools.capture shell.cwd) commands read = (plans, after) := by
  obtain ⟨⟨commands, read⟩, hcommands, hplans⟩ := Option.map_eq_some_iff.mp h
  exact ⟨commands, read, hcommands, hplans⟩

/-- A line that is resolved is carried out. -/
theorem turn_eq_settle {plans : List (Except RedirectionError (Plan κ))} {after : World β}
    (h : resolved? tools journal shell w = some (plans, after)) :
    ∃ line read, asked journal shell w = (.ok (.text line), read) ∧
      (Text.trim line).isEmpty = false ∧
      shell.eval tools line read = carryOut tools shell after plans ∧
      turn tools journal shell w = settle (carryOut tools shell after plans) := by
  obtain ⟨commands, read, hcommands, hplans⟩ := commands?_of_resolved? h
  obtain ⟨line, pipeline, hasked, hfilled, hparse, rfl⟩ := asked_of_commands? hcommands
  have heval : shell.eval tools line read = carryOut tools shell after plans := by
    simp only [Shell.eval, hparse, hplans]
    rfl
  refine ⟨line, read, hasked, hfilled, heval, ?_⟩
  rw [turn_of_text hasked, if_neg (by simp [hfilled]), heval]

/-- A line that is not resolved is blank, or it fails as no pipeline. -/
theorem eval_of_resolved?_eq_none (h : resolved? tools journal shell w = none) {line : String}
    (hasked : asked journal shell w = (.ok (.text line), read)) :
    (Text.trim line).isEmpty = true ∨
      ∃ e, shell.eval tools line read = (.error (.parse e), shell, read) := by
  have hcommands : commands? journal shell w = none := Option.map_eq_none_iff.mp h
  simp only [commands?, hasked] at hcommands
  split at hcommands
  · rename_i hblank
    exact .inl hblank
  · split at hcommands
    · rename_i e hparse
      exact .inr ⟨e, by simp only [Shell.eval, hparse]⟩
    · cases hcommands

end Turn

/-! ## Whole sessions -/

section Run

variable (tools : Tools β φ κ η) (journal : Journal)

/-- The states in which at most `limit` turns begin. -/
def turnsWithin : (limit : Nat) → Shell → World β → List (Shell × World β)
  | 0, _, _ => []
  | limit + 1, shell, w =>
    (shell, w) ::
      match turn tools journal shell w with
      | (some _, _, _) => []
      | (none, shell, w) => turnsWithin limit shell w

variable (shell : Shell) (w : World β)

/-- The states in which the turns of a session begin. -/
def turns : List (Shell × World β) :=
  turnsWithin tools journal (w.machine.input.unread + 1) shell w

/-- The readings of a session. -/
def readings : List Reading :=
  (turns tools journal shell w).flatMap fun turn =>
    turnReadings w.machine.input.unread tools journal turn.1 turn.2

end Run

end Session

end PipeShell
