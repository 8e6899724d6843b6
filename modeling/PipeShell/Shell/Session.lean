import PipeShell.Prompt
import PipeShell.Shell.Eval

/-!
# Sessions

A session reads lines from standard input until a command leaves or the input ends. Before each line
the prompt is written to standard error, which keeps it out of the output. Blank lines do nothing;
a line that is too long is reported and skipped. What goes wrong in any other line is reported and
leaves a status behind. At the end of the input a line feed is printed.

A prompt that cannot be written is not missed. A report that cannot be written, or the last line
feed, makes the session panic: it leaves at once, with a code for that. What the panic itself says
on standard error is left out here.

Every turn but the last takes at least one byte of the input away, which bounds their number.

## Main definitions

* `Session.turn`: reads and carries out one line
* `Session.run`: the turns of a session, and the code it leaves with
* `Session.main`: a whole session on a machine, settings and log included
-/

namespace PipeShell.Session

variable {β φ κ η : Type}

/-- Writes a message to the journal, if there is one and it is shown. -/
def record (journal : Journal) (message : Option LogMessage) (w : World β) : World β :=
  match message.bind journal.line? with
  | none => w
  | some line => w.complain (line ++ "\n")

/-- Writes the prompt. -/
def showPrompt (journal : Journal) (shell : Shell) (w : World β) : World β :=
  let (text, message) := Prompt.current w.machine shell.cwd shell.settings.colorPrompt
  (record journal message w).complain text

/-- Reports an error, and tells whether the report could be written. -/
def report (message : String) (w : World β) : Bool × World β :=
  w.print 2 (Text.Utf8.encode ("ish: " ++ message ++ "\n"))

/-- The code of a session that panics. -/
def panicCode : Int := 101

/-- What follows when something has been printed: the turn ends as given, or the session panics. -/
def orPanic (next : Option Int × Shell) (shell : Shell) (printed : Bool × World β) :
    Option Int × Shell × World β :=
  if printed.1 then (next.1, next.2, printed.2) else (some panicCode, shell, printed.2)

/-- Reads one line from standard input. -/
def readLine (shell : Shell) (w : World β) : Except Errno Line × World β :=
  w.onMachine fun m =>
    let (line, rest) := m.input.readLine (some shell.settings.maxLine)
    (line, m.setInput rest)

/-- The status that a failing line leaves behind: of a pipeline, that of the last stage that ended;
2 for a line that is no pipeline, and 1 for all else. -/
def statusAfter : EvalError → Int
  | .parse _ => 2
  | .redirection _ | .builtin _ => 1
  | .pipeline e =>
    match e.reaped.getLast? with
    | some status => status.code
    | none => 1

/-- Carries out a line, and tells the code to leave with, if it makes the shell leave. -/
def perform (tools : Tools β φ κ η) (line : String) (shell : Shell) (w : World β) :
    Option Int × Shell × World β :=
  if (Text.trim line).isEmpty then (none, shell, w)
  else
    match shell.eval tools line w with
    | (.ok (.goOn _), shell, w) => (none, shell, w)
    | (.ok (.leave code), shell, w) => (some code, shell, w)
    | (.error e, shell, w) =>
      orPanic (none, { shell with lastStatus := statusAfter e }) shell (report e.message w)

/-- One turn: the code to leave with, if the session ends here. -/
def turn (tools : Tools β φ κ η) (journal : Journal) (shell : Shell) (w : World β) :
    Option Int × Shell × World β :=
  match readLine shell (showPrompt journal shell w) with
  | (.error cause, w) =>
    orPanic (some 1, shell) shell (report (ReadError.system cause).message w)
  | (.ok .tooLong, w) =>
    orPanic (none, shell) shell (report (ParseError.lineTooLong shell.settings.maxLine).message w)
  | (.ok .endOfInput, w) =>
    -- The prompt is still on the line that is ended here.
    orPanic (some shell.lastStatus, shell) shell (w.print 1 [Input.lineFeed])
  | (.ok (.text line), w) => perform tools line shell w

/-- At most `turns` turns, and the code that the session leaves with. -/
def runWithin (tools : Tools β φ κ η) (journal : Journal) :
    (turns : Nat) → Shell → World β → Int × Shell × World β
  | 0, shell, w => (shell.lastStatus, shell, w)
  | turns + 1, shell, w =>
    match turn tools journal shell w with
    | (some code, shell, w) => (code, shell, w)
    | (none, shell, w) => runWithin tools journal turns shell w

/-- A session: the code it leaves with, and what it leaves behind. -/
def run (tools : Tools β φ κ η) (journal : Journal) (shell : Shell) (w : World β) :
    Int × Shell × World β :=
  runWithin tools journal (w.machine.input.unread + 1) shell w

/-- The environment's filter on the log. -/
def logVariable : String := "ISH_LOG"

/-- What the log says of settings that could not be had. -/
def ignoredSettings (e : SettingsError) : LogMessage :=
  ⟨.warn, "ish", "ignoring configuration: " ++ e.message⟩

/-- What the log says of a process whose ending could not be learnt. -/
def lostStage (stage : Nat) (e : SpawnError) : LogMessage :=
  ⟨.warn, "ish::eval", "stage " ++ toString stage ++ " could not be reaped: " ++ e.message⟩

/-- What a process's exit code is of a code it leaves with. -/
def exitCode (code : Int) : Nat := (code % 256).toNat

/-- A whole session: settings are loaded, or left at their defaults with a message for the log, and
lines are read until the session ends. -/
def main (m : Machine) (cwd : Machine.NodeId) : Nat × Machine :=
  let (settings, fault) := match Settings.load m cwd with
    | .ok settings => (settings, none)
    | .error e => (({} : Settings), some e)
  let (filter, misread) :=
    LogFilter.ofSpec ((m.environment.lookup logVariable).getD settings.logLevel)
  let m := misread.foldl (fun m text => m.complain ("warning: " ++ text ++ ", ignoring it\n")) m
  let journal : Journal := ⟨filter, Journal.wantsColor fun name => m.environment.lookup name⟩
  let w := record journal (fault.map ignoredSettings) { machine := m, log := () }
  let shell := { settings, lastStatus := 0, cwd }
  let tools := (Tools.onMachine settings.heredocPrompt).telling fun stage e =>
    record journal (some (lostStage stage e))
  let (code, _, w) := run tools journal shell w
  (exitCode code, w.machine)

end PipeShell.Session
