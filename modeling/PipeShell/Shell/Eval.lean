import PipeShell.Pipeline
import PipeShell.Shell.Builtin
import PipeShell.Shell.World
import PipeShell.Wildcard.Search

/-!
# Carrying out a line

A line is read as a pipeline, with the files of the machine in view. Then the redirections of all
its stages are resolved, captured texts included. A pipeline of one stage whose first argument names
a built-in command runs inside the shell, its files opened there; every other pipeline is carried
out by processes, of which the last decides the status.

A line that fails leaves the shell as it was, and so does one that makes the shell leave.

## Main definitions

* `view`: a machine's files as a search sees them
* `eval`: carries out one line
-/

namespace PipeShell

variable {β φ κ η : Type}

/-- A machine's files as a search sees them from a directory. -/
def Machine.view (m : Machine) (cwd : Machine.NodeId) : Wildcard.View where
  present path := (m.tree.find cwd false path).toOption.isSome
  isDirectory path := (m.tree.find cwd true path).toOption.any m.tree.isDirectory
  names path := (m.names cwd path).toOption.getD []

namespace Shell

/-- Reads a line as a pipeline. -/
def parse (shell : Shell) (m : Machine) (line : String) : Except ParseError Pipeline :=
  Pipeline.ofLine? (Wildcard.expand (m.view shell.cwd)) line

/-- The built-in command that a pipeline is, if it is one, with its plan. -/
def builtinOf? : List (Except RedirectionError (Plan κ)) → Option (Builtin × Plan κ)
  | [.ok plan] => (plan.program?.bind Builtin.ofName?).map fun b => (b, plan)
  | _ => none

/-- Prints to a file, or to standard output where there is none. -/
def printTo (output : Option Nat) (bytes : Bytes) (w : World β) : Bool × World β :=
  match output with
  | none => w.print 1 bytes
  | some file =>
    let (result, w) := w.onMachine (·.writeFile file bytes)
    (result.toOption.isSome, w)

/-- Runs a built-in command with the redirections of its plan. -/
def runBuiltin (b : Builtin) (plan : Plan κ) (shell : Shell) (w : World β) :
    Except EvalError Flow × Shell × World β :=
  match w.onMachine (Machine.openForBuiltin shell.cwd plan.bindings none) with
  | (.error e, w) => (.error (.redirection e), shell, w)
  | (.ok output, w) =>
    match b.run w.machine.tree (printTo output) plan.args.tail shell w with
    | (.error e, shell, w) => (.error (.builtin e), shell, w)
    | (.ok (.goOn status), shell, w) =>
      (.ok (.goOn status), { shell with lastStatus := status }, w)
    -- The status is not needed any more.
    | (.ok (.leave code), shell, w) => (.ok (.leave code), shell, w)

/-- The status of a pipeline: that of its last stage. -/
def statusOf (statuses : List ExitStatus) : Int :=
  match statuses.getLast? with
  | some status => status.code
  | none => 0

/-- Carries out the plans of a pipeline by processes. -/
def runProcesses (tools : Tools β φ κ η) (plans : List (Except RedirectionError (Plan κ)))
    (shell : Shell) (w : World β) : Except EvalError Flow × Shell × World β :=
  match execute (tools.builder shell.cwd) plans w with
  | (.error e, w) => (.error (.pipeline e), shell, w)
  | (.ok statuses, w) =>
    let status := statusOf statuses
    (.ok (.goOn status), { shell with lastStatus := status }, w)

/-- Carries out one line. -/
def eval (tools : Tools β φ κ η) (line : String) (shell : Shell) (w : World β) :
    Except EvalError Flow × Shell × World β :=
  match shell.parse w.machine line with
  | .error e => (.error (.parse e), shell, w)
  | .ok pipeline =>
    let (plans, w) := Plan.resolveAll (tools.capture shell.cwd) pipeline.commands w
    match builtinOf? plans with
    | some (b, plan) => runBuiltin b plan shell w
    | none => runProcesses tools plans shell w

end Shell

end PipeShell
