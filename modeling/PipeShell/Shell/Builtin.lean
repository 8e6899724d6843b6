import PipeShell.Error
import PipeShell.Shell.Basic
import PipeShell.Text.Numeral

/-!
# Built-in commands

A built-in command runs inside the shell. `cd` moves the shell to another directory, `exit` and
`quit` leave with a code or the status of the last command, and `help` prints a text.

## Main definitions

* `Builtin`, `Builtin.ofName?`: the commands
* `Builtin.run`: runs one, printing by a given function
-/

namespace PipeShell

/-- The commands that run inside the shell. -/
inductive Builtin where
  | changeDirectory
  | leave
  | help
  deriving DecidableEq, Repr

namespace Builtin

/-- The command of a name. -/
def ofName? (name : String) : Option Builtin :=
  if name = "cd" then some changeDirectory
  else if name = "exit" ∨ name = "quit" then some leave
  else if name = "help" then some help
  else none

/-- What `help` prints. -/
def helpText : String :=
  "Built-in commands:\n" ++
  "  cd <directory>   change the working directory\n" ++
  "  exit [n], quit   leave the shell\n" ++
  "  help             show this help\n" ++
  "Operators: cmd | cmd, < file, > file, >> file, << DELIMITER, * and ? wildcards\n"

/-- The directory that a path leads to, which must be one that may be entered. -/
def enter (tree : Machine.FileTree) (cwd : Machine.NodeId) (path : String) :
    Except Errno Machine.NodeId :=
  match tree.find cwd true path with
  | .error cause => .error cause
  | .ok id =>
    if !tree.isDirectory id then .error .notDirectory
    else if !tree.allows id .search then .error .noAccess
    else .ok id

/-- Runs `cd`. -/
def runChangeDirectory (tree : Machine.FileTree) (args : List String) (shell : Shell) :
    Except BuiltinError Flow × Shell :=
  match args with
  | [] => (.error .missingArgument, shell)
  | [path] =>
    match enter tree shell.cwd path with
    | .error cause => (.error (.changeDirFailed path cause), shell)
    | .ok cwd => (.ok (.goOn 0), { shell with cwd })
  | _ => (.error .tooManyArguments, shell)

/-- Runs `exit`. Only the first argument counts. -/
def runLeave (args : List String) (shell : Shell) : Except BuiltinError Flow :=
  match args with
  | [] => .ok (.leave shell.lastStatus)
  | arg :: _ =>
    match Text.Numeral.signed? arg with
    | some code => .ok (.leave code)
    | none => .error (.badExitCode arg)

/-- Runs a command. `print` tells whether the text could be printed. -/
def run {σ : Type} (b : Builtin) (tree : Machine.FileTree) (print : Bytes → σ → Bool × σ)
    (args : List String) (shell : Shell) (s : σ) : Except BuiltinError Flow × Shell × σ :=
  match b with
  | changeDirectory =>
    let (result, shell) := runChangeDirectory tree args shell
    (result, shell, s)
  | leave => (runLeave args shell, shell, s)
  | help =>
    let (printed, s) := print (Text.Utf8.encode helpText) s
    (.ok (.goOn (if printed then 0 else 1)), shell, s)

end Builtin

end PipeShell
