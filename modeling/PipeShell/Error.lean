import PipeShell.Errno
import PipeShell.Redirect
import PipeShell.Status
import PipeShell.Text.Quoted

/-!
# What can go wrong

Each stage of the work has its own type of errors, whose constructors are causes; `message` gives
the wording of each. An error of a pipeline carries the endings of the processes that had been
started before the fault, all of which have been waited for.

## Main definitions

* `ParseError`: a line that is no pipeline
* `RedirectionError`: a redirection that is incomplete or cannot be carried out
* `BuiltinError`: a built-in command called wrongly
* `SpawnError`, `PipelineError`: processes that cannot be started or waited for
* `ExecError`: a program that cannot be run
* `EvalError`: any of these, as the outcome of one line
* `ReadError`: input that cannot be read
-/

namespace PipeShell

/-- A line that is no pipeline. -/
inductive ParseError where
  | emptyPipeline
  | lineTooLong (max : Nat)
  deriving DecidableEq, Repr

def ParseError.message : ParseError → String
  | emptyPipeline => "syntax error: empty command in pipeline"
  | lineTooLong max => "input line longer than " ++ toString max ++ " bytes"

/-- A redirection that is incomplete or cannot be carried out. -/
inductive RedirectionError where
  | missingOperand (kind : RedirectKind)
  | openFailed (path : String) (cause : Errno)
  | heredoc (cause : Errno)
  deriving DecidableEq, Repr

def RedirectionError.message : RedirectionError → String
  | missingOperand kind => "missing operand after '" ++ kind.operator ++ "'"
  | openFailed path cause => path ++ ": " ++ cause.message
  | heredoc cause => "heredoc: " ++ cause.message

/-- A built-in command called wrongly. -/
inductive BuiltinError where
  | missingArgument
  | tooManyArguments
  | changeDirFailed (path : String) (cause : Errno)
  | badExitCode (arg : String)
  deriving DecidableEq, Repr

def BuiltinError.message : BuiltinError → String
  | missingArgument => "usage: cd <directory>"
  | tooManyArguments => "cd: too many arguments"
  | changeDirFailed path cause => "cd: " ++ path ++ ": " ++ cause.message
  | badExitCode arg => "exit: " ++ arg ++ ": numeric argument required"

/-- A step of starting or awaiting a process that the system refuses. -/
inductive SpawnError where
  | pipe (cause : Errno)
  | fork (cause : Errno)
  | wait (cause : Errno)
  deriving DecidableEq, Repr

namespace SpawnError

def cause : SpawnError → Errno
  | pipe e | fork e | wait e => e

def message : SpawnError → String
  | pipe e => "pipe: " ++ e.message
  | fork e => "fork: " ++ e.message
  | wait e => "wait: " ++ e.message

end SpawnError

/-- A program that cannot be run. -/
inductive ExecError where
  | notFound (program : String)
  | failed (program : String) (cause : Errno)
  | invalidArgument (arg : String)
  deriving DecidableEq, Repr

namespace ExecError

/-- The status with which the process ends that was to become the program. -/
def status : ExecError → Int
  | notFound _ => 127
  | failed .. | invalidArgument _ => 126

def message : ExecError → String
  | notFound program => program ++ ": command not found"
  | failed program cause => program ++ ": " ++ cause.message
  | invalidArgument arg => Text.Quoted.encode arg ++ ": argument contains a nul byte"

end ExecError

/-- A pipeline that could not be carried out completely: the stage at fault, the fault, and the
endings of the processes started before it that could be waited for, in stage order. -/
structure PipelineError where
  stage : Nat
  source : SpawnError
  reaped : List ExitStatus
  deriving DecidableEq, Repr

def PipelineError.message (e : PipelineError) : String :=
  "stage " ++ toString e.stage ++ ": " ++ e.source.message

/-- Why a line was not carried out. -/
inductive EvalError where
  | parse (e : ParseError)
  | redirection (e : RedirectionError)
  | builtin (e : BuiltinError)
  | pipeline (e : PipelineError)
  deriving DecidableEq, Repr

def EvalError.message : EvalError → String
  | parse e => e.message
  | redirection e => e.message
  | builtin e => e.message
  | pipeline e => e.message

/-- Input that cannot be read: the system refuses, or the bytes are not text where only text
will do. -/
inductive ReadError where
  | system (cause : Errno)
  | notText
  deriving DecidableEq, Repr

def ReadError.message : ReadError → String
  | system cause => "io error: " ++ cause.systemMessage
  | notText => "io error: stream did not contain valid UTF-8"

end PipeShell
