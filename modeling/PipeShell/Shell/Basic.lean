import PipeShell.Settings

/-!
# The shell's own state

A shell has settings, the status of the last command, and the directory it stands in.
-/

namespace PipeShell

/-- The state of a shell that lasts from line to line. -/
structure Shell where
  settings : Settings
  lastStatus : Int
  cwd : Machine.NodeId
  deriving DecidableEq, Repr

/-- What happens after a command: the shell goes on, with a status, or leaves with a code. -/
inductive Flow where
  | goOn (status : Int)
  | leave (code : Int)
  deriving DecidableEq, Repr

end PipeShell
