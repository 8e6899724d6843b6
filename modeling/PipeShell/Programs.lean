import PipeShell.Machine.Layout
import PipeShell.Programs.Cat
import PipeShell.Programs.Echo
import PipeShell.Programs.Grep
import PipeShell.Programs.Head
import PipeShell.Programs.Interpreter.Start
import PipeShell.Programs.Ls
import PipeShell.Programs.Rm
import PipeShell.Programs.Rmdir
import PipeShell.Programs.Seq
import PipeShell.Programs.Sort
import PipeShell.Programs.Tr
import PipeShell.Programs.Uniq
import PipeShell.Programs.Wc

/-!
# The programs of a machine

Every program that a machine starts out with, under its name.
-/

namespace PipeShell

open Machine (Main)

/-- The programs, each with its name. -/
def programs : List (String × Main) :=
  [("cat", Programs.cat), ("echo", Programs.echo), ("false", Programs.fail),
   ("grep", Programs.grep), ("head", Programs.head), ("ls", Programs.ls), ("rm", Programs.rm),
   ("rmdir", Programs.rmdir), ("seq", Programs.seq), ("sh", Programs.sh),
   ("sort", Programs.sort), ("tr", Programs.tr), ("true", Programs.succeed),
   ("uniq", Programs.uniq), ("wc", Programs.wc)]

/-- A machine with all programs. -/
def Machine.standard (environment : Machine.Environment) : Machine := boot programs environment

end PipeShell
