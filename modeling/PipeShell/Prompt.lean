import PipeShell.LogFilter
import PipeShell.Machine.Stream

/-!
# The prompt

The prompt shows the user and the working directory. A user without a name is shown as a question
mark; where the working directory has no path, a fixed prompt takes its place and a message for the
log says why.

## Main definitions

* `Prompt.render`: the prompt for a user and a directory
* `Prompt.current`: the prompt of a shell on a machine
-/

namespace PipeShell.Prompt

/-- The characters that begin and end the coloured part. -/
def blue : String := "\x1b[1;34m"

def reset : String := "\x1b[0m"

/-- The prompt where the working directory is not known. -/
def fallback : String := "ish$ "

/-- The prompt for a user and a directory. -/
def render (user cwd : Option String) (color : Bool) : String :=
  match cwd with
  | none => fallback
  | some cwd =>
    let body := user.getD "?" ++ "@ish:" ++ cwd
    if color then blue ++ body ++ reset ++ "$ " else body ++ "$ "

/-- What the log says of a working directory without a path. -/
def lostDirectory : LogMessage := ⟨.warn, "ish::prompt", "getcwd: " ++ Errno.noEntry.message⟩

/-- The prompt of a shell that stands in a directory, and what the log says of it. -/
def current (m : Machine) (cwd : Machine.NodeId) (color : Bool) : String × Option LogMessage :=
  let path := m.tree.pathOf? cwd
  (render (m.environment.lookup "USER") path color,
    if path.isNone then some lostDirectory else none)

end PipeShell.Prompt
