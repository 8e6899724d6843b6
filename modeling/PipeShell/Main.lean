import PipeShell.Programs
import PipeShell.Shell.Session

/-!
# The command

Runs a session on standard input. The machine under it starts out with all programs, with the
variables of the surrounding process, and in the directory `HOME` names. What the session wrote is
written out when it ends.

Left out are the editing of lines on a terminal, with its history, and the messages for debugging
that the log could show.
-/

namespace PipeShell.Command

open PipeShell

/-- The variables that reach a session. -/
def variableNames : List String :=
  ["PATH", "HOME", "USER", "TMPDIR", "ISH_CONFIG", Session.logVariable] ++ Journal.variableNames

/-- Everything that a stream still holds. -/
partial def readAll (stream : IO.FS.Stream) (soFar : ByteArray) : IO ByteArray := do
  let chunk ← stream.read 65536
  if chunk.isEmpty then return soFar
  readAll stream (soFar ++ chunk)

/-- The variables of this process that reach a session. -/
def environment : IO Machine.Environment := do
  let found ← variableNames.mapM fun name => do
    return (← IO.getEnv name).map fun value => (name, value)
  return found.filterMap id

/-- A machine in its starting state, and the directory that a session on it starts in. -/
def start (environment : Machine.Environment) (input : Array UInt8) : Machine × Machine.NodeId :=
  let home := (environment.lookup "HOME").getD "/"
  let m := (Machine.standard environment).plant home .directory
  let cwd := (m.tree.find Machine.FileTree.root true home).toOption.getD Machine.FileTree.root
  (((m.openStream 0 input).openStream 1 #[]).openStream 2 #[], cwd)

end PipeShell.Command

open PipeShell PipeShell.Command in
/-- Runs a session on standard input and leaves with its code. -/
def main : IO UInt32 := do
  let input ← readAll (← IO.getStdin) ByteArray.empty
  let (m, cwd) := start (← environment) input.data
  let (code, m) := Session.main m cwd
  (← IO.getStdout).write ⟨m.streamContents 1⟩
  (← IO.getStderr).write ⟨m.streamContents 2⟩
  return UInt32.ofNat code
