/-!
# How a process ended

A process ends by leaving with a status or by a signal. The shell's one-number form of an ending
maps signal `n` to `128 + n`.
-/

namespace PipeShell

/-- How a process ended. -/
inductive ExitStatus where
  | exited (code : Int)
  | signaled (signal : Int)
  deriving DecidableEq, Repr, Inhabited

namespace ExitStatus

/-- The ending as one number. -/
def code : ExitStatus → Int
  | exited c => c
  | signaled s => 128 + s

/-- The process left by itself with status 0. -/
def success (s : ExitStatus) : Bool := s = exited 0

@[simp] theorem code_exited (c : Int) : (exited c).code = c := rfl

@[simp] theorem code_signaled (s : Int) : (signaled s).code = 128 + s := rfl

end ExitStatus

end PipeShell
