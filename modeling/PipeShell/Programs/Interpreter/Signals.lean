import PipeShell.Text.Octets

/-!
# Signals by name

## Main definitions

* `Signal.name`, `Signal.number?`: the names of signals, and the signal that a text means
* `Signal.report?`: what is said of a program that a signal has ended
-/

namespace PipeShell.Programs.Interpreter.Signal

open PipeShell.Text (Octets)

/-- The number of the last signal. -/
def last : Nat := 64

/-- The signals with names of their own, each with what is said of it. -/
def table : List (Nat × String × String) :=
  [(1, "HUP", "Hangup"), (2, "INT", "Interrupt"), (3, "QUIT", "Quit"),
   (4, "ILL", "Illegal instruction"), (5, "TRAP", "Trace/breakpoint trap"), (6, "ABRT", "Aborted"),
   (7, "BUS", "Bus error"), (8, "FPE", "Floating point exception"), (9, "KILL", "Killed"),
   (10, "USR1", "User defined signal 1"), (11, "SEGV", "Segmentation fault"),
   (12, "USR2", "User defined signal 2"), (13, "PIPE", "Broken pipe"), (14, "ALRM", "Alarm clock"),
   (15, "TERM", "Terminated"), (16, "16", "Stack fault"), (17, "CHLD", "Child exited"),
   (18, "CONT", "Continued"), (19, "STOP", "Stopped (signal)"), (20, "TSTP", "Stopped"),
   (21, "TTIN", "Stopped (tty input)"), (22, "TTOU", "Stopped (tty output)"),
   (23, "URG", "Urgent I/O condition"), (24, "XCPU", "CPU time limit exceeded"),
   (25, "XFSZ", "File size limit exceeded"), (26, "VTALRM", "Virtual timer expired"),
   (27, "PROF", "Profiling timer expired"), (28, "WINCH", "Window changed"),
   (29, "IO", "I/O possible"), (30, "PWR", "Power failure"), (31, "SYS", "Bad system call")]

/-- The first signal that has no fixed meaning, and the last one of those counted from it. -/
def firstFree : Nat := 34

/-- The name of a signal. -/
def name (n : Nat) : Octets :=
  match table.lookup n with
  | some (text, _) => text.toList
  | none =>
    if n = 0 then "EXIT".toList
    else if n < firstFree then (Nat.repr n).toList
    else if n = firstFree then "RTMIN".toList
    else if n = last then "RTMAX".toList
    else if n ≤ firstFree + 15 then "RTMIN+".toList ++ (Nat.repr (n - firstFree)).toList
    else "RTMAX-".toList ++ (Nat.repr (last - n)).toList

/-- The signal that a text means, its number or its name in any case; `least` is the least that has
a name here. -/
def number? (least : Nat) (text : Octets) : Option Nat :=
  let byName := (List.range (last + 1)).find? fun n =>
    least ≤ n && (name n).map Char.toUpper == text.map Char.toUpper
  if !text.isEmpty && text.all Char.isDigit then
    let n := text.foldl (fun n c => n * 10 + (c.toNat - 48)) 0
    if n ≤ last then some n else byName
  else byName

/-- What is said of a program that a signal has ended; nothing where somebody interrupted it or
nobody wanted its output. -/
def report? (n : Nat) : Option Octets :=
  if n = 2 || n = 13 then none
  else match table.lookup n with
    | some (_, text) => some text.toList
    | none =>
      if n < firstFree then some ("Unknown signal ".toList ++ (Nat.repr n).toList)
      else some ("Real-time signal ".toList ++ (Nat.repr (n - firstFree)).toList)

end PipeShell.Programs.Interpreter.Signal
