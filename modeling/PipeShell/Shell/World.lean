import PipeShell.Execution
import PipeShell.Machine.Child
import PipeShell.Plan

/-!
# What a shell works with

The world of a shell is a machine together with whatever its tools keep for themselves. The tools
are how texts are captured and how processes are made, both seen from the directory that the shell
stands in. That directory belongs to the shell and not to the world, so no tool can move it.

## Main definitions

* `World`: a machine and the tools' own state
* `Tools`: how texts are captured and processes are made
* `Tools.onMachine`: the tools that use the machine itself
* `Tools.telling`: tools that tell of endings that could not be learnt
-/

namespace PipeShell

/-- A machine and the tools' own state. -/
structure World (β : Type) where
  machine : Machine
  log : β

namespace World

variable {β α : Type}

/-- Does something to the machine. -/
def onMachine (f : Machine → α × Machine) (w : World β) : α × World β :=
  let (a, machine) := f w.machine
  (a, { w with machine })

/-- Does something to the tools' own state. -/
def onLog (f : β → α × β) (w : World β) : α × World β :=
  let (a, log) := f w.log
  (a, { w with log })

/-- Changes the machine. -/
def modifyMachine (f : Machine → Machine) (w : World β) : World β :=
  { w with machine := f w.machine }

/-- Prints to one of the shell's descriptors, and tells whether that worked. -/
def print (fd : Nat) (bytes : Bytes) (w : World β) : Bool × World β :=
  let (result, w) := w.onMachine (·.print fd bytes)
  (result.toOption.isSome, w)

/-- Writes a text to the shell's standard error, and does not mind where that fails. -/
def complain (text : String) (w : World β) : World β := w.modifyMachine (·.complain text)

end World

namespace Builder

variable {β σ φ κ η : Type}

/-- A builder that works on the machine of a world. -/
def onMachine (b : Builder Machine φ κ η) : Builder (World β) φ κ η where
  pipe := World.onMachine b.pipe
  close fd := World.modifyMachine (b.close fd)
  spawn l := World.onMachine (b.spawn l)
  wait h := World.onMachine (b.wait h)

/-- A builder that works on the tools' own state. -/
def onLog (b : Builder σ φ κ η) : Builder (World σ) φ κ η where
  pipe := World.onLog b.pipe
  close fd w := { w with log := b.close fd w.log }
  spawn l := World.onLog (b.spawn l)
  wait h := World.onLog (b.wait h)

/-- The same builder, which besides tells of every process whose ending could not be learnt, with
its stage. -/
def telling (tell : Nat → SpawnError → σ → σ) (b : Builder σ φ κ η) : Builder σ φ κ (Nat × η) where
  pipe := b.pipe
  close := b.close
  spawn l s :=
    let (handle, s) := b.spawn l s
    (handle.map fun h => (l.stage, h), s)
  wait h s :=
    match b.wait h.2 s with
    | (.error e, s) => (.error e, tell h.1 e s)
    | (.ok status, s) => (.ok status, s)

end Builder

/-- How texts are captured and processes are made, for a shell that stands in a directory. -/
structure Tools (β φ κ η : Type) where
  capture : Machine.NodeId → Capture (World β) κ
  builder : Machine.NodeId → Builder (World β) φ κ η

/-- The tools that use the machine itself: texts are captured from the shell's standard input, with
a prompt before each line. -/
def Tools.onMachine (promptText : String) : Tools Unit Nat Nat Nat where
  capture cwd delimiter := World.onMachine (Machine.capture cwd promptText delimiter)
  builder cwd := (Machine.builder cwd).onMachine

/-- The same tools, which besides tell of every process whose ending could not be learnt. -/
def Tools.telling {β φ κ η : Type} (tell : Nat → SpawnError → World β → World β)
    (tools : Tools β φ κ η) : Tools β φ κ (Nat × η) where
  capture := tools.capture
  builder cwd := (tools.builder cwd).telling tell

end PipeShell
