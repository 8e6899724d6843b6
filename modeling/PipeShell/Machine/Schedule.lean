import PipeShell.Machine.Basic
import PipeShell.Machine.Loading

/-!
# Running processes

One step of a process meets one request, or a part of it, or finds that there is nothing to do but
wait. Of the processes that can go on, the one started first goes on. A process that writes where
nobody reads any more is ended by the signal for that, unless it has agreed on something else.

## Main definitions

* `sendSignal`: what a signal does to a process
* `meet`: what a request does
* `step`: one step of one process
* `turn`: one step of the machine
* `await`: runs the machine until a process has ended
-/

namespace PipeShell.Machine

/-- The signal that ends a process whose reader is gone. -/
def brokenPipeSignal : Nat := 13

/-- Changes what a process is doing. -/
def setImage (m : Machine) (pid : Nat) (image : Image) : Machine :=
  { m with processes := m.processes.modify pid fun p => { p with image } }

/-- A process goes on with a program. -/
def resume (m : Machine) (pid : Nat) (program : Program) : Machine :=
  m.setImage pid (.running program)

/-- A process ends and lets go of its descriptors. -/
def finish (m : Machine) (pid : Nat) (status : ExitStatus) : Machine :=
  { m with processes := m.processes.modify pid fun p =>
      { p with descriptors := .none, image := .ended status } }

/-- Changes a process's descriptors. -/
def setDescriptors (m : Machine) (pid : Nat) (descriptors : Descriptors) : Machine :=
  { m with processes := m.processes.modify pid fun p => { p with descriptors } }

/-- Adds a process. -/
def addProcess (m : Machine) (p : Process) : Nat × Machine :=
  (m.processes.size, { m with processes := m.processes.push p })

/-! ## Signals -/

/-- A signal that leaves a process running where nothing else was agreed on. -/
def isHarmless (signal : Nat) : Bool :=
  signal == 0 || signal == 17 || signal == 18 || signal == 23 || signal == 28

/-- The signal that nothing can be done about. -/
def killSignal : Nat := 9

/-- Sends a signal to a process. -/
def sendSignal (m : Machine) (pid signal : Nat) : Except Errno Unit × Machine :=
  match m.processes[pid]? with
  | none => (.error .noProcess, m)
  | some p =>
    match p.image with
    | .ended _ => (.ok (), m)
    | .running _ =>
      -- Whatever was agreed on, nothing keeps a process from being killed.
      if 64 < signal then (.error .invalid, m)
      else if p.caught.contains signal && signal != killSignal then
        (.ok (), { m with processes := m.processes.modify pid fun p =>
          { p with noted := p.noted ++ [signal] } })
      else if isHarmless signal || (p.ignored.contains signal && signal != killSignal) then
        (.ok (), m)
      else (.ok (), m.finish pid (.signaled signal))

/-- Agrees on what a process does about a signal. -/
def dispose (signal : Nat) (disposition : Disposition) (p : Process) : Process :=
  let ignored := p.ignored.filter (· != signal)
  let caught := p.caught.filter (· != signal)
  match disposition with
  | .standard => { p with ignored, caught }
  | .ignored => { p with ignored := signal :: ignored, caught }
  | .noted => { p with ignored, caught := signal :: caught }

/-! ## Requests -/

/-- One step of reading. -/
def stepRead (m : Machine) (pid : Nat) (p : Process) (fd count : Nat)
    (next : Except Errno Bytes → Program) : Option Machine :=
  match p.descriptors.get? fd with
  | none => some (m.resume pid (next (.error .badFile)))
  | some file =>
    match m.readChunk file count false with
    | (.bytes bytes, m) => some (m.resume pid (next (.ok bytes)))
    | (.ending, m) => some (m.resume pid (next (.ok [])))
    | (.waiting, _) => none
    | (.failed cause, m) => some (m.resume pid (next (.error cause)))

/-- The most bytes of a line that are read in one step. -/
def lineChunk : Nat := 65536

/-- One step of reading a line. -/
def stepLine (m : Machine) (pid : Nat) (p : Process) (fd : Nat) (held : Bytes)
    (next : Except Errno Bytes → Program) : Option Machine :=
  match p.descriptors.get? fd with
  | none => some (m.resume pid (next (.error .badFile)))
  | some file =>
    match m.readChunk file lineChunk true with
    | (.bytes bytes, m) =>
      -- A line may come in pieces; the process asks again until there is a line feed.
      if bytes.getLast? = some 10 then some (m.resume pid (next (.ok (held ++ bytes))))
      else some (m.resume pid (.ask (.line fd (held ++ bytes)) next))
    | (.ending, m) => some (m.resume pid (next (.ok held)))
    | (.waiting, _) => none
    | (.failed cause, m) => some (m.resume pid (next (.error cause)))

/-- One step of writing. -/
def stepWrite (m : Machine) (pid : Nat) (p : Process) (fd : Nat) (bytes : Bytes)
    (next : Except Errno Unit → Program) : Option Machine :=
  match p.descriptors.get? fd with
  | none => some (m.resume pid (next (.error .badFile)))
  | some file =>
    match m.writeChunk file bytes with
    | (.all, m) => some (m.resume pid (next (.ok ())))
    | (.part rest, m) => some (m.resume pid (.ask (.write fd rest) next))
    | (.waiting, _) => none
    | (.broken, m) =>
      if p.ignored.contains brokenPipeSignal || p.caught.contains brokenPipeSignal then
        some ((m.sendSignal pid brokenPipeSignal).2.resume pid (next (.error .brokenPipe)))
      else some (m.finish pid (.signaled brokenPipeSignal))
    | (.failed cause, m) => some (m.resume pid (next (.error cause)))

/-- Moves the position in an open file that has positions. -/
def seekFd (m : Machine) (p : Process) (fd offset : Nat) : Except Errno Unit × Machine :=
  match p.descriptors.get? fd with
  | none => (.error .badFile, m)
  | some file =>
    match m.files[file]? with
    | some { target := .node id, .. } =>
      (.ok (), if (m.tree.data? id).isSome then m.seek file offset else m)
    | _ => (.error .noSeek, m)

/-- A process comes to stand in another directory. -/
def enterDirectory (m : Machine) (p : Process) (path : String) : Except Errno NodeId :=
  match m.tree.find p.cwd true path with
  | .error cause => .error cause
  | .ok id =>
    if !m.tree.isDirectory id then .error .notDirectory
    else if !m.tree.allows id .search then .error .noAccess
    else .ok id

/-- Changes a process. -/
def modifyProcess (m : Machine) (pid : Nat) (f : Process → Process) : Machine :=
  { m with processes := m.processes.modify pid f }

/-- Meets a request, or a part of it; nothing where there is nothing to do but wait. -/
def meet (m : Machine) (pid : Nat) (p : Process) (request : Request)
    (next : request.Answer → Program) : Option Machine :=
  match request, next with
  | .read fd count, next => stepRead m pid p fd count next
  | .line fd held, next => stepLine m pid p fd held next
  | .write _ [], next => some (m.resume pid (next (.ok ())))
  | .write fd bytes, next => stepWrite m pid p fd bytes next
  | .seek fd offset, next =>
    let (result, m) := m.seekFd p fd offset
    some (m.resume pid (next result))
  | .openFile path access mode, next =>
    match m.openPath p.descriptors p.cwd path access (FileTree.masked p.umask mode) with
    | (.error cause, m) => some (m.resume pid (next (.error cause)))
    | (.ok file, m) =>
      let (fd, descriptors) := p.descriptors.insertLeast file
      some ((m.setDescriptors pid descriptors).resume pid (next (.ok fd)))
  | .duplicate source target, next =>
    match p.descriptors.get? source with
    | none => some (m.resume pid (next (.error .badFile)))
    | some file =>
      some ((m.setDescriptors pid (p.descriptors.place target file)).resume pid (next (.ok ())))
  | .lift source least, next =>
    match p.descriptors.get? source with
    | none => some (m.resume pid (next (.error .badFile)))
    | some file =>
      let (fd, descriptors) := p.descriptors.insertFrom least file
      some ((m.setDescriptors pid descriptors).resume pid (next (.ok fd)))
  | .close fd, next =>
    some ((m.setDescriptors pid (p.descriptors.drop fd)).resume pid (next ()))
  | .closeFrom least, next =>
    some ((m.setDescriptors pid (p.descriptors.below least)).resume pid (next ()))
  | .pipe, next =>
    let ((reader, writer), m) := m.openPipe
    let (readFd, d) := p.descriptors.insertLeast reader
    let (writeFd, d) := d.insertLeast writer
    some ((m.setDescriptors pid d).resume pid (next (readFd, writeFd)))
  | .inspectFd fd, next =>
    match p.descriptors.get? fd with
    | none => some (m.resume pid (next (.error .badFile)))
    | some file => some (m.resume pid (next (m.inspectFile file)))
  | .inspect path follow, next =>
    some (m.resume pid (next (m.inspectPath p.descriptors p.cwd follow path)))
  | .names path, next => some (m.resume pid (next (m.names p.cwd path)))
  | .remove path, next =>
    match m.tree.unlink p.cwd path with
    | .error cause => some (m.resume pid (next (.error cause)))
    | .ok tree => some ({ m with tree }.resume pid (next (.ok ())))
  | .removeDirectory path, next =>
    match m.tree.removeDirectory p.cwd path with
    | .error cause => some (m.resume pid (next (.error cause)))
    | .ok tree => some ({ m with tree }.resume pid (next (.ok ())))
  | .exec path args environment, next =>
    match load m.tree p.cwd environment maxInterpreters path args with
    | .error cause => some (m.resume pid (next cause))
    -- What was agreed on with the old program is void, except which signals are ignored.
    | .ok program =>
      some ((m.modifyProcess pid fun p => { p with caught := [] }).resume pid program)
  | .wait child, next =>
    match m.processes[child]? with
    | some { image := .running _, .. } => none
    | some { image := .ended status, .. } => some (m.resume pid (next status))
    | none => some (m.resume pid (next (.exited 127)))
  | .identity, next => some (m.resume pid (next pid))
  | .enter path, next =>
    match m.enterDirectory p path with
    | .error cause => some (m.resume pid (next (.error cause)))
    | .ok cwd => some ((m.modifyProcess pid fun p => { p with cwd }).resume pid (next (.ok ())))
  | .place, next => some (m.resume pid (next (m.tree.pathOf? p.cwd)))
  | .mask new, next =>
    let m := match new with
      | some umask => m.modifyProcess pid fun p => { p with umask }
      | none => m
    some (m.resume pid (next p.umask))
  | .signal process number, next =>
    let (result, m) := m.sendSignal process number
    -- A process may have ended itself.
    match m.processes[pid]? with
    | some { image := .running _, .. } => some (m.resume pid (next result))
    | _ => some m
  | .dispose number disposition, next =>
    some ((m.modifyProcess pid (dispose number disposition)).resume pid (next ()))
  | .noted, next =>
    some ((m.modifyProcess pid fun p => { p with noted := [] }).resume pid (next p.noted))

/-- One step of a process, if it can take one. -/
def step (m : Machine) (pid : Nat) : Option Machine :=
  match m.processes[pid]? with
  | none => none
  | some p =>
    match p.image with
    | .ended _ => none
    | .running (.leave status) => some (m.finish pid (.exited (status % 256)))
    | .running (.raise signal) => some (m.finish pid (.signaled signal))
    | .running (.ask request next) => m.meet pid p request next
    | .running (.fork child next) =>
      let (number, m) := m.addProcess { p with image := .running child, noted := [] }
      some (m.resume pid (next number))

/-- One step of the machine: of the first process that can take one. -/
def turn (m : Machine) : Option Machine := (List.range m.processes.size).findSome? m.step

/-- How a process ended, if it has. -/
def ending? (m : Machine) (pid : Nat) : Option ExitStatus :=
  match m.processes[pid]? with
  | some { image := .ended status, .. } => some status
  | _ => none

/-- Runs the machine, for at most `steps` steps, until a process has ended. -/
def awaitWithin (pid : Nat) : (steps : Nat) → Machine → Option ExitStatus × Machine
  | 0, m => (m.ending? pid, m)
  | steps + 1, m =>
    match m.ending? pid with
    | some status => (some status, m)
    | none =>
      match m.turn with
      | none => (none, m)
      | some m => awaitWithin pid steps m

/-- Runs the machine until a process has ended. -/
def await (m : Machine) (pid : Nat) : Option ExitStatus × Machine :=
  awaitWithin pid Script.patience m

end PipeShell.Machine
