import PipeShell.Machine.Descriptors
import PipeShell.Machine.FileTree

/-!
# The machine

A machine has a file tree, a table of open files, pipes and processes. The shell has a descriptor
table, and so has each process; the tables name open files, so a position is shared by all who know
the same open file. A pipe's reader meets the end once nobody holds the writing end, and its writer
is broken off once nobody holds the reading end.

Reading and writing never block here: they say that there is nothing to do but wait.

## Main definitions

* `OpenFile`, `Process`, `Machine`: the state
* `Machine.openPath`, `Machine.openPipe`: making open files
* `Machine.readChunk`, `Machine.writeChunk`: one step of reading or writing
* `Machine.Wrote`: what writing can do to a machine

## Main results

* `Machine.wrote_writeChunk`: what a step of writing can do
-/

namespace PipeShell

namespace Machine

/-- What an open file leads to. -/
inductive Target where
  | node (id : NodeId)
  | reader (pipe : Nat)
  | writer (pipe : Nat)
  deriving DecidableEq, Repr

/-- A file that is open: what it leads to, the position in it, and what may be done with it. -/
structure OpenFile where
  target : Target
  offset : Nat := 0
  readable : Bool
  writable : Bool
  appends : Bool := false
  deriving Repr

/-- What a process is doing: it runs a program or has ended. -/
inductive Image where
  | running (program : Program)
  | ended (status : ExitStatus)

/-- A process: its descriptors, the directory it stands in, the permission bits that its new files
do not get, what it is doing, and the signals that leave it alone, those it takes note of, and those
it has taken note of. -/
structure Process where
  descriptors : Descriptors
  cwd : NodeId
  umask : Nat
  image : Image
  ignored : List Nat := []
  caught : List Nat := []
  noted : List Nat := []

end Machine

open Machine in
/-- The state of a machine: the file tree; the open files, of which none is ever forgotten; what
waits in each pipe; the shell's own descriptors; the processes, numbered from 0; the permission bits
that the shell's new files do not get; the shell's environment; the most bytes that wait in a pipe;
and how many lines of each text that cannot be kept, in the order of the captures to come, are
passed on before the shell lets go of the pipe. -/
structure Machine where
  tree : FileTree
  files : Array OpenFile
  pipes : Array (Array UInt8)
  descriptors : Descriptors
  processes : Array Process
  umask : Nat
  environment : Environment
  pipeCapacity : Nat := 65536
  delays : List Nat := []

namespace Machine

/-- A machine on which nothing is open and nothing runs. -/
def onTree (tree : FileTree) (environment : Environment) : Machine :=
  { tree, files := #[], pipes := #[], descriptors := .none, processes := #[], umask := 0o022
    environment }

/-! ## Open files -/

/-- What an open file leads to. -/
def target? (m : Machine) (file : Nat) : Option Target := (m.files[file]?).map OpenFile.target

/-- Adds an open file. -/
def addFile (m : Machine) (file : OpenFile) : Nat × Machine :=
  (m.files.size, { m with files := m.files.push file })

/-- Changes the position in an open file. -/
def seek (m : Machine) (file : Nat) (offset : Nat) : Machine :=
  { m with files := m.files.modify file fun f => { f with offset } }

/-- Opens a node that is there. A file that is overwritten has been emptied already. -/
def openNode (m : Machine) (id : NodeId) (access : Access) : Nat × Machine :=
  m.addFile
    { target := .node id
      readable := access.reads
      writable := access.writes
      appends := access == Access.append }

/-- Opens once more what an open file leads to, from the beginning. -/
def reopen (m : Machine) (file : Nat) (access : Access) : Except Errno Nat × Machine :=
  match m.files[file]? with
  | none => (.error .noEntry, m)
  | some f =>
    match f.target with
    | .node id =>
      -- The permissions are looked at anew, for they may have changed since.
      if access.writes && m.tree.isDirectory id then (.error .isDirectory, m)
      else if (access.reads && !m.tree.allows id .read) ||
          (access.writes && !m.tree.allows id .write) then (.error .noAccess, m)
      else
        let m := if access == Access.overwrite then
            { m with tree := m.tree.modifyData id fun _ => #[] }
          else m
        let (file, m) := m.openNode id access
        (.ok file, m)
    | .reader pipe | .writer pipe =>
      let (file, m) := m.addFile
        { target := if access.writes then .writer pipe else .reader pipe
          readable := access.reads
          writable := access.writes }
      (.ok file, m)

/-- The descriptor whose open file a node stands for. -/
def streamOf? (m : Machine) (id : NodeId) : Option Nat :=
  match m.tree.content? id with
  | some (.device (.stream fd)) => some fd
  | _ => none

/-- Opens a path for one who has the given descriptors and stands in the given directory. A new file
gets the bits `mode`. -/
def openPath (m : Machine) (d : Descriptors) (cwd : NodeId) (path : String) (access : Access)
    (mode : Nat) : Except Errno Nat × Machine :=
  match m.tree.openNode cwd path access mode with
  | .error cause => (.error cause, m)
  | .ok (id, tree) =>
    -- Such a node stands for what the one who opens it has under that number.
    match m.streamOf? id with
    | some fd =>
      match d.get? fd with
      | none => (.error .noEntry, m)
      | some file => m.reopen file access
    | none =>
      if (m.tree.content? id) matches some (.device .terminal) then (.error .noDevice, m)
      else
        let (file, m) := { m with tree }.openNode id access
        (.ok file, m)

/-- Makes a file with no name that holds the given bytes, open for reading and writing at its
beginning. -/
def openNameless (m : Machine) (data : Array UInt8) : Nat × Machine :=
  let (id, tree) := m.tree.allocate ⟨.file data, 0o600⟩
  { m with tree }.addFile { target := .node id, readable := true, writable := true }

/-- Makes a pipe: its reading end and its writing end. -/
def openPipe (m : Machine) : (Nat × Nat) × Machine :=
  let pipe := m.pipes.size
  let (reader, m) := { m with pipes := m.pipes.push #[] }.addFile
    { target := .reader pipe, readable := true, writable := false }
  let (writer, m) := m.addFile { target := .writer pipe, readable := false, writable := true }
  ((reader, writer), m)

/-! ## Who holds what -/

/-- The descriptor tables of the shell and of all processes that have not ended. -/
def tables (m : Machine) : List Descriptors :=
  m.descriptors :: m.processes.toList.filterMap fun p =>
    match p.image with
    | .running _ => some p.descriptors
    | .ended _ => none

/-- Somebody holds an open file that leads there. -/
def isHeld (m : Machine) (target : Target) : Bool :=
  m.tables.any fun d => d.files.any fun file =>
    match m.files[file]? with
    | some f => decide (f.target = target)
    | none => false

/-! ## Reading -/

/-- What one step of reading yields: bytes, at least one; the end; nothing yet; or a failure. -/
inductive Chunk where
  | bytes (bytes : Bytes)
  | ending
  | waiting
  | failed (cause : Errno)

/-- How many of the bytes from `start` on one step of reading takes: no more than `count`, and no
further than the first line feed if it reads by lines. -/
def extent (data : Array UInt8) (start count : Nat) (byLine : Bool) : Nat :=
  let size := min count (data.size - start)
  if byLine then
    match (data.extract start (start + size)).findIdx? (· == 10) with
    | some i => i + 1
    | none => size
  else size

/-- One step of reading at most `count` bytes from an open file. -/
def readChunk (m : Machine) (file count : Nat) (byLine : Bool) : Chunk × Machine :=
  match m.files[file]? with
  | none => (.failed .badFile, m)
  | some f =>
    if !f.readable then (.failed .badFile, m)
    else match f.target with
      | .node id =>
        match m.tree.content? id with
        | some (.file data) =>
          let size := extent data f.offset count byLine
          if size = 0 then (.ending, m)
          else
            (.bytes (data.extract f.offset (f.offset + size)).toList,
              m.seek file (f.offset + size))
        | some (.directory ..) => (.failed .isDirectory, m)
        | some (.device .zeros) | some (.device .full) =>
          (.bytes (List.replicate (if byLine then 1 else count) 0), m)
        | _ => (.ending, m)
      | .reader pipe =>
        match m.pipes[pipe]? with
        | none => (.failed .badFile, m)
        | some waiting =>
          let size := extent waiting 0 count byLine
          -- Nothing waits: whether this is the end depends on who could still write.
          if size = 0 then (if m.isHeld (.writer pipe) then .waiting else .ending, m)
          else
            (.bytes (waiting.extract 0 size).toList,
              { m with pipes := m.pipes.modify pipe fun w => w.extract size w.size })
      | .writer _ => (.failed .badFile, m)

/-! ## Writing -/

/-- What one step of writing comes to: all is written; some is, and this is left; there is no room
yet; nobody reads any more; or a failure. -/
inductive Written where
  | all
  | part (rest : Bytes)
  | waiting
  | broken
  | failed (cause : Errno)

/-- The bytes of a file after `bytes` have been written at a position. A gap is filled with
zeros. -/
def overlay (data : Array UInt8) (start : Nat) (bytes : Array UInt8) : Array UInt8 :=
  if start = data.size then data ++ bytes
  else
    data.extract 0 start ++ Array.replicate (start - data.size) 0 ++ bytes ++
      data.extract (start + bytes.size) data.size

/-- One step of writing to an open file. -/
def writeChunk (m : Machine) (file : Nat) (bytes : Bytes) : Written × Machine :=
  match m.files[file]? with
  | none => (.failed .badFile, m)
  | some f =>
    if !f.writable then (.failed .badFile, m)
    else match f.target with
      | .node id =>
        match m.tree.content? id with
        | some (.file data) =>
          -- Appending writes at the end whatever was written in between by others.
          let start := if f.appends then data.size else f.offset
          let bytes := bytes.toArray
          let m := { m with tree := m.tree.modifyData id fun data => overlay data start bytes }
          (.all, m.seek file (start + bytes.size))
        | some (.directory ..) => (.failed .isDirectory, m)
        | some (.device .full) => (if bytes.isEmpty then .all else .failed .noSpace, m)
        | _ => (.all, m)
      | .writer pipe =>
        if !m.isHeld (.reader pipe) then (.broken, m)
        else match m.pipes[pipe]? with
          | none => (.failed .badFile, m)
          | some waiting =>
            -- What finds no room is left to a later step.
            let room := m.pipeCapacity - waiting.size
            if room = 0 then (.waiting, m)
            else
              let m := { m with
                pipes := m.pipes.modify pipe fun w => w ++ (bytes.take room).toArray }
              match bytes.drop room with
              | [] => (.all, m)
              | rest => (.part rest, m)
      | .reader _ => (.failed .badFile, m)

/-- What writing to an open file can do to the machine: nothing; or it changes the bytes of a file
and moves the position behind them; or it changes what waits in the pipe that the open file leads
to. -/
inductive Wrote (m : Machine) (file : Nat) (bytes : Bytes) : Machine → Prop where
  | nothing : Wrote m file bytes m
  | file {f : OpenFile} {id : NodeId} {data : Array UInt8} {start : Nat}
    (opened : m.files[file]? = some f) (leads : f.target = .node id)
    (content : m.tree.content? id = some (.file data))
    (start_eq : start = if f.appends then data.size else f.offset) :
    Wrote m file bytes
      (({ m with tree := m.tree.modifyData id (overlay · start bytes.toArray) } : Machine).seek file
        (start + bytes.length))
  | pipe {pipe : Nat} (f : Array UInt8 → Array UInt8)
    (leads : m.target? file = some (.writer pipe)) :
    Wrote m file bytes { m with pipes := m.pipes.modify pipe f }

/-- A step of writing does nothing else. -/
theorem wrote_writeChunk (m : Machine) (file : Nat) (bytes : Bytes) :
    m.Wrote file bytes (m.writeChunk file bytes).2 := by
  unfold writeChunk
  split
  · exact .nothing
  rename_i f hfile
  split
  · exact .nothing
  split
  · rename_i id htarget
    split
    · rename_i data hcontent
      exact .file hfile htarget hcontent rfl
    · exact .nothing
    · exact .nothing
    · exact .nothing
  · rename_i pipe htarget
    have hleads : m.target? file = some (.writer pipe) := by
      rw [target?, hfile, Option.map_some, htarget]
    split
    · exact .nothing
    split
    · exact .nothing
    · dsimp only
      split
      · exact .nothing
      · split
        · exact .pipe _ hleads
        · exact .pipe _ hleads
  · exact .nothing

/-! ## Looking at files -/

/-- What can be learnt about a node. -/
def inspectNode (m : Machine) (id : NodeId) : Inspection :=
  let of := fun (kind : Kind) (size : Nat) =>
    { kind, size, mode := m.tree.mode id, node := some id : Inspection }
  match m.tree.content? id with
  | some (.directory ..) => of .directory 4096
  | some (.file data) => of .regular data.size
  | some (.program _) => of .regular 0
  | some (.link target) => of .link target.utf8ByteSize
  | some (.device _) | none => of .device 0

/-- What can be learnt about an open file. -/
def inspectFile (m : Machine) (file : Nat) : Except Errno Inspection :=
  match m.files[file]? with
  | none => .error .badFile
  | some f =>
    match f.target with
    | .node id => .ok { m.inspectNode id with offset := f.offset, appends := f.appends }
    | .reader _ | .writer _ => .ok { kind := .pipe, mode := 0o600 }

/-- What can be learnt about what a path leads to, for one who has the given descriptors. -/
def inspectPath (m : Machine) (d : Descriptors) (cwd : NodeId) (follow : Bool) (path : String) :
    Except Errno Inspection :=
  match m.tree.find cwd follow path with
  | .error cause => .error cause
  | .ok id =>
    match (if follow then m.streamOf? id else none) with
    | some fd =>
      match d.get? fd with
      | none => .error .noEntry
      | some file => m.inspectFile file
    | none => .ok (m.inspectNode id)

/-- The names in a directory. -/
def names (m : Machine) (cwd : NodeId) (path : String) : Except Errno (List String) :=
  match m.tree.find cwd true path with
  | .error cause => .error cause
  | .ok id =>
    if !m.tree.isDirectory id then .error .notDirectory
    else if !m.tree.allows id .read then .error .noAccess
    else .ok ((m.tree.entries id).map Prod.fst)

/-- The bytes of the file that an open file leads to. -/
def contents (m : Machine) (file : Nat) : Array UInt8 :=
  match m.files[file]? with
  | some { target := .node id, .. } => (m.tree.data? id).getD #[]
  | _ => #[]

end Machine

end PipeShell
