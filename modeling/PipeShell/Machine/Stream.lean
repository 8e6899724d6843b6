import PipeShell.Heredoc
import PipeShell.Machine.Basic

/-!
# The shell's own standard streams

Descriptor 0 is read as input. Of a file the position is that of the open file, so that programs
started later find what the shell has left. From a pipe what has been read is gone, and what waits
in it is all there is once nobody holds its writing end.

The shell never waits for room in a pipe that it writes to: what has no room is put behind what
waits. Nor does it wait for bytes: reading a pipe that is empty and that somebody may still write to
fails.

Texts captured for `<<` are kept in a file without a name, made in the directory for temporary
files. Where it cannot be made the shell lets go of the pipe that the lines come through. Which of
them have been passed on by then is up to the machine.

## Main definitions

* `write`, `print`, `readRest`: writing to and reading from one of the shell's descriptors
* `input`, `setInput`: descriptor 0 as input
* `hold`: keeps captured lines of an input
* `capture`: captures lines of descriptor 0

## Main results

* `wrote_writeFile`: what writing to an open file does
* `setInput_cases`: reading moves one position at most, or empties a pipe
-/

namespace PipeShell.Machine

/-- Puts bytes behind what waits in the pipe that an open file writes to. -/
def enqueue (m : Machine) (file : Nat) (bytes : Bytes) : Machine :=
  match m.target? file with
  | some (.writer pipe) => { m with pipes := m.pipes.modify pipe (· ++ bytes.toArray) }
  | _ => m

/-- Writes bytes to an open file of the shell: whether all were written, or why not. -/
def writeFile (m : Machine) (file : Nat) (bytes : Bytes) : Except Errno Unit × Machine :=
  match m.writeChunk file bytes with
  | (.all, m) => (.ok (), m)
  | (.part _, _) | (.waiting, _) => (.ok (), m.enqueue file bytes)
  | (.broken, m) => (.error .brokenPipe, m)
  | (.failed cause, m) => (.error cause, m)

theorem wrote_enqueue (m : Machine) (file : Nat) (bytes : Bytes) :
    m.Wrote file bytes (m.enqueue file bytes) := by
  unfold enqueue
  split
  · rename_i pipe hleads
    exact .pipe _ hleads
  · exact .nothing

/-- Writing does to the machine what a step of writing does, or it puts all bytes into a pipe. -/
theorem wrote_writeFile (m : Machine) (file : Nat) (bytes : Bytes) :
    m.Wrote file bytes (m.writeFile file bytes).2 := by
  have hchunk := m.wrote_writeChunk file bytes
  unfold writeFile
  split <;> rename_i hwrite <;> rw [hwrite] at hchunk
  · exact hchunk
  · exact m.wrote_enqueue file bytes
  · exact m.wrote_enqueue file bytes
  · exact hchunk
  · exact hchunk

/-- Writes bytes to one of the shell's descriptors. -/
def write (m : Machine) (fd : Nat) (bytes : Bytes) : Except Errno Unit × Machine :=
  match m.descriptors.get? fd with
  | none => (.error .badFile, m)
  | some file => m.writeFile file bytes

/-- Prints to one of the shell's descriptors. Where it is not open, or not for writing, printing
does nothing. -/
def print (m : Machine) (fd : Nat) (bytes : Bytes) : Except Errno Unit × Machine :=
  match m.write fd bytes with
  | (.error cause, m) => (if cause = .badFile then .ok () else .error cause, m)
  | written => written

theorem snd_print (m : Machine) (fd : Nat) (bytes : Bytes) :
    (m.print fd bytes).2 = (m.write fd bytes).2 := by
  unfold print
  split <;> rename_i hwrite <;> simp [hwrite]

/-- Writes a text to standard error. A failure goes unnoticed. -/
def complain (m : Machine) (text : String) : Machine :=
  (m.write 2 (Text.Utf8.encode text)).2

/-- All bytes that are left in a file that one of the shell's descriptors leads to. -/
def readRest (m : Machine) (fd : Nat) : Except Errno Bytes × Machine :=
  match m.descriptors.get? fd with
  | none => (.error .badFile, m)
  | some file =>
    match m.files[file]? with
    | some { target := .node id, offset, readable := true, .. } =>
      if m.tree.isDirectory id then (.error .isDirectory, m)
      else
        let data := (m.tree.data? id).getD #[]
        (.ok (data.toList.drop offset), m.seek file (max offset data.size))
    | _ => (.error .badFile, m)

/-- Descriptor 0 as input. -/
def input (m : Machine) : Input :=
  match m.descriptors.get? 0 with
  | none => ⟨#[], 0, some .badFile⟩
  | some file =>
    match m.files[file]? with
    | none => ⟨#[], 0, some .badFile⟩
    | some f =>
      if !f.readable then ⟨#[], 0, some .badFile⟩
      else match f.target with
        | .node id =>
          match m.tree.content? id with
          | some (.file data) => ⟨data, f.offset, none⟩
          | some (.directory ..) => ⟨#[], 0, some .isDirectory⟩
          | _ => ⟨#[], 0, none⟩
        | .reader pipe =>
          match m.pipes[pipe]? with
          | some waiting => ⟨waiting, 0, if m.isHeld (.writer pipe) then some .tryAgain else none⟩
          | none => ⟨#[], 0, some .badFile⟩
        | .writer _ => ⟨#[], 0, some .badFile⟩

/-- Takes off descriptor 0 what has been read of an input. -/
def setInput (m : Machine) (i : Input) : Machine :=
  match m.descriptors.get? 0 with
  | none => m
  | some file =>
    match m.target? file with
    | some (.node id) => if (m.tree.data? id).isSome then m.seek file i.pos else m
    | some (.reader pipe) =>
      { m with pipes := m.pipes.modify pipe fun waiting => waiting.extract i.pos waiting.size }
    | _ => m

/-- Nothing is changed, or the position of the open file that descriptor 0 stands for, or what waits
in a pipe. -/
theorem setInput_cases (m : Machine) (i : Input) :
    m.setInput i = m ∨
      (∃ file, m.descriptors.get? 0 = some file ∧ m.setInput i = m.seek file i.pos) ∨
      ∃ pipe f, m.setInput i = { m with pipes := m.pipes.modify pipe f } := by
  unfold setInput
  split
  · exact .inl rfl
  · rename_i file hfile
    split
    · split
      · exact .inr (.inl ⟨file, hfile, rfl⟩)
      · exact .inl rfl
    · exact .inr (.inr ⟨_, _, rfl⟩)
    · exact .inl rfl

@[simp] theorem tree_setInput (m : Machine) (i : Input) : (m.setInput i).tree = m.tree := by
  rcases m.setInput_cases i with hsame | ⟨file, -, hmoved⟩ | ⟨pipe, f, hemptied⟩
  · rw [hsame]
  · rw [hmoved, seek]
  · rw [hemptied]

@[simp] theorem descriptors_setInput (m : Machine) (i : Input) :
    (m.setInput i).descriptors = m.descriptors := by
  rcases m.setInput_cases i with hsame | ⟨file, -, hmoved⟩ | ⟨pipe, f, hemptied⟩
  · rw [hsame]
  · rw [hmoved, seek]
  · rw [hemptied]

/-- Open files that descriptor 0 does not stand for are left alone. -/
theorem getElem?_files_setInput {m : Machine} {file : Nat} (h : m.descriptors.get? 0 ≠ some file)
    (i : Input) : (m.setInput i).files[file]? = m.files[file]? := by
  rcases m.setInput_cases i with hsame | ⟨source, hsource, hmoved⟩ | ⟨pipe, f, hemptied⟩
  · rw [hsame]
  · have hne : source ≠ file := fun heq => h (heq ▸ hsource)
    rw [hmoved, seek, Array.getElem?_modify, if_neg hne]
  · rw [hemptied]

/-- The directory for temporary files. -/
def temporaryDirectory (m : Machine) : String := (m.environment.lookup "TMPDIR").getD "/tmp"

/-- Why no temporary file can be made, seen from the directory that the shell stands in. -/
def temporaryFault? (m : Machine) (cwd : NodeId) : Option Errno :=
  let place := if m.temporaryDirectory.isEmpty then .ok cwd
    else m.tree.find cwd true m.temporaryDirectory
  match place with
  | .error cause => some cause
  | .ok id =>
    if !m.tree.isDirectory id then some .notDirectory
    else if !m.tree.isAttached id then some .noEntry
    else if !m.tree.allows id .write || !m.tree.allows id .search then some .noAccess
    else none

/-- Writes what reading lines up to a delimiter writes to standard error: the prompts, and why the
reading was cut short, if it was. -/
def complainOf (m : Machine) (promptText : String) (copied : Heredoc.Copied) : Machine :=
  let m := m.complain (String.join (List.replicate copied.prompts promptText))
  match copied.failure with
  | none => m
  | some cause => m.complain ("heredoc: " ++ cause.systemMessage ++ "\n")

/-- The captures to come are one less. -/
def nextDelay (m : Machine) : Machine := { m with delays := m.delays.tail }

/-- Keeps the lines of an input up to a delimiter in a file without a name, which is open at its
beginning, and tells what is left of the input. A failure to read ends the text without failing the
capture. -/
def hold (m : Machine) (cwd : NodeId) (promptText : String) (delimiter : String) (i : Input) :
    Except Errno Nat × Input × Machine :=
  match m.temporaryFault? cwd with
  | some cause =>
    -- The shell lets go of the pipe when it has failed, while the lines are still passed on.
    let copied := Heredoc.copyAhead delimiter (m.delays.headD 0) m.pipeCapacity i
    (.error cause, copied.rest, m.nextDelay.complainOf promptText copied)
  | none =>
    let copied := Heredoc.copy delimiter i
    let (file, m) := (m.complainOf promptText copied).openNameless copied.body
    (.ok file, copied.rest, m)

/-- Captures the lines of descriptor 0 up to a delimiter. -/
def capture (cwd : NodeId) (promptText : String) (delimiter : String) (m : Machine) :
    Except Errno Nat × Machine :=
  let (held, rest, m) := m.hold cwd promptText delimiter m.input
  (held, m.setInput rest)

end PipeShell.Machine
