import PipeShell.Proofs.Capture.Handover

/-!
# The machine of a handover

Whatever the shell and its copier have done, the machine is the one that they began with, but for
the pipe and its two ends, the file without a name, and what is in files and pipes that were there
before. So who holds an end of the pipe can be told from how far the two have come, and with it what
reading and writing come to.

## Main definitions

* `CaptureTask.IsLaidOut`, `CaptureTask.IsReady`: what a capture asks of the machine
* `CaptureTask.table`: the shell's table with the ends of the pipe that are left in it
* `CaptureTask.Frame`: what a machine has to do with the one of the beginning
* `CaptureTask.IsStored`: the file without a name holds a text

## Main results

* `Frame.isHeld_iff`, `Frame.holds_table_iff`: who holds the ends
* `Frame.wrote`, `Frame.complain`, `Frame.openNameless`: what leaves the pipe alone
* `Frame.readChunk_of_ne_nil`, `Frame.writeChunk_of_room` and others: reading from the pipe and
  writing to it
* `IsStored.writeChunk`: writing to the file without a name
-/

namespace PipeShell.Machine.CaptureTask

/-- What is asked of a machine, for a capture to be begun on it: standard error is open, files lead
to nodes that there are, the numbers of the pipe are not in use, and the pipe has room for
something. -/
structure IsLaidOut (t : CaptureTask) : Prop where
  wellFormed : t.initial.WellFormed
  standardError : (t.initial.descriptors.get? 2).isSome = true
  nodes : ∀ file id, t.initial.target? file = some (.node id) → id < t.initial.tree.nodes.size
  reader_unused : t.initial.descriptors.get? t.reader = none
  writer_unused : t.initial.descriptors.get? t.writer = none
  reader_ne_writer : t.reader ≠ t.writer
  capacity_pos : 0 < t.initial.pipeCapacity

/-- For the capture to succeed, a temporary file can be made besides. -/
structure IsReady (t : CaptureTask) : Prop extends t.IsLaidOut where
  room : t.initial.temporaryFault? t.cwd = none

/-! ## Tables -/

/-- The shell's table with the ends of the pipe that are left in it. -/
def table (t : CaptureTask) (reads writes : Bool) : Descriptors :=
  ⟨(if writes then [(t.writer, t.writerFile)] else []) ++
    ((if reads then [(t.reader, t.readerFile)] else []) ++ t.initial.descriptors.entries)⟩

section Tables

variable {t : CaptureTask} (ht : t.IsLaidOut) (reads writes : Bool)
include ht

theorem place_eq_table :
    (t.initial.descriptors.place t.reader t.readerFile).place t.writer t.writerFile =
      t.table true true := by
  have hne : (t.reader != t.writer) = true := by simpa using ht.reader_ne_writer
  simp [Descriptors.place, table, Descriptors.filter_entries_of_get?_eq_none ht.reader_unused,
    Descriptors.filter_entries_of_get?_eq_none ht.writer_unused, hne]

theorem drop_writer_table : (t.table reads writes).drop t.writer = t.table reads false := by
  have hne : (t.reader != t.writer) = true := by simpa using ht.reader_ne_writer
  cases reads <;> cases writes <;>
    simp [Descriptors.drop, table, Descriptors.filter_entries_of_get?_eq_none ht.writer_unused, hne]

theorem drop_reader_table : (t.table reads writes).drop t.reader = t.table false writes := by
  have hne : (t.writer != t.reader) = true := by simpa using ht.reader_ne_writer.symm
  cases reads <;> cases writes <;>
    simp [Descriptors.drop, table, Descriptors.filter_entries_of_get?_eq_none ht.reader_unused, hne]

theorem get?_reader_table : (t.table true writes).get? t.reader = some t.readerFile := by
  have hne : (t.reader == t.writer) = false := by simpa using ht.reader_ne_writer
  cases writes <;> simp [Descriptors.get?, table, List.lookup_cons, hne]

omit ht in
theorem get?_writer_table : (t.table reads true).get? t.writer = some t.writerFile := by
  simp [Descriptors.get?, table]

/-- What was open is what it was. -/
theorem get?_table {fd : Nat} (hfd : (t.initial.descriptors.get? fd).isSome = true) :
    (t.table reads writes).get? fd = t.initial.descriptors.get? fd := by
  have hreader : (fd == t.reader) = false := by
    simpa using Descriptors.ne_of_get? hfd ht.reader_unused
  have hwriter : (fd == t.writer) = false := by
    simpa using Descriptors.ne_of_get? hfd ht.writer_unused
  cases reads <;> cases writes <;>
    simp [Descriptors.get?, table, List.lookup_cons, hreader, hwriter]

omit ht in
theorem mem_files_table {file : Nat} : file ∈ (t.table reads writes).files ↔
    writes = true ∧ file = t.writerFile ∨ reads = true ∧ file = t.readerFile ∨
      file ∈ t.initial.descriptors.files := by
  cases reads <;> cases writes <;> simp [Descriptors.files, table]

end Tables

/-! ## Frames -/

/-- What a machine has to do with the one of the beginning, where the shell's table is `d`, the
copier is the process `p`, and `buffer` waits in the pipe. -/
structure Frame (t : CaptureTask) (m : Machine) (d : Descriptors) (p : Process) (buffer : Bytes) :
    Prop where
  reader_eq : m.files[t.readerFile]? =
    some { target := .reader t.pipe, readable := true, writable := false }
  writer_eq : m.files[t.writerFile]? =
    some { target := .writer t.pipe, readable := false, writable := true }
  size_files : t.writerFile < m.files.size
  buffer_eq : m.pipes[t.pipe]? = some buffer.toArray
  capacity_eq : m.pipeCapacity = t.initial.pipeCapacity
  descriptors_eq : m.descriptors = d
  processes_eq : m.processes = t.initial.processes.push p
  target?_eq : ∀ file < t.initial.files.size, m.target? file = t.initial.target? file
  nodes_le : t.initial.tree.nodes.size ≤ m.tree.nodes.size
  shape : t.initial.SameShape m

/-- The file without a name, made since the beginning, holds a text and is at the given position. -/
def IsStored (t : CaptureTask) (m : Machine) (file : Nat) (text : Bytes) (offset : Nat) : Prop :=
  ∃ id, t.writerFile < file ∧ t.initial.tree.nodes.size ≤ id ∧
    m.files[file]? = some { target := .node id, offset, readable := true, writable := true } ∧
    m.tree.content? id = some (.file text.toArray)

/-- What writing bytes to the pipe comes to, where `buffer` waits in it: there is no room; or some
are written, all of them or as many as there is room for. -/
def WritesChunk (t : CaptureTask) (m : Machine) (sink : Nat) (buffer bytes : Bytes) : Prop :=
  (t.initial.pipeCapacity ≤ buffer.length ∧ m.writeChunk sink bytes = (.waiting, m)) ∨
    ∃ f taken, taken ≠ [] ∧ buffer.length + taken.length ≤ t.initial.pipeCapacity ∧
      f buffer.toArray = (buffer ++ taken).toArray ∧
      (bytes = taken ∧ m.writeChunk sink bytes =
          (.all, { m with pipes := m.pipes.modify t.pipe f }) ∨
        ∃ more, bytes = taken ++ more ∧ m.writeChunk sink bytes =
          (.part more, { m with pipes := m.pipes.modify t.pipe f }))

namespace WritesChunk

variable {t : CaptureTask} {m m' : Machine} {sink : Nat} {buffer bytes : Bytes}

/-- Where all has been written, there was room for it. -/
theorem of_all (h : t.WritesChunk m sink buffer bytes)
    (hwrite : m.writeChunk sink bytes = (.all, m')) :
    ∃ f, buffer.length + bytes.length ≤ t.initial.pipeCapacity ∧
      f buffer.toArray = (buffer ++ bytes).toArray ∧
      m' = { m with pipes := m.pipes.modify t.pipe f } := by
  obtain ⟨-, heq⟩ | ⟨f, taken, -, hroom, hf, ⟨rfl, heq⟩ | ⟨more, -, heq⟩⟩ := h <;>
    cases heq.symm.trans hwrite
  exact ⟨f, hroom, hf, rfl⟩

/-- Where a part has been written, it is what there was to write without what is left of it. -/
theorem of_part (h : t.WritesChunk m sink buffer bytes) {more : Bytes}
    (hwrite : m.writeChunk sink bytes = (.part more, m')) :
    ∃ f, bytes = bytes.take (bytes.length - more.length) ++ more ∧
      buffer.length + (bytes.take (bytes.length - more.length)).length ≤ t.initial.pipeCapacity ∧
      f buffer.toArray = (buffer ++ bytes.take (bytes.length - more.length)).toArray ∧
      m' = { m with pipes := m.pipes.modify t.pipe f } := by
  obtain ⟨-, heq⟩ | ⟨f, taken, -, hroom, hf, ⟨-, heq⟩ | ⟨more, rfl, heq⟩⟩ := h <;>
    cases heq.symm.trans hwrite
  rw [List.length_append, Nat.add_sub_cancel, List.take_left]
  exact ⟨f, rfl, hroom, hf, rfl⟩

/-- Where the writer waits, there is no room. -/
theorem of_waiting (h : t.WritesChunk m sink buffer bytes)
    (hwrite : (m.writeChunk sink bytes).1 = .waiting) : t.initial.pipeCapacity ≤ buffer.length := by
  obtain ⟨hfull, -⟩ | ⟨f, taken, -, -, -, ⟨-, heq⟩ | ⟨more, -, heq⟩⟩ := h
  · exact hfull
  · rw [heq] at hwrite
    cases hwrite
  · rw [heq] at hwrite
    cases hwrite

/-- Writing is not broken off, and it does not fail. -/
theorem not_lost (h : t.WritesChunk m sink buffer bytes) :
    (m.writeChunk sink bytes).1 ≠ .broken ∧
      ∀ cause, (m.writeChunk sink bytes).1 ≠ .failed cause := by
  obtain ⟨-, heq⟩ | ⟨f, taken, -, -, -, ⟨-, heq⟩ | ⟨more, -, heq⟩⟩ := h <;> rw [heq] <;> simp

end WritesChunk

theorem IsStored.holdsText {t : CaptureTask} {m : Machine} {file : Nat} {text : Bytes}
    (h : t.IsStored m file text 0) : m.HoldsText file text := by
  obtain ⟨id, -, -, hfile, hcontent⟩ := h
  exact ⟨_, id, hfile, rfl, rfl, rfl, hcontent⟩

theorem IsStored.writerFile_lt {t : CaptureTask} {m : Machine} {file offset : Nat} {text : Bytes}
    (h : t.IsStored m file text offset) : t.writerFile < file := by
  obtain ⟨_, hlater, -⟩ := h
  exact hlater

namespace Frame

variable {t : CaptureTask} {m : Machine} {d : Descriptors} {p : Process} {buffer : Bytes}
  {reads writes : Bool}

theorem getElem?_processes (h : t.Frame m d p buffer) : m.processes[t.pid]? = some p := by
  rw [h.processes_eq]
  exact Array.getElem?_push_size

theorem target?_reader (h : t.Frame m d p buffer) :
    m.target? t.readerFile = some (.reader t.pipe) := by
  rw [target?, h.reader_eq, Option.map_some]

theorem target?_writer (h : t.Frame m d p buffer) :
    m.target? t.writerFile = some (.writer t.pipe) := by
  rw [target?, h.writer_eq, Option.map_some]

/-! ### Who holds the ends -/

/-- A table of the beginning holds neither end. -/
theorem not_holds (ht : t.IsLaidOut) (h : t.Frame m d p buffer) {old : Descriptors}
    (hold : old ∈ t.initial.tables) {target : Target} (htarget : target.pipe? = some t.pipe) :
    ¬ m.Holds old target := by
  rintro ⟨file, hfile, hleads⟩
  rw [h.target?_eq file (ht.wellFormed.held old hold file hfile)] at hleads
  exact Nat.lt_irrefl _ (ht.wellFormed.led file target t.pipe hleads htarget)

/-- So an end is held by the shell, or by the copier as long as it has not ended. -/
theorem isHeld_iff (ht : t.IsLaidOut) (h : t.Frame m d p buffer) {target : Target}
    (htarget : target.pipe? = some t.pipe) :
    m.isHeld target = true ↔ m.Holds d target ∨ p.IsRunning ∧ m.Holds p.descriptors target := by
  rw [Machine.isHeld_iff]
  refine ⟨?_, ?_⟩
  · rintro ⟨held, hheld, hleads⟩
    rcases mem_tables.mp hheld with rfl | ⟨pid, q, hq, hrunning, rfl⟩
    · rw [h.descriptors_eq] at hleads
      exact .inl hleads
    · rw [h.processes_eq, Array.getElem?_push] at hq
      split at hq
      · cases hq
        exact .inr ⟨hrunning, hleads⟩
      · exact absurd hleads
          (h.not_holds ht (mem_tables.mpr (.inr ⟨pid, q, hq, hrunning, rfl⟩)) htarget)
  · rintro (hleads | ⟨hrunning, hleads⟩)
    · exact ⟨d, mem_tables.mpr (.inl h.descriptors_eq.symm), hleads⟩
    · exact ⟨p.descriptors, mem_tables.mpr (.inr ⟨t.pid, p, h.getElem?_processes, hrunning, rfl⟩),
        hleads⟩

/-- Of the two ends, the shell's table holds those that are left in it. -/
theorem holds_table_iff (ht : t.IsLaidOut) (h : t.Frame m d p buffer) {target : Target}
    (htarget : target.pipe? = some t.pipe) :
    m.Holds (t.table reads writes) target ↔
      writes = true ∧ target = .writer t.pipe ∨ reads = true ∧ target = .reader t.pipe := by
  refine ⟨?_, ?_⟩
  · rintro ⟨file, hfile, hleads⟩
    rcases (mem_files_table reads writes).mp hfile with ⟨hwrites, rfl⟩ | ⟨hreads, rfl⟩ | hold
    · rw [h.target?_writer] at hleads
      exact .inl ⟨hwrites, (Option.some.inj hleads).symm⟩
    · rw [h.target?_reader] at hleads
      exact .inr ⟨hreads, (Option.some.inj hleads).symm⟩
    · exact absurd ⟨file, hold, hleads⟩ (h.not_holds ht (mem_tables.mpr (.inl rfl)) htarget)
  · rintro (⟨hwrites, rfl⟩ | ⟨hreads, rfl⟩)
    · exact ⟨t.writerFile, (mem_files_table reads writes).mpr (.inl ⟨hwrites, rfl⟩),
        h.target?_writer⟩
    · exact ⟨t.readerFile, (mem_files_table reads writes).mpr (.inr (.inl ⟨hreads, rfl⟩)),
        h.target?_reader⟩

theorem holds_writer_iff (ht : t.IsLaidOut) (h : t.Frame m d p buffer) :
    m.Holds (t.table reads writes) (.writer t.pipe) ↔ writes = true := by
  rw [h.holds_table_iff ht rfl]
  simp

theorem holds_reader_iff (ht : t.IsLaidOut) (h : t.Frame m d p buffer) :
    m.Holds (t.table reads writes) (.reader t.pipe) ↔ reads = true := by
  rw [h.holds_table_iff ht rfl]
  simp

/-! ### Changes of tables and processes -/

theorem setDescriptors (h : t.Frame m d p buffer) (d' : Descriptors) :
    t.Frame { m with descriptors := d' } d' p buffer :=
  ⟨h.reader_eq, h.writer_eq, h.size_files, h.buffer_eq, h.capacity_eq, rfl, h.processes_eq,
    h.target?_eq, h.nodes_le, ⟨h.shape.tree, h.shape.environment⟩⟩

/-- The copier changes. -/
theorem modifyProcess (h : t.Frame m d p buffer) (f : Process → Process) :
    t.Frame (m.modifyProcess t.pid f) d (f p) buffer where
  reader_eq := h.reader_eq
  writer_eq := h.writer_eq
  size_files := h.size_files
  buffer_eq := h.buffer_eq
  capacity_eq := h.capacity_eq
  descriptors_eq := h.descriptors_eq
  processes_eq := by
    show m.processes.modify t.initial.processes.size f = _
    rw [h.processes_eq]
    refine Array.ext_getElem? fun i => ?_
    rw [Array.getElem?_modify, Array.getElem?_push, Array.getElem?_push]
    by_cases hi : i = t.initial.processes.size
    · rw [if_pos hi.symm, if_pos hi, if_pos hi, Option.map_some]
    · rw [if_neg (Ne.symm hi), if_neg hi, if_neg hi]
  target?_eq := h.target?_eq
  nodes_le := h.nodes_le
  shape := ⟨h.shape.tree, h.shape.environment⟩

/-! ### Changes of files -/

/-- The position of another file than the ends moves. -/
theorem seek (h : t.Frame m d p buffer) {file : Nat} (hfile : t.writerFile < file) (offset : Nat) :
    t.Frame (m.seek file offset) d p buffer where
  reader_eq := by
    have hne : file ≠ t.readerFile := Nat.ne_of_gt (Nat.lt_of_succ_lt hfile)
    rw [Machine.seek, Array.getElem?_modify, if_neg hne, h.reader_eq]
  writer_eq := by
    rw [Machine.seek, Array.getElem?_modify, if_neg (Nat.ne_of_gt hfile), h.writer_eq]
  size_files := by
    rw [Machine.seek, Array.size_modify]
    exact h.size_files
  buffer_eq := h.buffer_eq
  capacity_eq := h.capacity_eq
  descriptors_eq := h.descriptors_eq
  processes_eq := h.processes_eq
  target?_eq other hother := by rw [Grows.target?_seek, h.target?_eq other hother]
  nodes_le := h.nodes_le
  shape := ⟨h.shape.tree, h.shape.environment⟩

/-- Something is written that does not go to the pipe. -/
theorem wrote (h : t.Frame m d p buffer) {file : Nat} {bytes : Bytes} {after : Machine}
    (hwrote : m.Wrote file bytes after) (hreader : file ≠ t.readerFile)
    (hwriter : file ≠ t.writerFile) (hleads : m.target? file ≠ some (.writer t.pipe)) :
    t.Frame after d p buffer := by
  have hgrows := Grows.wrote hwrote
  exact {
    reader_eq := (hwrote.files_eq hreader.symm).trans h.reader_eq
    writer_eq := (hwrote.files_eq hwriter.symm).trans h.writer_eq
    size_files := Nat.lt_of_lt_of_le h.size_files hgrows.size_files_le
    buffer_eq := (hwrote.pipes_eq hleads).trans h.buffer_eq
    capacity_eq := hgrows.capacity_eq.trans h.capacity_eq
    descriptors_eq := hgrows.descriptors_eq.trans h.descriptors_eq
    processes_eq := hgrows.processes_eq.trans h.processes_eq
    target?_eq := fun other hother =>
      (hgrows.target?_eq other (Nat.lt_trans hother (Nat.lt_of_succ_lt h.size_files))).trans
        (h.target?_eq other hother)
    nodes_le := by
      rw [hwrote.size_nodes_eq]
      exact h.nodes_le
    shape := h.shape.trans (.wrote hwrote) }

/-- Something is written to the file without a name. -/
theorem writeStored (h : t.Frame m d p buffer) {file : Nat} {text : Bytes} {offset : Nat}
    (hstored : t.IsStored m file text offset) (bytes : Bytes) :
    t.Frame (m.writeChunk file bytes).2 d p buffer := by
  obtain ⟨id, hlater, -, hfile, -⟩ := hstored
  refine h.wrote (m.wrote_writeChunk file bytes) (Nat.ne_of_gt (Nat.lt_of_succ_lt hlater))
    (Nat.ne_of_gt hlater) ?_
  rw [target?, hfile, Option.map_some]
  intro hleads
  cases hleads

/-- What is said goes to a file that was open at the beginning, and so not to the pipe. -/
theorem exists_complain (ht : t.IsLaidOut) (h : t.Frame m (t.table reads writes) p buffer)
    (text : String) :
    ∃ file < t.initial.files.size, m.Wrote file (Text.Utf8.encode text) (m.complain text) := by
  obtain ⟨file, hfile⟩ := Option.isSome_iff_exists.mp ht.standardError
  refine ⟨file, ht.wellFormed.held _ (mem_tables.mpr (.inl rfl)) file
    (Descriptors.mem_files_of_get? hfile), ?_⟩
  have hcomplain : m.complain text = (m.writeFile file (Text.Utf8.encode text)).2 := by
    unfold Machine.complain Machine.write
    simp only [h.descriptors_eq, get?_table ht reads writes ht.standardError, hfile]
  rw [hcomplain]
  exact m.wrote_writeFile file _

theorem complain (ht : t.IsLaidOut) (h : t.Frame m (t.table reads writes) p buffer)
    (text : String) : t.Frame (m.complain text) (t.table reads writes) p buffer := by
  obtain ⟨file, hfile, hwrote⟩ := h.exists_complain ht text
  refine h.wrote hwrote (Nat.ne_of_lt hfile) (Nat.ne_of_lt (Nat.lt_succ_of_lt hfile)) ?_
  rw [h.target?_eq file hfile]
  exact fun hleads => Nat.lt_irrefl _ (ht.wellFormed.led file _ t.pipe hleads rfl)

/-- The file without a name is left alone by what is said. -/
theorem isStored_complain (ht : t.IsLaidOut) (h : t.Frame m (t.table reads writes) p buffer)
    (text : String) {stored : Nat} {held : Bytes} {offset : Nat}
    (hstored : t.IsStored m stored held offset) :
    t.IsStored (m.complain text) stored held offset := by
  obtain ⟨file, hfile, hwrote⟩ := h.exists_complain ht text
  obtain ⟨id, hlater, hnew, hopen, hcontent⟩ := hstored
  have hne : stored ≠ file := Nat.ne_of_gt (Nat.lt_trans (Nat.lt_succ_of_lt hfile) hlater)
  have hleads : m.target? file ≠ some (.node id) := by
    rw [h.target?_eq file hfile]
    exact fun hleads => Nat.not_lt.mpr hnew (ht.nodes file id hleads)
  exact ⟨id, hlater, hnew, (hwrote.files_eq hne).trans hopen,
    (hwrote.content?_eq hleads).trans hcontent⟩

/-- The file without a name is made. -/
theorem openNameless (h : t.Frame m d p buffer) : t.Frame (m.openNameless #[]).2 d p buffer := by
  have hgrows : m.Grows (m.openNameless #[]).2 :=
    (Grows.setTree m _).trans (.addFile _ _ fun _ pipe hpipe => by simp at hpipe)
  have hfiles : ∀ file < m.files.size, (m.openNameless #[]).2.files[file]? = m.files[file]? :=
    fun file hfile => by
      simp [Machine.openNameless, addFile, Array.getElem?_push, Nat.ne_of_lt hfile]
  exact {
    reader_eq := (hfiles _ (Nat.lt_of_succ_lt h.size_files)).trans h.reader_eq
    writer_eq := (hfiles _ h.size_files).trans h.writer_eq
    size_files := Nat.lt_of_lt_of_le h.size_files hgrows.size_files_le
    buffer_eq := h.buffer_eq
    capacity_eq := h.capacity_eq
    descriptors_eq := h.descriptors_eq
    processes_eq := h.processes_eq
    target?_eq := fun other hother =>
      (hgrows.target?_eq other (Nat.lt_trans hother (Nat.lt_of_succ_lt h.size_files))).trans
        (h.target?_eq other hother)
    nodes_le := Nat.le_trans h.nodes_le (by simp [Machine.openNameless, addFile, FileTree.allocate])
    shape := h.shape.trans (.openNameless m #[]) }

theorem isStored_openNameless (h : t.Frame m d p buffer) :
    t.IsStored (m.openNameless #[]).2 (m.openNameless #[]).1 [] 0 := by
  refine ⟨m.tree.nodes.size, h.size_files, h.nodes_le, ?_, ?_⟩
  · simp [Machine.openNameless, addFile, FileTree.allocate]
  · simp [Machine.openNameless, addFile, FileTree.allocate, FileTree.content?]

/-! ### The pipe -/

/-- What waits in the pipe changes. -/
theorem modifyPipe (h : t.Frame m d p buffer) (f : Array UInt8 → Array UInt8) :
    t.Frame { m with pipes := m.pipes.modify t.pipe f } d p (f buffer.toArray).toList where
  reader_eq := h.reader_eq
  writer_eq := h.writer_eq
  size_files := h.size_files
  buffer_eq := by rw [Array.getElem?_modify, if_pos rfl, h.buffer_eq, Option.map_some]
  capacity_eq := h.capacity_eq
  descriptors_eq := h.descriptors_eq
  processes_eq := h.processes_eq
  target?_eq := h.target?_eq
  nodes_le := h.nodes_le
  shape := ⟨h.shape.tree, h.shape.environment⟩

/-- Reading takes what waits, or as much of it as is asked for. -/
theorem readChunk_of_ne_nil (h : t.Frame m d p buffer) (hbuffer : buffer ≠ []) {count : Nat}
    (hcount : 0 < count) :
    ∃ f, m.readChunk t.readerFile count false =
        (.bytes (buffer.take count), { m with pipes := m.pipes.modify t.pipe f }) ∧
      f buffer.toArray = (buffer.drop count).toArray := by
  have hlength : 0 < buffer.length := List.length_pos_iff.mpr hbuffer
  have hsize : min count buffer.length ≠ 0 := by omega
  refine ⟨fun w => w.extract (min count buffer.length) w.size, ?_, ?_⟩
  · unfold readChunk
    simp [h.reader_eq, h.buffer_eq, extent, hsize]
  · rcases Nat.le_total count buffer.length with hle | hle
    · simp [Nat.min_eq_left hle]
    · simp [Nat.min_eq_right hle, List.drop_eq_nil_of_le hle]

/-- Where nothing waits, it depends on the other end. -/
theorem readChunk_nil (h : t.Frame m d p []) (count : Nat) :
    m.readChunk t.readerFile count false =
      (if m.isHeld (.writer t.pipe) then .waiting else .ending, m) := by
  unfold readChunk
  simp [h.reader_eq, h.buffer_eq, extent]

/-- Where there is no room, writing waits. -/
theorem writeChunk_of_full (h : t.Frame m d p buffer) (hheld : m.isHeld (.reader t.pipe) = true)
    (hfull : t.initial.pipeCapacity ≤ buffer.length) (bytes : Bytes) :
    m.writeChunk t.writerFile bytes = (.waiting, m) := by
  unfold Machine.writeChunk
  simp [h.writer_eq, hheld, h.buffer_eq, h.capacity_eq, Nat.sub_eq_zero_of_le hfull]

/-- Where there is room for everything, all is written. -/
theorem writeChunk_of_room (h : t.Frame m d p buffer) (hheld : m.isHeld (.reader t.pipe) = true)
    {bytes : Bytes} (hbytes : bytes ≠ [])
    (hroom : buffer.length + bytes.length ≤ t.initial.pipeCapacity) :
    ∃ f, m.writeChunk t.writerFile bytes =
        (.all, { m with pipes := m.pipes.modify t.pipe f }) ∧
      f buffer.toArray = (buffer ++ bytes).toArray := by
  have hlength : 0 < bytes.length := List.length_pos_iff.mpr hbytes
  refine ⟨fun w => w ++ bytes.toArray, ?_, by simp⟩
  have hle : bytes.length ≤ t.initial.pipeCapacity - buffer.length := by omega
  have hne : t.initial.pipeCapacity - buffer.length ≠ 0 := by omega
  unfold Machine.writeChunk
  simp [h.writer_eq, hheld, h.buffer_eq, h.capacity_eq, hne, List.drop_eq_nil_of_le hle,
    List.take_of_length_le hle]

/-- Otherwise it is written as far as there is room. -/
theorem writeChunk_of_little_room (h : t.Frame m d p buffer)
    (hheld : m.isHeld (.reader t.pipe) = true) {bytes : Bytes} {room : Nat} (hpos : 0 < room)
    (hroom : buffer.length + room = t.initial.pipeCapacity) (hlittle : room < bytes.length) :
    ∃ f, m.writeChunk t.writerFile bytes =
        (.part (bytes.drop room), { m with pipes := m.pipes.modify t.pipe f }) ∧
      f buffer.toArray = (buffer ++ bytes.take room).toArray := by
  refine ⟨fun w => w ++ (bytes.take room).toArray, ?_, by simp⟩
  have heq : t.initial.pipeCapacity - buffer.length = room := by omega
  have hrest : bytes.drop room ≠ [] := by simpa using hlittle
  unfold Machine.writeChunk
  simp only [h.writer_eq, hheld, h.buffer_eq, h.capacity_eq]
  obtain ⟨first, rest, hcons⟩ := List.exists_cons_of_ne_nil hrest
  simp [heq, Nat.ne_of_gt hpos, hcons]

/-- What is written to the pipe waits, or all of it is written, or it is written as far as there is
room. -/
theorem writesChunk (h : t.Frame m d p buffer) (hheld : m.isHeld (.reader t.pipe) = true)
    {bytes : Bytes} (hbytes : bytes ≠ []) : t.WritesChunk m t.writerFile buffer bytes := by
  rcases Nat.lt_or_ge buffer.length t.initial.pipeCapacity with hlt | hfull
  · by_cases hroom : buffer.length + bytes.length ≤ t.initial.pipeCapacity
    · obtain ⟨f, hwrite, hf⟩ := h.writeChunk_of_room hheld hbytes hroom
      exact .inr ⟨f, bytes, hbytes, hroom, hf, .inl ⟨rfl, hwrite⟩⟩
    · have hpos : 0 < t.initial.pipeCapacity - buffer.length := Nat.sub_pos_of_lt hlt
      have hlittle : t.initial.pipeCapacity - buffer.length < bytes.length := by omega
      obtain ⟨f, hwrite, hf⟩ := h.writeChunk_of_little_room hheld hpos
        (Nat.add_sub_cancel' (Nat.le_of_lt hlt)) hlittle
      have htaken : bytes.take (t.initial.pipeCapacity - buffer.length) ≠ [] := by
        simpa [List.take_eq_nil_iff, hbytes] using Nat.ne_of_gt hpos
      refine .inr ⟨f, _, htaken, ?_, hf, .inr ⟨_, (List.take_append_drop _ bytes).symm, hwrite⟩⟩
      rw [List.length_take]
      omega
  · exact .inl ⟨hfull, h.writeChunk_of_full hheld hfull bytes⟩

/-- Where nobody reads any more, nothing is written. -/
theorem writeChunk_of_unheld (h : t.Frame m d p buffer) (hheld : m.isHeld (.reader t.pipe) = false)
    (bytes : Bytes) : m.writeChunk t.writerFile bytes = (.broken, m) := by
  unfold Machine.writeChunk
  simp [h.writer_eq, hheld]

end Frame

/-! ## The file without a name -/

namespace IsStored

variable {t : CaptureTask} {m : Machine} {file : Nat} {text : Bytes} {offset : Nat}

/-- What is written to the file at its end is put behind what it holds. -/
theorem writeChunk (h : t.IsStored m file text text.length) (bytes : Bytes) :
    (m.writeChunk file bytes).1 = .all ∧
      t.IsStored (m.writeChunk file bytes).2 file (text ++ bytes) (text ++ bytes).length := by
  obtain ⟨id, hlater, hnew, hfile, hcontent⟩ := h
  have hwrite : m.writeChunk file bytes = (.all, ({ m with
      tree := m.tree.modifyData id (overlay · text.length bytes.toArray) } : Machine).seek file
        (text.length + bytes.length)) := by
    unfold Machine.writeChunk
    simp [hfile, hcontent]
  rw [hwrite]
  refine ⟨rfl, id, hlater, hnew, ?_, ?_⟩
  · simp [Machine.seek, Array.getElem?_modify, hfile]
  · rw [Machine.seek, FileTree.content?_modifyData_self _ hcontent]
    simp [overlay]

theorem seek (h : t.IsStored m file text offset) (other : Nat) :
    t.IsStored (m.seek file other) file text other := by
  obtain ⟨id, hlater, hnew, hfile, hcontent⟩ := h
  refine ⟨id, hlater, hnew, ?_, hcontent⟩
  rw [Machine.seek, Array.getElem?_modify, if_pos rfl, hfile, Option.map_some]

end IsStored

end PipeShell.Machine.CaptureTask
