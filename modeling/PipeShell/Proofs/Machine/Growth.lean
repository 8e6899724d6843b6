import PipeShell.Machine.Child

/-!
# What open files lead to

Whatever happens on a machine, an open file leads where it has led from the beginning. Files and
pipes are added and never taken away, so what they lead to can be told by their numbers. Opening,
reading and writing change neither the tables of the shell and of the processes nor the processes
themselves.

## Main definitions

* `Holds`: some number of a table stands for an open file that leads there
* `WellFormed`: tables name files, and files lead to pipes, that there are
* `Extends`: new files and new pipes, the old ones staying
* `Grows`: the same with the processes left alone
* `Bound`: a binding that has been carried out

## Main results

* `isHeld_iff`: who holds what leads somewhere
* `Grows.openPath`, `Grows.readChunk`, `Grows.writeChunk`: opening, reading and writing
* `takes_of_bind`: what carrying out a binding does to a table
-/

namespace PipeShell.Machine

/-! ## Who holds what -/

/-- The pipe that a target is an end of. -/
def Target.pipe? : Target → Option Nat
  | .node _ => none
  | .reader pipe | .writer pipe => some pipe

@[simp] theorem Target.pipe?_node (id : NodeId) : (Target.node id).pipe? = none := rfl

@[simp] theorem Target.pipe?_reader (pipe : Nat) : (Target.reader pipe).pipe? = some pipe := rfl

@[simp] theorem Target.pipe?_writer (pipe : Nat) : (Target.writer pipe).pipe? = some pipe := rfl

/-- Some number of a table stands for an open file that leads there. -/
def Holds (m : Machine) (d : Descriptors) (target : Target) : Prop :=
  ∃ file ∈ d.files, m.target? file = some target

/-- A process that has not ended. -/
def Process.IsRunning (p : Process) : Prop := ∃ program, p.image = .running program

theorem lt_size_of_target? {m : Machine} {file : Nat} {target : Target}
    (h : m.target? file = some target) : file < m.files.size := by
  obtain ⟨f, hf, -⟩ := Option.map_eq_some_iff.mp h
  exact (Array.getElem?_eq_some_iff.mp hf).1

theorem mem_tables {m : Machine} {d : Descriptors} :
    d ∈ m.tables ↔ d = m.descriptors ∨
      ∃ (pid : Nat) (p : Process),
        m.processes[pid]? = some p ∧ p.IsRunning ∧ p.descriptors = d := by
  simp only [tables, List.mem_cons, List.mem_filterMap, Array.mem_toList_iff,
    Array.mem_iff_getElem?]
  refine or_congr_right ⟨?_, ?_⟩
  · rintro ⟨p, ⟨pid, hp⟩, hd⟩
    cases himage : p.image with
    | running program =>
      rw [himage] at hd
      exact ⟨pid, p, hp, ⟨program, himage⟩, Option.some.inj hd⟩
    | ended status =>
      rw [himage] at hd
      cases hd
  · rintro ⟨pid, p, hp, ⟨program, himage⟩, rfl⟩
    exact ⟨p, ⟨pid, hp⟩, by rw [himage]⟩

/-- A target is held where some table holds it. -/
theorem isHeld_iff {m : Machine} {target : Target} :
    m.isHeld target = true ↔ ∃ d ∈ m.tables, m.Holds d target := by
  simp only [isHeld, List.any_eq_true, Holds, target?]
  refine exists_congr fun d => and_congr_right fun _ => exists_congr fun file =>
    and_congr_right fun _ => ?_
  cases m.files[file]? <;> simp

/-- Open files lead to pipes that there are. -/
def LeadsInside (m : Machine) : Prop :=
  ∀ file target pipe, m.target? file = some target → target.pipe? = some pipe → pipe < m.pipes.size

/-- Tables name files, and files lead to pipes, that there are. -/
structure WellFormed (m : Machine) : Prop where
  held : ∀ d ∈ m.tables, ∀ file ∈ d.files, file < m.files.size
  led : m.LeadsInside

/-- Where no open file leads to a pipe, none leads to one that there is not. -/
theorem WellFormed.of_files {m : Machine}
    (held : ∀ d ∈ m.tables, ∀ file ∈ d.files, file < m.files.size)
    (hfiles : ∀ f ∈ m.files.toList, f.target.pipe? = none) : m.WellFormed := by
  refine ⟨held, fun file target pipe htarget hpipe => ?_⟩
  obtain ⟨f, hf, rfl⟩ := Option.map_eq_some_iff.mp htarget
  rw [hfiles f (Array.mem_toList_iff.mpr (Array.mem_of_getElem? hf))] at hpipe
  cases hpipe

/-! ## Entries of a table -/

namespace Descriptors

variable {d : Descriptors} {fd file : Nat} {e : Nat × Nat}

theorem mem_files : file ∈ d.files ↔ ∃ fd, (fd, file) ∈ d.entries := by
  simp [files]

theorem mem_entries_of_get? (h : d.get? fd = some file) : (fd, file) ∈ d.entries := by
  unfold get? at h
  induction hd : d.entries generalizing d with
  | nil => simp [hd] at h
  | cons first rest ih =>
    obtain ⟨n, f⟩ := first
    rw [hd, List.lookup_cons] at h
    by_cases hn : fd = n
    · subst hn
      obtain rfl : f = file := by simpa using h
      exact List.mem_cons_self
    · have hrest : rest.lookup fd = some file := by
        simpa [beq_false_of_ne hn] using h
      exact List.mem_cons_of_mem _ (ih (d := ⟨rest⟩) hrest rfl)

theorem mem_files_of_get? (h : d.get? fd = some file) : file ∈ d.files :=
  mem_files.mpr ⟨fd, mem_entries_of_get? h⟩

/-- A number that is not in use has no entries. -/
theorem fst_ne_of_get?_eq_none (h : d.get? fd = Option.none) (he : e ∈ d.entries) : e.1 ≠ fd := by
  rintro rfl
  have := (lookup_isSome_iff d.entries e.1).mpr (List.mem_map_of_mem he)
  rw [show d.entries.lookup e.1 = Option.none from h] at this
  cases this

/-- So taking it out of use changes nothing. -/
theorem filter_entries_of_get?_eq_none (h : d.get? fd = Option.none) :
    d.entries.filter (fun e => e.1 != fd) = d.entries := by
  refine List.filter_eq_self.mpr fun e he => ?_
  simpa using fst_ne_of_get?_eq_none h he

/-- A number that is in use is not one that is not. -/
theorem ne_of_get? {used unused : Nat} (hused : (d.get? used).isSome = true)
    (hunused : d.get? unused = Option.none) : used ≠ unused := by
  rintro rfl
  rw [hunused] at hused
  cases hused

theorem mem_entries_place :
    e ∈ (d.place fd file).entries ↔ e = (fd, file) ∨ (e ∈ d.entries ∧ e.1 ≠ fd) := by
  simp [place]

theorem mem_entries_drop : e ∈ (d.drop fd).entries ↔ e ∈ d.entries ∧ e.1 ≠ fd := by
  simp [drop]

theorem mem_files_place {other : Nat} (h : other ∈ (d.place fd file).files) :
    other = file ∨ other ∈ d.files := by
  obtain ⟨n, hn⟩ := mem_files.mp h
  rcases mem_entries_place.mp hn with he | ⟨he, -⟩
  · exact .inl (Prod.mk.inj he).2
  · exact .inr (mem_files.mpr ⟨n, he⟩)

theorem mem_files_drop {other : Nat} (h : other ∈ (d.drop fd).files) : other ∈ d.files := by
  obtain ⟨n, hn⟩ := mem_files.mp h
  exact mem_files.mpr ⟨n, (mem_entries_drop.mp hn).1⟩

theorem mem_files_below {least other : Nat} (h : other ∈ (d.below least).files) :
    other ∈ d.files := by
  obtain ⟨n, hn⟩ := mem_files.mp h
  exact mem_files.mpr ⟨n, (List.mem_filter.mp hn).1⟩

end Descriptors

/-! ## New pipes -/

section OpenPipe

variable (m : Machine)

@[simp] theorem fst_openPipe : m.openPipe.1 = (m.files.size, m.files.size + 1) := by
  simp [openPipe, addFile]

@[simp] theorem size_files_openPipe : m.openPipe.2.files.size = m.files.size + 2 := by
  simp [openPipe, addFile]

theorem target?_openPipe_reader :
    m.openPipe.2.target? m.openPipe.1.1 = some (.reader m.pipes.size) := by
  simp only [openPipe, addFile, target?, Array.getElem?_push, Array.size_push]
  simp

theorem target?_openPipe_writer :
    m.openPipe.2.target? m.openPipe.1.2 = some (.writer m.pipes.size) := by
  simp only [openPipe, addFile, target?, Array.getElem?_push, Array.size_push]
  simp

end OpenPipe

/-! ## Growth -/

/-- From one machine to the other come new files and new pipes, and the old ones stay; the shell's
table is left alone. -/
structure Extends (m m' : Machine) : Prop where
  descriptors_eq : m'.descriptors = m.descriptors
  capacity_eq : m'.pipeCapacity = m.pipeCapacity
  size_files_le : m.files.size ≤ m'.files.size
  target?_eq : ∀ file < m.files.size, m'.target? file = m.target? file
  size_pipes_le : m.pipes.size ≤ m'.pipes.size
  led : m.LeadsInside → m'.LeadsInside

/-- From one machine to the other come nothing but new files, new pipes, and changes inside of what
is there. The processes are left alone, too. -/
structure Grows (m m' : Machine) : Prop extends Extends m m' where
  processes_eq : m'.processes = m.processes

theorem Extends.refl (m : Machine) : m.Extends m :=
  ⟨rfl, rfl, Nat.le_refl _, fun _ _ => rfl, Nat.le_refl _, id⟩

theorem Extends.trans {m m' m'' : Machine} (h : m.Extends m') (h' : m'.Extends m'') :
    m.Extends m'' where
  descriptors_eq := h'.descriptors_eq.trans h.descriptors_eq
  capacity_eq := h'.capacity_eq.trans h.capacity_eq
  size_files_le := Nat.le_trans h.size_files_le h'.size_files_le
  target?_eq file hfile :=
    (h'.target?_eq file (Nat.lt_of_lt_of_le hfile h.size_files_le)).trans (h.target?_eq file hfile)
  size_pipes_le := Nat.le_trans h.size_pipes_le h'.size_pipes_le
  led := h'.led ∘ h.led

namespace Grows

variable {m m' m'' : Machine}

theorem refl (m : Machine) : m.Grows m := ⟨.refl m, rfl⟩

theorem trans (h : m.Grows m') (h' : m'.Grows m'') : m.Grows m'' :=
  ⟨h.toExtends.trans h'.toExtends, h'.processes_eq.trans h.processes_eq⟩

theorem setTree (m : Machine) (tree : FileTree) : m.Grows { m with tree } :=
  ⟨⟨rfl, rfl, Nat.le_refl _, fun _ _ => rfl, Nat.le_refl _, id⟩, rfl⟩

/-- Changing what waits in a pipe. -/
theorem modifyPipe (m : Machine) (pipe : Nat) (f : Array UInt8 → Array UInt8) :
    m.Grows { m with pipes := m.pipes.modify pipe f } where
  descriptors_eq := rfl
  processes_eq := rfl
  capacity_eq := rfl
  size_files_le := Nat.le_refl _
  target?_eq _ _ := rfl
  size_pipes_le := Nat.le_of_eq Array.size_modify.symm
  led h file target p hfile hp := by
    rw [Array.size_modify]
    exact h file target p hfile hp

/-- Moving a position leaves a file leading where it led. -/
theorem target?_seek (m : Machine) (moved offset file : Nat) :
    (m.seek moved offset).target? file = m.target? file := by
  simp only [target?, Machine.seek, Array.getElem?_modify]
  split
  · cases m.files[file]? <;> rfl
  · rfl

theorem seek (m : Machine) (file offset : Nat) : m.Grows (m.seek file offset) where
  descriptors_eq := rfl
  processes_eq := rfl
  capacity_eq := rfl
  size_files_le := Nat.le_of_eq Array.size_modify.symm
  target?_eq other _ := target?_seek m file offset other
  size_pipes_le := Nat.le_refl _
  led h other target pipe hother := by
    rw [target?_seek] at hother
    exact h other target pipe hother

theorem target?_addFile (m : Machine) (new : OpenFile) (file : Nat) :
    (m.addFile new).2.target? file =
      if file = m.files.size then some new.target else m.target? file := by
  simp only [target?, Machine.addFile, Array.getElem?_push]
  split <;> rfl

/-- Adding a file that leads to a pipe that there is, or to none. -/
theorem addFile (m : Machine) (new : OpenFile)
    (hnew : m.LeadsInside → ∀ pipe, new.target.pipe? = some pipe → pipe < m.pipes.size) :
    m.Grows (m.addFile new).2 where
  descriptors_eq := rfl
  processes_eq := rfl
  capacity_eq := rfl
  size_files_le := by simp [Machine.addFile]
  target?_eq file hfile := by rw [target?_addFile, if_neg (Nat.ne_of_lt hfile)]
  size_pipes_le := Nat.le_refl _
  led h file target pipe hfile hpipe := by
    rw [target?_addFile] at hfile
    split at hfile
    · cases hfile
      exact hnew h pipe hpipe
    · exact h file target pipe hfile hpipe

theorem openNode (m : Machine) (id : NodeId) (access : Access) :
    m.Grows (m.openNode id access).2 :=
  addFile m _ fun _ pipe hpipe => by simp at hpipe

/-- Opening an end of a pipe once more, from an open file that leads to the pipe. -/
theorem reopenEnd {file : Nat} {target : Target} (pipe : Nat)
    (hfile : m.target? file = some target) (hpipe : target.pipe? = some pipe) (access : Access) :
    m.Grows (m.addFile
      { target := if access.writes then .writer pipe else .reader pipe
        readable := access.reads
        writable := access.writes }).2 := by
  refine addFile m _ fun h other hother => ?_
  have hother : some pipe = some other := by
    rw [← hother]
    cases access.writes <;> rfl
  cases hother
  exact h file target pipe hfile hpipe

/-! ### Opening -/

/-- What an attempt to open comes to: a new file or none. -/
def IsFresh (m m' : Machine) (result : Except Errno Nat) : Prop :=
  ∀ file, result = .ok file → m.files.size ≤ file ∧ file < m'.files.size

theorem isFresh_error (m m' : Machine) (cause : Errno) : IsFresh m m' (.error cause) := by
  rintro file ⟨⟩

theorem isFresh_addFile (m : Machine) (new : OpenFile) :
    IsFresh m (m.addFile new).2 (.ok (m.addFile new).1) := by
  intro file hfile
  obtain rfl : m.files.size = file := Except.ok.inj hfile
  exact ⟨Nat.le_refl _, by simp [Machine.addFile]⟩

theorem reopen (m : Machine) (file : Nat) (access : Access) :
    m.Grows (m.reopen file access).2 ∧
      IsFresh m (m.reopen file access).2 (m.reopen file access).1 := by
  unfold Machine.reopen
  split
  · exact ⟨refl m, isFresh_error _ _ _⟩
  rename_i f hf
  have htarget : m.target? file = some f.target := by simp [target?, hf]
  split
  · split
    · exact ⟨refl m, isFresh_error _ _ _⟩
    split
    · exact ⟨refl m, isFresh_error _ _ _⟩
    · rename_i id _ _ _
      dsimp only
      split
      · exact ⟨(setTree m _).trans (openNode _ id access), isFresh_addFile _ _⟩
      · exact ⟨openNode m id access, isFresh_addFile _ _⟩
  · rename_i pipe hpipe
    exact ⟨reopenEnd pipe htarget (by rw [hpipe]; rfl) access, isFresh_addFile _ _⟩
  · rename_i pipe hpipe
    exact ⟨reopenEnd pipe htarget (by rw [hpipe]; rfl) access, isFresh_addFile _ _⟩

theorem openPath (m : Machine) (d : Descriptors) (cwd : NodeId) (path : String) (access : Access)
    (mode : Nat) :
    m.Grows (m.openPath d cwd path access mode).2 ∧
      IsFresh m (m.openPath d cwd path access mode).2 (m.openPath d cwd path access mode).1 := by
  unfold Machine.openPath
  split
  · exact ⟨refl m, isFresh_error _ _ _⟩
  split
  · split
    · exact ⟨refl m, isFresh_error _ _ _⟩
    · exact reopen m _ access
  · split
    · exact ⟨refl m, isFresh_error _ _ _⟩
    · rename_i id tree _ _ _ _ _
      exact ⟨(setTree m tree).trans (openNode _ id access), isFresh_addFile _ _⟩

/-- Adding a pipe with nothing in it. -/
theorem addPipe (m : Machine) : m.Grows { m with pipes := m.pipes.push #[] } where
  descriptors_eq := rfl
  processes_eq := rfl
  capacity_eq := rfl
  size_files_le := Nat.le_refl _
  target?_eq _ _ := rfl
  size_pipes_le := by simp
  led h file target pipe hfile hpipe := by
    rw [Array.size_push]
    exact Nat.lt_succ_of_lt (h file target pipe hfile hpipe)

/-- A new pipe, with the files of its two ends. -/
theorem openPipe (m : Machine) : m.Grows m.openPipe.2 := by
  refine (addPipe m).trans ((addFile _ _ fun _ pipe hpipe => ?_).trans
    (addFile _ _ fun _ pipe hpipe => ?_))
  · obtain rfl : m.pipes.size = pipe := by simpa using hpipe
    simp
  · obtain rfl : m.pipes.size = pipe := by simpa using hpipe
    simp [Machine.addFile]

/-! ### Reading and writing -/

theorem readChunk (m : Machine) (file count : Nat) (byLine : Bool) :
    m.Grows (m.readChunk file count byLine).2 := by
  unfold Machine.readChunk
  split
  · exact refl m
  split
  · exact refl m
  split
  · split
    · dsimp only
      split
      · exact refl m
      · exact seek m _ _
    · exact refl m
    · exact refl m
    · exact refl m
    · exact refl m
  · split
    · exact refl m
    · dsimp only
      split
      · exact refl m
      · exact modifyPipe m _ _
  · exact refl m

theorem wrote {file : Nat} {bytes : Bytes} (h : m.Wrote file bytes m') : m.Grows m' := by
  cases h with
  | nothing => exact refl m
  | file opened leads content start_eq => exact (setTree m _).trans (seek _ _ _)
  | pipe f leads => exact modifyPipe m _ f

theorem writeChunk (m : Machine) (file : Nat) (bytes : Bytes) :
    m.Grows (m.writeChunk file bytes).2 := wrote (m.wrote_writeChunk file bytes)

theorem writeFile (m : Machine) (file : Nat) (bytes : Bytes) :
    m.Grows (m.writeFile file bytes).2 := wrote (m.wrote_writeFile file bytes)

theorem write (m : Machine) (fd : Nat) (bytes : Bytes) : m.Grows (m.write fd bytes).2 := by
  unfold Machine.write
  split
  · exact refl m
  · exact writeFile m _ _

theorem complain (m : Machine) (text : String) : m.Grows (m.complain text) := write m 2 _

theorem complainOf (m : Machine) (promptText : String) (copied : Heredoc.Copied) :
    m.Grows (m.complainOf promptText copied) := by
  unfold Machine.complainOf
  dsimp only
  split
  · exact complain m _
  · exact (complain m _).trans (complain _ _)

theorem openNameless (m : Machine) (data : Array UInt8) : m.Grows (m.openNameless data).2 :=
  (setTree m _).trans (addFile _ _ fun _ pipe hpipe => by simp at hpipe)

theorem setInput (m : Machine) (i : Input) : m.Grows (m.setInput i) := by
  rcases m.setInput_cases i with hsame | ⟨file, -, hmoved⟩ | ⟨pipe, f, hemptied⟩
  · rw [hsame]
    exact refl m
  · rw [hmoved]
    exact seek m _ _
  · rw [hemptied]
    exact modifyPipe m _ _

theorem withDelays (m : Machine) (delays : List Nat) : m.Grows { m with delays } :=
  ⟨⟨rfl, rfl, Nat.le_refl _, fun _ _ => rfl, Nat.le_refl _, id⟩, rfl⟩

theorem nextDelay (m : Machine) : m.Grows m.nextDelay := withDelays m _

/-- What is reported is written to standard error, where that is open. -/
theorem snd_report (d : Descriptors) (m : Machine) (message : String) (next : Program) :
    (Machine.report d m message next).2 =
      match d.get? 2 with
      | none => m
      | some file => (m.writeChunk file (Text.Utf8.encode ("ish: " ++ message ++ "\n"))).2 := by
  unfold Machine.report
  cases d.get? 2 with
  | none => rfl
  | some file =>
    dsimp only
    split <;> rename_i hwrite <;> rw [hwrite]

theorem report (d : Descriptors) (m : Machine) (message : String) (next : Program) :
    m.Grows (report d m message next).2 := by
  rw [snd_report]
  split
  · exact refl m
  · exact writeChunk m _ _

end Grows

/-! ## Bindings -/

/-- One table is the other, but that a number stands for a file. -/
structure Descriptors.Takes (d : Descriptors) (fd file : Nat) (d' : Descriptors) : Prop where
  get?_eq : ∀ other, d'.get? other = if other = fd then some file else d.get? other
  mem_entries : ∀ e ∈ d'.entries, e = (fd, file) ∨ (e ∈ d.entries ∧ e.1 ≠ fd)

theorem Descriptors.takes_place (d : Descriptors) (fd file : Nat) :
    d.Takes fd file (d.place fd file) :=
  ⟨get?_place d fd file, fun _ he => mem_entries_place.mp he⟩

/-- A file may be opened under any unused number: moved from there, it leaves no trace at it. -/
theorem Descriptors.drop_place_place {d : Descriptors} {opened fd : Nat}
    (hopened : d.get? opened = Option.none) (hne : opened ≠ fd) (file : Nat) :
    ((d.place opened file).place fd file).drop opened = d.place fd file := by
  have hfilter : d.entries.filter (fun e => e.1 != opened && e.1 != fd) =
      d.entries.filter fun e => e.1 != fd :=
    List.filter_congr fun e he => by simp [fst_ne_of_get?_eq_none hopened he]
  simp [place, drop, filter_entries_of_get?_eq_none hopened, hfilter, hne.symm]

/-- So the number under which a file is opened does not matter to the table. -/
theorem adopt_eq_place (d : Descriptors) (fd file : Nat) : adopt d fd file = d.place fd file := by
  unfold adopt Descriptors.insertLeast
  dsimp only
  split
  · rename_i hfd
    rw [hfd]
  · rename_i hne
    exact Descriptors.drop_place_place d.get?_vacancy hne file

/-- A binding that has been carried out, with the table and the machine that it met. -/
structure Bound where
  binding : Binding Nat
  table : Descriptors
  machine : Machine

/-- The open file that a binding has bound: the captured text, or what opening the path gave. -/
def Bound.file? (cwd : NodeId) (b : Bound) : Option Nat :=
  match b.binding.source with
  | .captured body => some body
  | .file path kind =>
    (b.machine.openTarget b.table cwd path kind b.binding.redirect).1.toOption

theorem Grows.openTarget (m : Machine) (d : Descriptors) (cwd : NodeId) (path : String)
    (kind : RedirectKind) (redirect : Redirect) :
    m.Grows (m.openTarget d cwd path kind redirect).2 ∧
      ∀ file, (m.openTarget d cwd path kind redirect).1 = .ok file →
        m.files.size ≤ file ∧ file < (m.openTarget d cwd path kind redirect).2.files.size := by
  have hopen := openPath m d cwd path kind.access (FileTree.masked m.umask redirectMode)
  unfold Machine.openTarget
  split
  · rename_i heq
    rw [heq] at hopen
    exact ⟨hopen.1, nofun⟩
  · rename_i heq
    rw [heq] at hopen
    exact ⟨hopen.1, fun file hfile => hopen.2 file (by rw [Except.ok.inj hfile])⟩

theorem Grows.bind (m : Machine) (cwd : NodeId) (d : Descriptors) (b : Binding Nat) :
    m.Grows (m.bind cwd d b).2.2 := by
  unfold Machine.bind
  split
  · rename_i path kind _
    have hopen := (openTarget m d cwd path kind b.redirect).1
    split <;> simpa [*] using hopen
  · exact refl m

/-- A binding that cannot be carried out leaves the table as it was. -/
theorem table_of_bind_eq_error {m m' : Machine} {cwd : NodeId} {d d' : Descriptors}
    {b : Binding Nat} {e : RedirectionError} (h : m.bind cwd d b = (.error e, d', m')) :
    d' = d := by
  unfold Machine.bind at h
  split at h
  · split at h
    · cases h
      rfl
    · cases h
  · cases h

/-- Carrying out a binding makes its descriptor stand for its file, which is a captured text or new,
and changes nothing else in the table. -/
theorem takes_of_bind {m m' : Machine} {cwd : NodeId} {d d' : Descriptors} {b : Binding Nat}
    (h : m.bind cwd d b = (.ok (), d', m')) :
    ∃ file, Bound.file? cwd ⟨b, d, m⟩ = some file ∧ d.Takes b.fd file d' ∧
      (b.source = .captured file ∨ (m.files.size ≤ file ∧ file < m'.files.size)) := by
  unfold Machine.bind at h
  split at h
  · rename_i path kind hsource
    have hfresh := (Grows.openTarget m d cwd path kind b.redirect).2
    split at h
    · cases h
    · rename_i file m₁ hopen
      cases h
      rw [hopen] at hfresh
      refine ⟨file, ?_, adopt_eq_place d b.fd file ▸ d.takes_place b.fd file,
        .inr (hfresh file rfl)⟩
      simp [Bound.file?, hsource, hopen, Except.toOption]
  · rename_i file hsource
    cases h
    exact ⟨file, by simp [Bound.file?, hsource], d.takes_place b.fd file, .inl hsource⟩

end PipeShell.Machine
