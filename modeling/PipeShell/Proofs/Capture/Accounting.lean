import PipeShell.Proofs.Capture.PipeEnds

/-!
# Where the bytes of a handover are

Each byte that the copier has written is in the file, or in the hands of the shell on its way there,
or in the pipe, and it is behind those that were written before it. When the shell has met the end
of the pipe, the copier has let go of it, and so there is nothing on the way any more. This holds at
the beginning, and each step of either process keeps it.

## Main definitions

* `Drain.reads`, `Drain.writes`, `Copier.reads`, `Copier.writes`: who has which end
* `CaptureTask.Keeps`: what the shell has put into the file
* `CaptureTask.Copied`: what the copier has taken from its input
* `CaptureTask.Accounts`: where the bytes are

## Main results

* `accounts_start`: the accounts at the beginning
* `Accounts.drainStep`, `Accounts.copyStep`: each step of the shell and of the copier keeps them
* `exists_accounts`: the accounts of whatever a handover comes to
-/

namespace PipeShell

/-! ## One line of a text -/

namespace Heredoc

variable {delimiter : String} {body : Array UInt8} {n : Nat} {i rest : Input}

theorem copyOnto_of_failure {cause : Errno} (h : i.readLine none = (.error cause, rest)) :
    copyOnto delimiter body n i = ⟨body, n + 1, some cause, rest⟩ := by
  unfold copyOnto
  split <;> rename_i heq <;> cases h.symm.trans heq
  rfl

theorem copyOnto_of_ending {l : Line} (h : i.readLine none = (.ok l, rest))
    (hlast : l = .endOfInput ∨ l = .tooLong) :
    copyOnto delimiter body n i = ⟨body, n + 1, none, rest⟩ := by
  unfold copyOnto
  rcases hlast with rfl | rfl <;> split <;> rename_i heq <;> cases h.symm.trans heq <;> rfl

theorem copyOnto_of_delimiter {line : String} (h : i.readLine none = (.ok (.text line), rest))
    (hlast : Text.trim line = delimiter) :
    copyOnto delimiter body n i = ⟨body, n + 1, none, rest⟩ := by
  unfold copyOnto
  split <;> rename_i heq <;> cases h.symm.trans heq
  exact if_pos hlast

theorem copyOnto_of_line {line : String} (h : i.readLine none = (.ok (.text line), rest))
    (hother : Text.trim line ≠ delimiter) :
    copyOnto delimiter body n i =
      copyOnto delimiter (body ++ (kept line).toArray) (n + 1) rest := by
  conv => lhs; unfold copyOnto
  split <;> rename_i heq <;> cases h.symm.trans heq
  rw [if_neg hother]
  simp [kept]

end Heredoc

namespace Machine

open Handover (DrainStep CopyStep Step Reaches start)

/-! ## The ends that are left -/

namespace Drain

/-- The shell holds the reading end. -/
def reads : Drain → Bool
  | .closing | .making | .draining _ | .storing _ _ | .dropping _ => true
  | .rewinding _ | .awaiting _ | .done _ _ => false

/-- The shell holds the writing end. -/
def writes : Drain → Bool
  | .closing => true
  | _ => false

/-- The shell has met the end of the pipe. -/
def IsOver : Drain → Prop
  | .dropping _ | .rewinding _ | .awaiting _ | .done _ _ => True
  | .closing | .making | .draining _ | .storing _ _ => False

/-- What the shell has read and not yet put into the file. -/
def pending : Drain → Bytes
  | .storing _ bytes => bytes
  | _ => []

/-- How many things the shell has still to do, if nothing is to be read any more. -/
def phase : Drain → Nat
  | .closing => 7
  | .making => 6
  | .storing _ _ => 5
  | .draining _ => 4
  | .dropping _ => 3
  | .rewinding _ => 2
  | .awaiting _ => 1
  | .done _ _ => 0

/-- How far the shell is from the end where `buffer` waits in the pipe. A byte that is read is
nearer to the file, even where it takes a step of its own. -/
def distance (buffer : Bytes) (drain : Drain) : Nat :=
  3 * buffer.length + drain.pending.length + drain.phase

theorem reads_of_not_isOver {drain : Drain} (h : ¬ drain.IsOver) : drain.reads = true := by
  cases drain with
  | closing | making | draining | storing => rfl
  | dropping | rewinding | awaiting | done => exact absurd trivial h

end Drain

namespace Copier

/-- The copier holds the reading end. -/
def reads : Copier → Bool
  | .closing _ => true
  | _ => false

/-- The copier holds the writing end. -/
def writes : Copier → Bool
  | .leaving _ _ | .ended _ _ => false
  | _ => true

/-- What the copier is doing as a process. -/
def image : Copier → Image
  | .ended failure _ => .ended (exitOf failure)
  | _ => .running (.leave 0)

end Copier

namespace CaptureTask

/-- The copier as a process. -/
def process (t : CaptureTask) (copier : Copier) : Process where
  descriptors := match copier with
    | .ended _ _ => .none
    | copier => t.table copier.reads copier.writes
  cwd := t.cwd
  umask := t.initial.umask
  image := copier.image

section Holding

variable {t : CaptureTask} {m : Machine} {drain : Drain} {copier : Copier} {buffer : Bytes}

/-- Somebody can still write where the shell or the copier can. -/
theorem isHeld_writer_iff (ht : t.IsLaidOut)
    (h : t.Frame m (t.table drain.reads drain.writes) (t.process copier) buffer) :
    m.isHeld (.writer t.pipe) = true ↔ drain.writes = true ∨ copier.writes = true := by
  rw [h.isHeld_iff ht rfl, h.holds_writer_iff ht]
  refine or_congr_right ?_
  cases copier with
  | ended failure rest => exact ⟨fun ⟨⟨_, hrunning⟩, _⟩ => (nomatch hrunning), nofun⟩
  | _ =>
    exact ⟨fun ⟨_, hholds⟩ => (h.holds_writer_iff ht).mp hholds,
      fun hwrites => ⟨⟨_, rfl⟩, (h.holds_writer_iff ht).mpr hwrites⟩⟩

/-- Somebody can still read where the shell or the copier can. -/
theorem isHeld_reader_iff (ht : t.IsLaidOut)
    (h : t.Frame m (t.table drain.reads drain.writes) (t.process copier) buffer) :
    m.isHeld (.reader t.pipe) = true ↔ drain.reads = true ∨ copier.reads = true := by
  rw [h.isHeld_iff ht rfl, h.holds_reader_iff ht]
  refine or_congr_right ?_
  cases copier with
  | ended failure rest => exact ⟨fun ⟨⟨_, hrunning⟩, _⟩ => (nomatch hrunning), nofun⟩
  | _ =>
    exact ⟨fun ⟨_, hholds⟩ => (h.holds_reader_iff ht).mp hholds,
      fun hreads => ⟨⟨_, rfl⟩, (h.holds_reader_iff ht).mpr hreads⟩⟩

/-- Only a copier that has ended has an ending. -/
theorem ending?_pid_eq_some_iff
    (h : t.Frame m (t.table drain.reads drain.writes) (t.process copier) buffer)
    {status : ExitStatus} :
    m.ending? t.pid = some status ↔
      ∃ failure rest, copier = .ended failure rest ∧ status = exitOf failure := by
  unfold ending?
  rw [h.getElem?_processes]
  cases copier with
  | ended failure rest =>
    refine ⟨fun hstatus => ⟨failure, rest, rfl, (Option.some.inj hstatus).symm⟩, ?_⟩
    rintro ⟨_, _, hcopier, rfl⟩
    cases hcopier
    rfl
  | _ => exact ⟨nofun, fun ⟨_, _, hcopier, _⟩ => nomatch hcopier⟩

end Holding

/-! ## Accounts -/

/-- What the shell has put into the file. -/
def Keeps (t : CaptureTask) (m : Machine) (stored : Bytes) : Drain → Prop
  | .closing | .making => stored = []
  | .draining file | .storing file _ => t.IsStored m file stored stored.length
  | .dropping held | .rewinding held =>
    ∃ file, held = .ok file ∧ t.IsStored m file stored stored.length
  | .awaiting held | .done held _ => ∃ file, held = .ok file ∧ t.IsStored m file stored 0

/-- What the copier has taken from its input, having written `sent`. -/
def Copied (t : CaptureTask) (sent : Bytes) : Copier → Prop
  | .closing i | .prompting i | .reading i =>
    ∃ n, Heredoc.copyOnto t.delimiter sent.toArray n i = Heredoc.copy t.delimiter t.input
  | .passing left i =>
    ∃ n, Heredoc.copyOnto t.delimiter (sent ++ left).toArray n i = Heredoc.copy t.delimiter t.input
  | .complaining cause rest =>
    ∃ n, Heredoc.copy t.delimiter t.input = ⟨sent.toArray, n, some cause, rest⟩
  | .releasing failure rest | .leaving failure rest | .ended failure rest =>
    ∃ n, Heredoc.copy t.delimiter t.input = ⟨sent.toArray, n, failure, rest⟩

/-- Of what the copier has written, `stored` is in the file and `buffer` in the pipe. -/
structure Accounts (t : CaptureTask) (s : Handover) (stored buffer : Bytes) : Prop where
  frame : t.Frame s.machine (t.table s.drain.reads s.drain.writes) (t.process s.copier) buffer
  keeps : t.Keeps s.machine stored s.drain
  sent_eq : s.sent = stored ++ s.drain.pending ++ buffer
  isOver : s.drain.IsOver → buffer = [] ∧ s.copier.writes = false
  copied : t.Copied s.sent s.copier
  known : ∀ held status, s.drain = .done held status →
    ∃ failure rest, s.copier = .ended failure rest ∧ status = exitOf failure

variable {t : CaptureTask} {s s' : Handover} {stored buffer : Bytes}

/-- The pipe has been made, and nobody has done anything yet. -/
theorem frame_start (ht : t.IsLaidOut) :
    t.Frame (start t).machine (t.table true true) (t.process (.closing t.input)) [] := by
  have htable : (t.initial.openPipe.2.descriptors.place t.reader t.initial.openPipe.1.1).place
      t.writer t.initial.openPipe.1.2 = t.table true true := by
    rw [fst_openPipe]
    exact place_eq_table ht
  have hgrows := Grows.openPipe t.initial
  have hsize := size_files_openPipe t.initial
  unfold start
  simp only [htable]
  exact {
    reader_eq := by simp [addProcess, openPipe, addFile, readerFile, pipe, Array.getElem_push]
    writer_eq := by simp [addProcess, openPipe, addFile, writerFile, pipe, Array.getElem_push]
    size_files := by simp [addProcess, hsize, writerFile]
    buffer_eq := by simp [addProcess, openPipe, addFile, pipe]
    capacity_eq := rfl
    descriptors_eq := rfl
    processes_eq := rfl
    target?_eq := hgrows.target?_eq
    nodes_le := Nat.le_refl _
    shape := ⟨.refl _, rfl⟩ }

theorem accounts_start (ht : t.IsLaidOut) : t.Accounts (start t) [] [] where
  frame := frame_start ht
  keeps := rfl
  sent_eq := rfl
  isOver := nofun
  copied := ⟨0, rfl⟩
  known := nofun

/-! ## Steps of the shell -/

namespace Accounts

/-- What the shell wants to read is not there yet, or will never be, or is taken from the pipe. -/
theorem readChunk_cases (ht : t.IsLaidOut) (h : t.Accounts s stored buffer)
    {file source count : Nat}
    (hdrain : s.drain = .draining file)
    (hsource : s.machine.descriptors.get? t.reader = some source) (hcount : 0 < count) :
    (buffer = [] ∧ s.copier.writes = true ∧
        s.machine.readChunk source count false = (.waiting, s.machine)) ∨
      (buffer = [] ∧ s.copier.writes = false ∧
        s.machine.readChunk source count false = (.ending, s.machine)) ∨
      ∃ f, buffer ≠ [] ∧ f buffer.toArray = (buffer.drop count).toArray ∧
        s.machine.readChunk source count false = (.bytes (buffer.take count),
          { s.machine with pipes := s.machine.pipes.modify t.pipe f }) := by
  have hframe := h.frame
  rw [hframe.descriptors_eq, hdrain] at hsource
  obtain rfl : t.readerFile = source :=
    Option.some.inj ((get?_reader_table ht false).symm.trans hsource)
  by_cases hbuffer : buffer = []
  · -- Whether there will be more is up to who holds the writing end, and only the copier may.
    subst hbuffer
    have hread := hframe.readChunk_nil count
    have hheld := isHeld_writer_iff ht hframe
    rw [hdrain] at hheld
    cases hwrites : s.copier.writes with
    | true =>
      rw [if_pos (hheld.mpr (.inr hwrites))] at hread
      exact .inl ⟨rfl, rfl, hread⟩
    | false =>
      have hnobody : ¬ s.machine.isHeld (.writer t.pipe) = true := by
        rw [hheld, hwrites]
        exact fun h => h.elim nofun nofun
      rw [if_neg hnobody] at hread
      exact .inr (.inl ⟨rfl, rfl, hread⟩)
  · obtain ⟨f, hread, hf⟩ := hframe.readChunk_of_ne_nil hbuffer hcount
    exact .inr (.inr ⟨f, hbuffer, hf, hread⟩)

/-- The shell takes bytes from the pipe. -/
theorem read (h : t.Accounts s stored buffer) {file : Nat} (hdrain : s.drain = .draining file)
    (count : Nat) {f : Array UInt8 → Array UInt8}
    (hf : f buffer.toArray = (buffer.drop count).toArray) :
    t.Accounts ⟨{ s.machine with pipes := s.machine.pipes.modify t.pipe f },
      .storing file (buffer.take count), s.copier, s.sent⟩ stored (buffer.drop count) := by
  obtain ⟨m, drain, copier, sent⟩ := s
  cases hdrain
  obtain ⟨frame, keeps, sent_eq, -, copied, -⟩ := h
  have hframe := frame.modifyPipe f
  rw [hf] at hframe
  refine ⟨hframe, keeps, ?_, nofun, copied, nofun⟩
  simpa [Drain.pending] using sent_eq

/-- The shell puts bytes into the file. -/
theorem store (h : t.Accounts s stored buffer) {file : Nat} {bytes : Bytes}
    (hdrain : s.drain = .storing file bytes) (count : Nat) :
    (s.machine.writeChunk file (bytes.take count)).1 = .all ∧
      t.Accounts ⟨(s.machine.writeChunk file (bytes.take count)).2, .storing file
        (bytes.drop count),
        s.copier, s.sent⟩ (stored ++ bytes.take count) buffer := by
  obtain ⟨m, drain, copier, sent⟩ := s
  cases hdrain
  obtain ⟨frame, keeps, sent_eq, -, copied, -⟩ := h
  have hstored := IsStored.writeChunk keeps (bytes.take count)
  refine ⟨hstored.1, frame.writeStored keeps _, hstored.2, ?_, nofun, copied, nofun⟩
  simpa [Drain.pending] using sent_eq

/-- **A step of the shell** keeps the accounts and brings the shell nearer to the end. -/
theorem drainStep (ht : t.IsReady) (h : t.Accounts s stored buffer) (hstep : DrainStep t s s') :
    ∃ stored' buffer', t.Accounts s' stored' buffer' ∧
      s'.drain.distance buffer' < s.drain.distance buffer := by
  obtain ⟨m, drain, copier, sent⟩ := s
  obtain ⟨frame, keeps, sent_eq, isOver, copied, known⟩ := id h
  cases hstep with
  | close hdrain =>
    cases hdrain
    have hdrop : m.descriptors.drop t.writer = t.table true false := by
      rw [frame.descriptors_eq]
      exact drop_writer_table ht.toIsLaidOut true true
    refine ⟨stored, buffer, ⟨?_, keeps, sent_eq, nofun, copied, nofun⟩, Nat.lt_succ_self _⟩
    rw [hdrop]
    exact frame.setDescriptors _
  | make hdrain hroom =>
    cases hdrain
    cases keeps
    refine ⟨[], buffer, ⟨frame.openNameless, frame.isStored_openNameless, sent_eq, nofun, copied,
      nofun⟩, ?_⟩
    simp [Drain.distance, Drain.pending, Drain.phase]
  | noFile hdrain hfault =>
    -- A temporary file could be made at the beginning, and nothing has happened to its directory.
    rw [frame.shape.temporaryFault?_eq, ht.room] at hfault
    cases hfault
  | @read file source count bytes m' hdrain hsource hcount hread =>
    rcases h.readChunk_cases ht.toIsLaidOut hdrain hsource hcount with
      ⟨-, -, heq⟩ | ⟨-, -, heq⟩ | ⟨f, hbuffer, hf, heq⟩ <;> cases heq.symm.trans hread
    refine ⟨stored, _, h.read hdrain count hf, ?_⟩
    cases hdrain
    have hlength : 0 < buffer.length := List.length_pos_iff.mpr hbuffer
    simp only [Drain.distance, Drain.pending, Drain.phase, List.length_drop, List.length_take,
      List.length_nil]
    omega
  | drained hdrain hsource hcount hread =>
    rcases h.readChunk_cases ht.toIsLaidOut hdrain hsource hcount with
      ⟨-, -, heq⟩ | ⟨hbuffer, hwrites, heq⟩ | ⟨f, -, -, heq⟩ <;> cases heq.symm.trans hread
    cases hdrain
    exact ⟨stored, buffer, ⟨frame, ⟨_, rfl, keeps⟩, sent_eq, fun _ => ⟨hbuffer, hwrites⟩, copied,
      nofun⟩, Nat.lt_succ_self _⟩
  | noRead hdrain hsource hcount hread =>
    -- Reading from the pipe does not fail.
    rcases h.readChunk_cases ht.toIsLaidOut hdrain hsource hcount with
      ⟨-, -, heq⟩ | ⟨-, -, heq⟩ | ⟨f, -, -, heq⟩ <;> cases heq.symm.trans hread
  | @store file count bytes m' hdrain hbytes hcount hwrite =>
    have haccounts := (h.store hdrain count).2
    rw [hwrite] at haccounts
    refine ⟨_, buffer, haccounts, ?_⟩
    cases hdrain
    have hlength : 0 < bytes.length := List.length_pos_iff.mpr hbytes
    simp only [Drain.distance, Drain.pending, Drain.phase, List.length_drop]
    omega
  | @noStore file count bytes cause m' hdrain hbytes hcount hwrite =>
    -- Nor does writing to the file.
    have hall := (h.store hdrain count).1
    rw [hwrite] at hall
    cases hall
  | stored hdrain =>
    cases hdrain
    exact ⟨stored, buffer, ⟨frame, keeps, sent_eq, nofun, copied, nofun⟩, Nat.lt_succ_self _⟩
  | drop hdrain =>
    cases hdrain
    have hdrop : m.descriptors.drop t.reader = t.table false false := by
      rw [frame.descriptors_eq]
      exact drop_reader_table ht.toIsLaidOut true false
    refine ⟨stored, buffer, ⟨?_, keeps, sent_eq, isOver, copied, nofun⟩, Nat.lt_succ_self _⟩
    rw [hdrop]
    exact frame.setDescriptors _
  | rewind hdrain =>
    cases hdrain
    obtain ⟨_, hfile, hstored⟩ := keeps
    cases hfile
    exact ⟨stored, buffer, ⟨frame.seek hstored.writerFile_lt 0, ⟨_, rfl, hstored.seek 0⟩, sent_eq,
      isOver, copied, nofun⟩, Nat.lt_succ_self _⟩
  | noRewind hdrain =>
    -- So the shell has the file when it has met the end.
    cases hdrain
    obtain ⟨_, hfile, -⟩ := keeps
    cases hfile
  | await hdrain hending =>
    cases hdrain
    refine ⟨stored, buffer, ⟨frame, keeps, sent_eq, isOver, copied, fun held status hdone => ?_⟩,
      Nat.lt_succ_self _⟩
    cases hdone
    exact (ending?_pid_eq_some_iff frame).mp hending

/-! ## Steps of the copier -/

/-- The file is left alone by what the copier says. -/
theorem keeps_complain (ht : t.IsLaidOut) (h : t.Accounts s stored buffer) (text : String) :
    t.Keeps (s.machine.complain text) stored s.drain := by
  have hstored : ∀ file offset, t.IsStored s.machine file stored offset →
      t.IsStored (s.machine.complain text) file stored offset :=
    fun file offset => h.frame.isStored_complain ht text
  have hkeeps := h.keeps
  cases hdrain : s.drain with
  | closing | making =>
    rw [hdrain] at hkeeps
    exact hkeeps
  | draining | storing =>
    rw [hdrain] at hkeeps
    exact hstored _ _ hkeeps
  | dropping | rewinding | awaiting | done =>
    rw [hdrain] at hkeeps
    obtain ⟨file, hfile, hkept⟩ := hkeeps
    exact ⟨file, hfile, hstored _ _ hkept⟩

/-- As long as the copier can write, the shell has not met the end of the pipe. -/
theorem not_isOver (h : t.Accounts s stored buffer) (hwrites : s.copier.writes = true) :
    ¬ s.drain.IsOver := by
  intro hover
  have hleft := (h.isOver hover).2
  rw [hwrites] at hleft
  cases hleft

theorem ne_done (h : t.Accounts s stored buffer) (hwrites : s.copier.writes = true)
    (held : Except Errno Nat) (status : ExitStatus) : s.drain ≠ .done held status := by
  intro hdone
  refine h.not_isOver hwrites ?_
  rw [hdone]
  trivial

/-- The end of the pipe that the copier writes to, which the shell still reads. -/
theorem sink_eq (ht : t.IsLaidOut) (h : t.Accounts s stored buffer) {left : Bytes} {i : Input}
    {p : Process} {sink : Nat} (hcopier : s.copier = .passing left i)
    (hprocess : s.machine.processes[t.pid]? = some p)
    (hsink : p.descriptors.get? t.writer = some sink) :
    sink = t.writerFile ∧ s.machine.isHeld (.reader t.pipe) = true := by
  have hwrites : s.copier.writes = true := by
    rw [hcopier]
    rfl
  refine ⟨?_, (isHeld_reader_iff ht h.frame).mpr
    (.inl (Drain.reads_of_not_isOver (h.not_isOver hwrites)))⟩
  cases h.frame.getElem?_processes.symm.trans hprocess
  rw [hcopier] at hsink
  exact (Option.some.inj ((get?_writer_table false).symm.trans hsink)).symm

/-- What the copier wants to write waits, or is all written, or is written as far as there is room.
-/
theorem writesChunk (ht : t.IsLaidOut) (h : t.Accounts s stored buffer) {left : Bytes}
    {i : Input} {p : Process} {sink count : Nat} (hcopier : s.copier = .passing left i)
    (hleft : left ≠ [])
    (hprocess : s.machine.processes[t.pid]? = some p)
    (hsink : p.descriptors.get? t.writer = some sink) (hcount : 0 < count) :
    t.WritesChunk s.machine sink buffer (left.take count) := by
  obtain ⟨rfl, hheld⟩ := h.sink_eq ht hcopier hprocess hsink
  have hbytes : left.take count ≠ [] := by
    simpa [List.take_eq_nil_iff, hleft] using Nat.ne_of_gt hcount
  exact h.frame.writesChunk hheld hbytes

/-- A step of the copier that leaves the pipe and the file alone. -/
theorem advance (h : t.Accounts s stored buffer) (hwrites : s.copier.writes = true) {m : Machine}
    {copier : Copier}
    (hframe : t.Frame m (t.table s.drain.reads s.drain.writes) (t.process copier) buffer)
    (hkeeps : t.Keeps m stored s.drain) (hcopied : t.Copied s.sent copier) :
    t.Accounts { s with machine := m, copier } stored buffer where
  frame := hframe
  keeps := hkeeps
  sent_eq := h.sent_eq
  isOver hover := absurd hover (h.not_isOver hwrites)
  copied := hcopied
  known held status hdone := absurd hdone (h.ne_done hwrites held status)

/-- A step of the copier that writes to the pipe. -/
theorem pass (h : t.Accounts s stored buffer) {left taken later : Bytes} {i : Input}
    (hcopier : s.copier = .passing left i) (hleft : left = taken ++ later)
    {f : Array UInt8 → Array UInt8} (hf : f buffer.toArray = (buffer ++ taken).toArray) :
    t.Accounts ⟨{ s.machine with pipes := s.machine.pipes.modify t.pipe f }, s.drain,
      .passing later i, s.sent ++ taken⟩ stored (buffer ++ taken) := by
  obtain ⟨m, drain, copier, sent⟩ := s
  cases hcopier
  obtain ⟨frame, keeps, sent_eq, -, copied, -⟩ := id h
  have hframe := frame.modifyPipe f
  rw [hf] at hframe
  refine ⟨hframe, ?_, ?_, fun hover => absurd hover (h.not_isOver rfl), ?_,
    fun held status hdone => absurd hdone (h.ne_done rfl held status)⟩
  · cases drain <;> exact keeps
  · show sent ++ taken = stored ++ drain.pending ++ (buffer ++ taken)
    rw [← List.append_assoc, ← sent_eq]
  · obtain ⟨n, hcopy⟩ := copied
    refine ⟨n, ?_⟩
    rw [List.append_assoc, ← hleft]
    exact hcopy

/-- **A step of the copier** keeps the accounts. -/
theorem copyStep (ht : t.IsLaidOut) (h : t.Accounts s stored buffer) (hstep : CopyStep t s s') :
    ∃ buffer', t.Accounts s' stored buffer' := by
  obtain ⟨m, drain, copier, sent⟩ := s
  obtain ⟨frame, keeps, sent_eq, isOver, copied, known⟩ := id h
  cases hstep with
  | @close i p hcopier hprocess =>
    cases hcopier
    cases frame.getElem?_processes.symm.trans hprocess
    have hdrop : (t.process (.closing i)).descriptors.drop t.reader = t.table false true :=
      drop_reader_table ht true true
    refine ⟨buffer, h.advance rfl ?_ keeps copied⟩
    rw [hdrop]
    exact frame.modifyProcess _
  | prompt hcopier =>
    cases hcopier
    exact ⟨buffer, h.advance rfl (frame.complain ht _) (h.keeps_complain ht _) copied⟩
  | line hcopier hline hother =>
    cases hcopier
    obtain ⟨n, hcopy⟩ := copied
    refine ⟨buffer, h.advance rfl frame keeps ⟨n + 1, ?_⟩⟩
    rw [← hcopy, Heredoc.copyOnto_of_line hline hother]
    simp [Heredoc.kept]
  | delimiter hcopier hline hlast =>
    cases hcopier
    obtain ⟨n, hcopy⟩ := copied
    rw [Heredoc.copyOnto_of_delimiter hline hlast] at hcopy
    exact ⟨buffer, h.advance rfl frame keeps ⟨_, hcopy.symm⟩⟩
  | ending hcopier hline hlast =>
    cases hcopier
    obtain ⟨n, hcopy⟩ := copied
    rw [Heredoc.copyOnto_of_ending hline hlast] at hcopy
    exact ⟨buffer, h.advance rfl frame keeps ⟨_, hcopy.symm⟩⟩
  | noLine hcopier hline =>
    cases hcopier
    obtain ⟨n, hcopy⟩ := copied
    rw [Heredoc.copyOnto_of_failure hline] at hcopy
    exact ⟨buffer, h.advance rfl frame keeps ⟨_, hcopy.symm⟩⟩
  | pass hcopier hleft hprocess hsink hcount hwrite =>
    obtain ⟨f, -, hf, rfl⟩ :=
      (h.writesChunk ht hcopier hleft hprocess hsink hcount).of_all hwrite
    exact ⟨_, h.pass hcopier (List.take_append_drop _ _).symm hf⟩
  | passPart hcopier hleft hprocess hsink hcount hwrite =>
    obtain ⟨f, htake, -, hf, rfl⟩ :=
      (h.writesChunk ht hcopier hleft hprocess hsink hcount).of_part hwrite
    refine ⟨_, h.pass hcopier ?_ hf⟩
    rw [← List.append_assoc, ← htake, List.take_append_drop]
  | broken hcopier hleft hprocess hsink hcount hwrite =>
    -- The shell still reads, so writing is not broken off, and it does not fail either.
    have hwrites := h.writesChunk ht hcopier hleft hprocess hsink hcount
    exact absurd (congrArg Prod.fst hwrite) hwrites.not_lost.1
  | noPass hcopier hleft hprocess hsink hcount hwrite =>
    have hwrites := h.writesChunk ht hcopier hleft hprocess hsink hcount
    exact absurd (congrArg Prod.fst hwrite) (hwrites.not_lost.2 _)
  | passed hcopier =>
    cases hcopier
    rw [Copied, List.append_nil] at copied
    exact ⟨buffer, h.advance rfl frame keeps copied⟩
  | complain hcopier =>
    cases hcopier
    exact ⟨buffer, h.advance rfl (frame.complain ht _) (h.keeps_complain ht _) copied⟩
  | @release failure rest p hcopier hprocess =>
    cases hcopier
    cases frame.getElem?_processes.symm.trans hprocess
    have hdrop : (t.process (.releasing failure rest)).descriptors.drop t.writer =
        t.table false false :=
      drop_writer_table ht false true
    refine ⟨buffer, h.advance rfl ?_ keeps copied⟩
    rw [hdrop]
    exact frame.modifyProcess _
  | leave hcopier =>
    cases hcopier
    refine ⟨buffer, ⟨frame.modifyProcess _, keeps, sent_eq, isOver, copied,
      fun held status hdone => ?_⟩⟩
    obtain ⟨_, _, hended, -⟩ := known held status hdone
    cases hended

/-- **A step of either** keeps the accounts. -/
theorem step (ht : t.IsReady) (h : t.Accounts s stored buffer) (hstep : Step t s s') :
    ∃ stored' buffer', t.Accounts s' stored' buffer' := by
  rcases hstep with hdrain | hcopy
  · obtain ⟨stored', buffer', haccounts, -⟩ := h.drainStep ht hdrain
    exact ⟨stored', buffer', haccounts⟩
  · exact ⟨stored, h.copyStep ht.toIsLaidOut hcopy⟩

end Accounts

/-! ## Runs -/

/-- **Whatever a handover comes to**, the bytes that the copier has written are where they are
expected. -/
theorem exists_accounts (ht : t.IsReady) (h : Reaches t s) :
    ∃ stored buffer, t.Accounts s stored buffer := by
  induction h with
  | refl => exact ⟨[], [], accounts_start ht.toIsLaidOut⟩
  | tail _ hstep ih =>
    obtain ⟨stored, buffer, haccounts⟩ := ih
    exact haccounts.step ht hstep

end CaptureTask

end Machine

end PipeShell
