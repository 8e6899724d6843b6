import PipeShell.Machine.Schedule
import PipeShell.Proofs.Machine.Growth

/-!
# What one process can do to the others

A step of a process changes the table of that process alone. The processes that it starts begin with
its table, and those that it ends let go of theirs. What a table has in it afterwards it had before,
or it has been opened by the step, or it is a captured text that the process was given.

A step that sends no signal and starts no child changes no other process at all.

## Main definitions

* `MayGet`: an open file that a process may have after a step
* `Acts pid`: what a process does that sends no signal and starts no child
* `Confined pid`: one machine comes from another by what the process `pid` may do

## Main results

* `acts_meet`: whatever a process asks for, it acts, unless it sends a signal
* `confined_step`: what a step does is confined to the process that takes it
-/

namespace PipeShell.Machine

/-- An open file that a process may have after a step: one that it had, one of the given texts, or
one that is new. -/
def MayGet (texts : List Nat) (p : Process) (m m' : Machine) (file : Nat) : Prop :=
  file ∈ p.descriptors.files ∨ file ∈ texts ∨ (m.files.size ≤ file ∧ file < m'.files.size)

/-- One machine comes from another by what the process `pid` may do: the tables of the others are as
they were, and in its own and those of its children there is nothing but what it may get. -/
structure Confined (pid : Nat) (texts : List Nat) (m m' : Machine) : Prop extends Extends m m' where
  size_processes_le : m.processes.size ≤ m'.processes.size
  stems : ∀ (other : Nat) (p' : Process), m'.processes[other]? = some p' → p'.IsRunning →
    (other ≠ pid ∧ ∃ p, m.processes[other]? = some p ∧ p.IsRunning ∧
      p'.descriptors = p.descriptors) ∨
    ((other = pid ∨ m.processes.size ≤ other) ∧
      ∃ p, m.processes[pid]? = some p ∧ p.IsRunning ∧
        ∀ file ∈ p'.descriptors.files, MayGet texts p m m' file)

/-- What a process had before it may have afterwards, too. -/
theorem MayGet.of_mem {texts : List Nat} {p : Process} {m m' : Machine} {file : Nat}
    (h : file ∈ p.descriptors.files) : MayGet texts p m m' file := .inl h

/-- More files being new makes no difference. -/
theorem MayGet.mono {texts : List Nat} {p : Process} {m m₁ m' : Machine} {file : Nat}
    (h : MayGet texts p m m₁ file) (hle : m₁.files.size ≤ m'.files.size) :
    MayGet texts p m m' file :=
  h.imp_right (.imp_right fun hnew => ⟨hnew.1, Nat.lt_of_lt_of_le hnew.2 hle⟩)

/-- The processes do not matter to what files and pipes there are. -/
theorem Extends.setProcesses {m m' : Machine} (h : m.Extends m') (processes : Array Process) :
    m.Extends { m' with processes } :=
  ⟨h.descriptors_eq, h.capacity_eq, h.size_files_le, h.target?_eq, h.size_pipes_le, h.led⟩

theorem modify_modify (ps : Array Process) (pid : Nat) (f g : Process → Process) :
    (ps.modify pid f).modify pid g = ps.modify pid fun p => g (f p) := by
  refine Array.ext_getElem? fun i => ?_
  simp only [Array.getElem?_modify]
  split
  · cases ps[i]? <;> rfl
  · rfl

theorem modifyProcess_modifyProcess (m : Machine) (pid : Nat) (f g : Process → Process) :
    (m.modifyProcess pid f).modifyProcess pid g = m.modifyProcess pid fun p => g (f p) :=
  congrArg (fun processes => { m with processes }) (modify_modify m.processes pid f g)

/-- What a process does that sends no signal and starts no child: files and pipes may change, and of
the processes only itself, in whose table there is then nothing but what it may get. -/
def Acts (pid : Nat) (texts : List Nat) (p : Process) (m m' : Machine) : Prop :=
  ∃ (m₁ : Machine) (g : Process → Process), m.Grows m₁ ∧
    (∀ file ∈ (g p).descriptors.files, MayGet texts p m m₁ file) ∧ m' = m₁.modifyProcess pid g

namespace Acts

variable {m m₁ : Machine} {pid : Nat} {texts : List Nat} {p : Process}

theorem resume (h : m.Grows m₁) (program : Program) : Acts pid texts p m (m₁.resume pid program) :=
  ⟨m₁, _, h, fun _ hfile => .of_mem hfile, rfl⟩

theorem finish (h : m.Grows m₁) (status : ExitStatus) : Acts pid texts p m (m₁.finish pid status) :=
  ⟨m₁, _, h, fun _ hfile => by simp [Descriptors.files, Descriptors.none] at hfile, rfl⟩

theorem modifyProcess (h : m.Grows m₁) (f : Process → Process)
    (hf : (f p).descriptors = p.descriptors) (program : Program) :
    Acts pid texts p m ((m₁.modifyProcess pid f).resume pid program) :=
  ⟨m₁, fun p => { f p with image := .running program }, h, fun _ hfile => .of_mem (hf ▸ hfile),
    modifyProcess_modifyProcess m₁ pid f _⟩

theorem setDescriptors (h : m.Grows m₁) {d : Descriptors}
    (hfiles : ∀ file ∈ d.files, MayGet texts p m m₁ file) (program : Program) :
    Acts pid texts p m ((m₁.setDescriptors pid d).resume pid program) :=
  ⟨m₁, _, h, hfiles, modifyProcess_modifyProcess m₁ pid (fun p => { p with descriptors := d }) _⟩

end Acts

namespace Confined

variable {m m' m₁ : Machine} {pid : Nat} {texts : List Nat} {p : Process}

/-- Where every process that runs has run before with the same table. -/
theorem of_quiet (h : m.Extends m') (hsize : m'.processes.size = m.processes.size)
    (hquiet : ∀ (other : Nat) (p' : Process), m'.processes[other]? = some p' → p'.IsRunning →
      ∃ p, m.processes[other]? = some p ∧ p.IsRunning ∧ p'.descriptors = p.descriptors) :
    Confined pid texts m m' where
  toExtends := h
  size_processes_le := Nat.le_of_eq hsize.symm
  stems other p' hp' hrunning := by
    obtain ⟨p, hp, hrun, hd⟩ := hquiet other p' hp' hrunning
    by_cases hother : other = pid
    · subst hother
      exact .inr ⟨.inl rfl, p, hp, hrun, fun file hfile => .of_mem (hd ▸ hfile)⟩
    · exact .inl ⟨hother, p, hp, hrun, hd⟩

/-- Where the process has changed, and nothing in its table but what it may get. -/
theorem of_modify (h : m.Grows m₁) (hp : m.processes[pid]? = some p) (hrun : p.IsRunning)
    (g : Process → Process)
    (hfiles : ∀ file ∈ (g p).descriptors.files, MayGet texts p m m₁ file) :
    Confined pid texts m { m₁ with processes := m₁.processes.modify pid g } where
  toExtends := h.toExtends.setProcesses _
  size_processes_le := by simp [h.processes_eq]
  stems other p' hp' hrunning := by
    rw [h.processes_eq, Array.getElem?_modify] at hp'
    by_cases hother : pid = other
    · subst hother
      rw [if_pos rfl, hp] at hp'
      cases hp'
      exact .inr ⟨.inl rfl, p, hp, hrun, hfiles⟩
    · rw [if_neg hother] at hp'
      exact .inl ⟨fun h => hother h.symm, p', hp', hrunning, rfl⟩

/-- Where the process has acted. -/
theorem of_acts (h : Acts pid texts p m m') (hp : m.processes[pid]? = some p)
    (hrun : p.IsRunning) : Confined pid texts m m' := by
  obtain ⟨m₁, g, hgrows, hfiles, rfl⟩ := h
  exact of_modify hgrows hp hrun g hfiles

theorem trans (h : Confined pid texts m m₁) (h' : Confined pid texts m₁ m') :
    Confined pid texts m m' where
  toExtends := h.toExtends.trans h'.toExtends
  size_processes_le := Nat.le_trans h.size_processes_le h'.size_processes_le
  stems other p' hp' hrunning := by
    have hle := h'.size_files_le
    rcases h'.stems other p' hp' hrunning with
      ⟨hne, p₁, hp₁, hrun₁, hd⟩ | ⟨hother, p₁, hp₁, hrun₁, hfiles⟩
    · -- The process is not the one that acts, but it may be one of its new children.
      rcases h.stems other p₁ hp₁ hrun₁ with ⟨-, p, hp, hrun, hd'⟩ | ⟨hchild, p, hp, hrun, hfiles⟩
      · exact .inl ⟨hne, p, hp, hrun, hd.trans hd'⟩
      · exact .inr ⟨hchild, p, hp, hrun, fun file hfile => (hfiles file (hd ▸ hfile)).mono hle⟩
    · rcases h.stems pid p₁ hp₁ hrun₁ with ⟨hne, -⟩ | ⟨-, p, hp, hrun, hfiles'⟩
      · exact absurd rfl hne
      · refine .inr ⟨hother.imp_right (Nat.le_trans h.size_processes_le), p, hp, hrun, ?_⟩
        intro file hfile
        rcases hfiles file hfile with hold | htext | ⟨hfrom, hlt⟩
        · exact (hfiles' file hold).mono hle
        · exact .inr (.inl htext)
        · exact .inr (.inr ⟨Nat.le_trans h.size_files_le hfrom, hlt⟩)

/-- Where a process has changed, but its table only if it has ended. -/
theorem of_modify_other (m : Machine) (other : Nat) (g : Process → Process)
    (hg : ∀ p, (g p).IsRunning → p.IsRunning ∧ (g p).descriptors = p.descriptors) :
    Confined pid texts m { m with processes := m.processes.modify other g } := by
  refine of_quiet ((Extends.refl m).setProcesses _) Array.size_modify fun n p' hp' hrun' => ?_
  rw [Array.getElem?_modify] at hp'
  split at hp'
  · obtain ⟨p, hp, rfl⟩ := Option.map_eq_some_iff.mp hp'
    exact ⟨p, hp, hg p hrun'⟩
  · exact ⟨p', hp', hrun', rfl⟩

/-- A signal ends a process or is taken note of; it changes no table of a process that goes on. -/
theorem sendSignal (m : Machine) (receiver signal : Nat) :
    Confined pid texts m (m.sendSignal receiver signal).2 := by
  have hsame : Confined pid texts m m :=
    of_quiet (.refl m) rfl fun _ p hp hrun => ⟨p, hp, hrun, rfl⟩
  unfold Machine.sendSignal
  split
  · exact hsame
  split
  · exact hsame
  split
  · exact hsame
  split
  · exact of_modify_other m receiver _ fun p hrun => ⟨hrun, rfl⟩
  split
  · exact hsame
  · exact of_modify_other m receiver _ fun p ⟨program, himage⟩ => by cases himage

/-- A child begins with the table of its parent. -/
theorem fork (hp : m.processes[pid]? = some p) (hrun : p.IsRunning) (child : Process)
    (hchild : child.descriptors = p.descriptors) : Confined pid texts m (m.addProcess child).2 where
  toExtends := (Extends.refl m).setProcesses _
  size_processes_le := by simp [addProcess]
  stems other p' hp' hrunning := by
    simp only [addProcess, Array.getElem?_push] at hp'
    split at hp'
    · rename_i hother
      cases hp'
      exact .inr ⟨.inr (Nat.le_of_eq hother.symm), p, hp, hrun, fun file hfile =>
        .of_mem (hchild ▸ hfile)⟩
    · by_cases hother : other = pid
      · subst hother
        exact .inr ⟨.inl rfl, p', hp', hrunning, fun _ hfile => .of_mem hfile⟩
      · exact .inl ⟨hother, p', hp', hrunning, rfl⟩

end Confined

/-! ## Requests -/

theorem Descriptors.mem_files_of_place {d : Descriptors} {source file fd other : Nat}
    (hsource : d.get? source = some file) (h : other ∈ (d.place fd file).files) :
    other ∈ d.files := by
  rcases mem_files_place h with rfl | hold
  · exact mem_files_of_get? hsource
  · exact hold

@[simp] theorem descriptors_dispose (signal : Nat) (disposition : Disposition) (p : Process) :
    (dispose signal disposition p).descriptors = p.descriptors := by
  cases disposition <;> rfl

theorem Grows.seekFd (m : Machine) (p : Process) (fd offset : Nat) :
    m.Grows (m.seekFd p fd offset).2 := by
  unfold Machine.seekFd
  split
  · exact refl m
  split
  · dsimp only
    split
    · exact seek m _ _
    · exact refl m
  · exact refl m

/-- A process that has agreed on something else is spared by the signal for a missing reader: it
goes on, and at most takes note of the signal. -/
theorem sendSignal_of_spared {m : Machine} {pid : Nat} {p : Process}
    (hp : m.processes[pid]? = some p) (hspared : (p.ignored.contains brokenPipeSignal ||
      p.caught.contains brokenPipeSignal) = true) :
    (m.sendSignal pid brokenPipeSignal).2 = m ∨
      ∃ f : Process → Process, (∀ q, (f q).descriptors = q.descriptors) ∧
        (m.sendSignal pid brokenPipeSignal).2 = m.modifyProcess pid f := by
  unfold sendSignal
  rw [hp]
  dsimp only
  split
  · exact .inl rfl
  split
  · exact .inl rfl
  split
  · exact .inr ⟨fun p => { p with noted := p.noted ++ [brokenPipeSignal] }, fun _ => rfl, rfl⟩
  rename_i hcaught
  split
  · exact .inl rfl
  · rename_i hignored
    -- It would be ended only if it had agreed on nothing.
    simp only [brokenPipeSignal, killSignal] at hspared hcaught hignored
    simp_all

section Requests

variable {m m' : Machine} {pid : Nat} {p : Process}

theorem acts_stepRead {fd count : Nat} {next : Except Errno Bytes → Program}
    (h : stepRead m pid p fd count next = some m') : Acts pid [] p m m' := by
  unfold stepRead at h
  split at h
  · cases h
    exact .resume (.refl m) _
  · rename_i file _
    have hgrows := Grows.readChunk m file count false
    split at h
    case h_3 => cases h
    all_goals
      rename_i heq
      rw [heq] at hgrows
      cases h
      exact .resume hgrows _

theorem acts_stepLine {fd : Nat} {held : Bytes} {next : Except Errno Bytes → Program}
    (h : stepLine m pid p fd held next = some m') : Acts pid [] p m m' := by
  unfold stepLine at h
  split at h
  · cases h
    exact .resume (.refl m) _
  · rename_i file _
    have hgrows := Grows.readChunk m file lineChunk true
    split at h
    case h_1 =>
      rename_i heq
      rw [heq] at hgrows
      split at h
      · cases h
        exact .resume hgrows _
      · cases h
        exact .resume hgrows _
    case h_3 => cases h
    all_goals
      rename_i heq
      rw [heq] at hgrows
      cases h
      exact .resume hgrows _

theorem acts_stepWrite (hp : m.processes[pid]? = some p) {fd : Nat} {bytes : Bytes}
    {next : Except Errno Unit → Program}
    (h : stepWrite m pid p fd bytes next = some m') : Acts pid [] p m m' := by
  unfold stepWrite at h
  split at h
  · cases h
    exact .resume (.refl m) _
  · rename_i file _
    have hgrows := Grows.writeChunk m file bytes
    split at h
    case h_3 => cases h
    case h_4 =>
      rename_i m₁ heq
      rw [heq] at hgrows
      split at h
      · rename_i hspared
        cases h
        obtain hsame | ⟨f, hf, hnoted⟩ := sendSignal_of_spared (m := m₁)
          (by rw [hgrows.processes_eq]; exact hp) hspared
        · rw [hsame]
          exact .resume hgrows _
        · rw [hnoted]
          exact .modifyProcess hgrows f (hf p) _
      · cases h
        exact .finish hgrows _
    all_goals
      rename_i heq
      rw [heq] at hgrows
      cases h
      exact .resume hgrows _

theorem acts_openFile {path : String} {access : Access} {mode : Nat}
    {next : Except Errno Nat → Program}
    (h : m.meet pid p (.openFile path access mode) next = some m') : Acts pid [] p m m' := by
  have hopen := Grows.openPath m p.descriptors p.cwd path access (FileTree.masked p.umask mode)
  simp only [meet] at h
  split at h
  · rename_i heq
    rw [heq] at hopen
    cases h
    exact .resume hopen.1 _
  · rename_i file m₁ heq
    rw [heq] at hopen
    cases h
    refine .setDescriptors hopen.1 (fun other hother => ?_) _
    rcases Descriptors.mem_files_place hother with rfl | hold
    · exact .inr (.inr (hopen.2 _ rfl))
    · exact .of_mem hold

theorem acts_pipe {next : Nat × Nat → Program} (h : m.meet pid p .pipe next = some m') :
    Acts pid [] p m m' := by
  cases h
  refine .setDescriptors (.openPipe m) (fun other hother => ?_) _
  -- Both ends are new.
  unfold MayGet
  rw [size_files_openPipe]
  rcases Descriptors.mem_files_place hother with hwriter | hother
  · obtain rfl : other = m.files.size + 1 := hwriter.trans (by simp)
    exact .inr (.inr ⟨Nat.le_succ _, Nat.lt_succ_self _⟩)
  rcases Descriptors.mem_files_place hother with hreader | hold
  · obtain rfl : other = m.files.size := hreader
    exact .inr (.inr ⟨Nat.le_refl _, Nat.lt_add_of_pos_right Nat.two_pos⟩)
  · exact .inl hold

/-- Making one number stand for what another one stands for. -/
theorem acts_copy {source target file : Nat} (hfile : p.descriptors.get? source = some file)
    (program : Program) :
    Acts pid [] p m
      ((m.setDescriptors pid (p.descriptors.place target file)).resume pid program) :=
  .setDescriptors (.refl m)
    (fun _ hother => .of_mem (Descriptors.mem_files_of_place hfile hother)) program

/-- Whatever a process asks for, it acts, unless it sends a signal. -/
theorem acts_meet (hp : m.processes[pid]? = some p) {request : Request}
    {next : request.Answer → Program} (h : m.meet pid p request next = some m')
    (hsignal : ∀ receiver number, request ≠ .signal receiver number) : Acts pid [] p m m' := by
  have hgrows := Grows.refl m
  -- Whatever is asked for, the machine grows, and the process keeps a table of what it has held or
  -- has opened itself. Only a signal reaches into another process.
  cases request with
  | read fd count => exact acts_stepRead h
  | line fd held => exact acts_stepLine h
  | write fd bytes =>
    cases bytes with
    | nil =>
      cases h
      exact .resume hgrows _
    | cons byte bytes => exact acts_stepWrite hp h
  | seek fd offset =>
    cases h
    exact .resume (.seekFd m p fd offset) _
  | openFile path access mode => exact acts_openFile h
  | duplicate | lift =>
    simp only [meet] at h
    split at h
    · cases h
      exact .resume hgrows _
    · rename_i file hfile
      cases h
      exact acts_copy hfile _
  | close fd =>
    cases h
    exact .setDescriptors hgrows
      (fun _ hother => .of_mem (Descriptors.mem_files_drop hother)) _
  | closeFrom least =>
    cases h
    exact .setDescriptors hgrows
      (fun _ hother => .of_mem (Descriptors.mem_files_below hother)) _
  | pipe => exact acts_pipe h
  | inspectFd fd =>
    simp only [meet] at h
    split at h <;> (cases h; exact .resume hgrows _)
  | inspect | names | identity | place =>
    cases h
    exact .resume hgrows _
  | remove | removeDirectory =>
    simp only [meet] at h
    split at h
    · cases h
      exact .resume hgrows _
    · cases h
      exact .resume (.setTree m _) _
  | exec | enter =>
    simp only [meet] at h
    split at h
    · cases h
      exact .resume hgrows _
    · cases h
      exact .modifyProcess hgrows _ rfl _
  | wait child =>
    simp only [meet] at h
    split at h
    · cases h
    · cases h
      exact .resume hgrows _
    · cases h
      exact .resume hgrows _
  | mask new =>
    cases new with
    | none =>
      cases h
      exact .resume hgrows _
    | some umask =>
      cases h
      exact .modifyProcess hgrows _ rfl _
  | signal receiver number => exact absurd rfl (hsignal receiver number)
  | dispose number disposition =>
    cases h
    exact .modifyProcess hgrows _ (descriptors_dispose number disposition p) _
  | noted =>
    cases h
    exact .modifyProcess hgrows _ rfl _

/-- Who has sent a signal goes on, or has ended itself. -/
theorem meet_signal_cases {receiver number : Nat} {next : Except Errno Unit → Program}
    (h : m.meet pid p (.signal receiver number) next = some m') :
    m' = (m.sendSignal receiver number).2 ∨
      ∃ q program, (m.sendSignal receiver number).2.processes[pid]? = some q ∧ q.IsRunning ∧
        m' = (m.sendSignal receiver number).2.resume pid program := by
  simp only [meet] at h
  split at h
  · rename_i hp₁
    cases h
    exact .inr ⟨_, _, hp₁, ⟨_, rfl⟩, rfl⟩
  · cases h
    exact .inl rfl

/-- Meeting a request is confined to the process that asks. -/
theorem confined_meet (hp : m.processes[pid]? = some p) (hrun : p.IsRunning) {request : Request}
    {next : request.Answer → Program} (h : m.meet pid p request next = some m') :
    Confined pid [] m m' := by
  by_cases hsignal : ∃ receiver number, request = .signal receiver number
  · obtain ⟨receiver, number, rfl⟩ := hsignal
    have hsent : Confined pid [] m (m.sendSignal receiver number).2 := .sendSignal m receiver number
    rcases meet_signal_cases h with rfl | ⟨q, program, hq, hrunning, rfl⟩
    · exact hsent
    · exact hsent.trans (.of_acts (.resume (.refl _) program) hq hrunning)
  · refine .of_acts (acts_meet hp h fun receiver number hrequest => ?_) hp hrun
    exact hsignal ⟨receiver, number, hrequest⟩

end Requests

/-- **Confinement.** What a step does is confined to the process that takes it. -/
theorem confined_step {m m' : Machine} {pid : Nat} (h : m.step pid = some m') :
    Confined pid [] m m' := by
  unfold step at h
  split at h
  · cases h
  rename_i p hp
  split at h
  · cases h
  · rename_i status himage
    cases h
    exact .of_acts (.finish (.refl m) _) hp ⟨_, himage⟩
  · rename_i signal himage
    cases h
    exact .of_acts (.finish (.refl m) _) hp ⟨_, himage⟩
  · rename_i request next himage
    exact confined_meet hp ⟨_, himage⟩ h
  · rename_i child next himage
    cases h
    have hrun : p.IsRunning := ⟨_, himage⟩
    have hlt := (Array.getElem?_eq_some_iff.mp hp).1
    -- The child is there when the parent goes on.
    refine (Confined.fork hp hrun { p with image := .running child, noted := [] } rfl).trans
      (.of_acts (.resume (.refl _) _) (p := p) ?_ hrun)
    simpa [addProcess, Array.getElem?_push, Nat.ne_of_lt hlt] using hp

end PipeShell.Machine
