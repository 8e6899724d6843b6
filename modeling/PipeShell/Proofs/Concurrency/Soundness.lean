import PipeShell.Proofs.Concurrency.Phase
import PipeShell.Proofs.Plan.Readiness

/-!
# What holds of a shell and its processes all the time

Whatever the order in which the shell and its processes take their steps, and whatever is refused to
the shell: the conduits are new pipes with their ends, the shell has the ends that its place asks
for, and a process that is not its program yet is on its way to the streams that its place in the
pipeline and its own bindings give it.

What holds of a process all the time is said of the table that the changes still to be made lead to,
so that making one of them changes nothing.

## Main definitions

* `IsEnd`: an open file that leads to a conduit
* `Has`: the ends that the shell has
* `Begun`: how far a process has come
* `Sound`: what holds of a system all the time

## Main results

* `Sound.step`, `Sound.of_reaches`: every step keeps a system sound, so it is sound all the time
-/

namespace PipeShell

namespace Machine.System

open Execution

/-- An open file that leads to a conduit. -/
def IsEnd (s : System) (file : Nat) : Prop :=
  ∃ c ∈ s.conduits, ∃ target, s.machine.target? file = some target ∧ target.pipe? = some c.pipe

/-! ## What is sound -/

/-- The files and pipes that were there at the beginning are still there; the conduits are new pipes
with their ends; and only processes that have been started are beginning. -/
structure Grounded (initial : Machine) (s : System) : Prop where
  wellFormed : s.machine.WellFormed
  capacity_eq : s.machine.pipeCapacity = initial.pipeCapacity
  size_files_le : initial.files.size ≤ s.machine.files.size
  target?_eq : ∀ file < initial.files.size, s.machine.target? file = initial.target? file
  size_pipes_le : initial.pipes.size ≤ s.machine.pipes.size
  fresh : ∀ c ∈ s.conduits, initial.pipes.size ≤ c.pipe
  reader_eq : ∀ c ∈ s.conduits, s.machine.target? c.reader = some (.reader c.pipe)
  writer_eq : ∀ c ∈ s.conduits, s.machine.target? c.writer = some (.writer c.pipe)
  distinct : (s.conduits.map Conduit.pipe).Nodup
  unborn : ∀ pid, s.machine.processes.size ≤ pid → s.beginnings pid = none

/-- The ends that the shell has: numbers above those of the standard streams, each with its file. -/
structure Has (s : System) (held : List (Nat × Nat)) : Prop where
  mem_held : ∀ e ∈ s.machine.descriptors.entries, s.IsEnd e.2 → e ∈ held
  get?_eq : ∀ e ∈ held, s.machine.descriptors.get? e.1 = some e.2
  above : ∀ e ∈ held, 2 < e.1
  nodup : (held.map Prod.fst).Nodup

/-- The shell has the ends that its place asks for, and its standard streams are what they were. -/
structure ShellSound (plans : List (Except RedirectionError (Plan Nat))) (initial : Machine)
    (s : System) : Prop where
  phase : ∃ held, Phase plans s.shell s.conduits held ∧ s.Has held
  standard : ∀ fd ≤ 2, s.machine.descriptors.get? fd = initial.descriptors.get? fd

/-- How far a process with the table `d` has come: what the changes lead to that are still to be
made on account of the pipes. -/
structure Begun (cwd : NodeId) (plans : List (Except RedirectionError (Plan Nat)))
    (initial : Machine) (s : System) (d : Descriptors) (b : Beginning) : Prop where
  plan_eq : plans[b.launch.stage]? = some b.launch.plan
  stage_le : b.launch.stage ≤ s.conduits.length
  stage_lt_iff : b.launch.stage < s.conduits.length ↔ b.launch.stage + 1 < plans.length
  bindings_eq : b.bound.map Bound.binding ++ b.pending = bindingsOf b.launch.plan
  file?_isSome : ∀ x ∈ b.bound, (x.file? cwd).isSome = true
  get?_zero : (arrange b.left d).get? 0 = (lastBound cwd 0 b.bound).or
    ((readerBefore s.conduits b.launch.stage).or (initial.descriptors.get? 0))
  get?_one : (arrange b.left d).get? 1 = (lastBound cwd 1 b.bound).or
    ((writerBehind s.conduits b.launch.stage).or (initial.descriptors.get? 1))
  get?_two : (arrange b.left d).get? 2 = initial.descriptors.get? 2
  apart : ∀ e ∈ (arrange b.left d).entries, 1 < e.1 → e.2 < s.machine.files.size ∧ ¬ s.IsEnd e.2

/-- What holds of a system all the time. -/
structure Sound (cwd : NodeId) (plans : List (Except RedirectionError (Plan Nat)))
    (initial : Machine) (s : System) : Prop where
  grounded : s.Grounded initial
  shell : s.ShellSound plans initial
  begun : ∀ pid b p, s.beginnings pid = some b → s.machine.processes[pid]? = some p →
    p.IsRunning → s.Begun cwd plans initial p.descriptors b

variable {cwd : NodeId} {plans : List (Except RedirectionError (Plan Nat))} {initial : Machine}
  {s s' : System}

/-! ## Ends of conduits -/

theorem isEnd_congr {file : Nat} (hconduits : s'.conduits = s.conduits)
    (htarget : s'.machine.target? file = s.machine.target? file) :
    s'.IsEnd file ↔ s.IsEnd file := by
  unfold IsEnd
  rw [hconduits, htarget]

/-- What was open at the beginning leads to no conduit. -/
theorem Grounded.not_isEnd (h : s.Grounded initial) (hinitial : initial.WellFormed) {file : Nat}
    (hfile : file < initial.files.size) : ¬ s.IsEnd file := by
  rintro ⟨c, hc, target, htarget, hpipe⟩
  rw [h.target?_eq file hfile] at htarget
  have hlt := hinitial.led file target c.pipe htarget hpipe
  have hle := h.fresh c hc
  omega

/-- The table of a process names files that there are. -/
theorem Grounded.lt_size (h : s.Grounded initial) {pid : Nat} {p : Process}
    (hp : s.machine.processes[pid]? = some p) (hrun : p.IsRunning) {file : Nat}
    (hfile : file ∈ p.descriptors.files) : file < s.machine.files.size :=
  h.wellFormed.held _ (mem_tables.mpr (.inr ⟨pid, p, hp, hrun, rfl⟩)) file hfile

/-- How far a process has come depends on the ends for its stage only, and on which of the old files
lead to a conduit. -/
theorem Begun.congr {d : Descriptors} {b : Beginning} (h : s.Begun cwd plans initial d b)
    (hreader : readerBefore s'.conduits b.launch.stage = readerBefore s.conduits b.launch.stage)
    (hwriter : writerBehind s'.conduits b.launch.stage = writerBehind s.conduits b.launch.stage)
    (hlt : b.launch.stage < s'.conduits.length ↔ b.launch.stage < s.conduits.length)
    (hle : b.launch.stage ≤ s'.conduits.length)
    (hsize : s.machine.files.size ≤ s'.machine.files.size)
    (hend : ∀ file < s.machine.files.size, s'.IsEnd file → s.IsEnd file) :
    s'.Begun cwd plans initial d b where
  plan_eq := h.plan_eq
  stage_le := hle
  stage_lt_iff := hlt.trans h.stage_lt_iff
  bindings_eq := h.bindings_eq
  file?_isSome := h.file?_isSome
  get?_zero := by rw [hreader, h.get?_zero]
  get?_one := by rw [hwriter, h.get?_one]
  get?_two := h.get?_two
  apart e he habove := by
    obtain ⟨hfile, hnot⟩ := h.apart e he habove
    exact ⟨Nat.lt_of_lt_of_le hfile hsize, fun hisEnd => hnot (hend e.2 hfile hisEnd)⟩

/-- How far a process has come does not depend on what the shell is to do next, on its table, or on
what other processes there are. -/
theorem Begun.of_eq {d : Descriptors} {b : Beginning} (h : s.Begun cwd plans initial d b)
    (hconduits : s'.conduits = s.conduits) (hfiles : s'.machine.files = s.machine.files) :
    s'.Begun cwd plans initial d b := by
  refine h.congr (by rw [hconduits]) (by rw [hconduits]) (by rw [hconduits])
    (by rw [hconduits]; exact h.stage_le) (Nat.le_of_eq (by rw [hfiles])) fun file _ => ?_
  exact (isEnd_congr hconduits (by rw [target?, target?, hfiles])).mp

/-! ## Steps of processes -/

section Processes

variable {pid : Nat} {texts : List Nat} {m : Machine} {beginnings : Nat → Option Beginning}

/-- What is confined to a process leaves open files leading where they led. -/
theorem Grounded.isEnd_iff (hc : Confined pid texts s.machine m) {file : Nat}
    (hfile : file < s.machine.files.size) :
    IsEnd { s with machine := m, beginnings } file ↔ s.IsEnd file :=
  isEnd_congr rfl (hc.target?_eq file hfile)

theorem Grounded.confined (h : s.Grounded initial) (hc : Confined pid texts s.machine m)
    (htexts : ∀ file ∈ texts, file < s.machine.files.size)
    (hunborn : ∀ pid, m.processes.size ≤ pid → beginnings pid = none) :
    Grounded initial { s with machine := m, beginnings } where
  wellFormed := by
    refine ⟨fun d hd file hfile => ?_, hc.led h.wellFormed.led⟩
    rcases mem_tables.mp hd with rfl | ⟨other, p', hp', hrun', rfl⟩
    · have hfile : file ∈ s.machine.descriptors.files := by rwa [← hc.descriptors_eq]
      exact Nat.lt_of_lt_of_le (h.wellFormed.held _ (mem_tables.mpr (.inl rfl)) file hfile)
        hc.size_files_le
    · rcases hc.stems other p' hp' hrun' with ⟨-, p, hp, hrun, hd⟩ | ⟨-, p, hp, hrun, hfiles⟩
      · rw [hd] at hfile
        exact Nat.lt_of_lt_of_le (h.lt_size hp hrun hfile) hc.size_files_le
      · rcases hfiles file hfile with hold | htext | ⟨-, hnew⟩
        · exact Nat.lt_of_lt_of_le (h.lt_size hp hrun hold) hc.size_files_le
        · exact Nat.lt_of_lt_of_le (htexts file htext) hc.size_files_le
        · exact hnew
  capacity_eq := hc.capacity_eq.trans h.capacity_eq
  size_files_le := Nat.le_trans h.size_files_le hc.size_files_le
  target?_eq file hfile :=
    (hc.target?_eq file (Nat.lt_of_lt_of_le hfile h.size_files_le)).trans (h.target?_eq file hfile)
  size_pipes_le := Nat.le_trans h.size_pipes_le hc.size_pipes_le
  fresh := h.fresh
  reader_eq c hmem := by
    have hreader := h.reader_eq c hmem
    exact (hc.target?_eq _ (lt_size_of_target? hreader)).trans hreader
  writer_eq c hmem := by
    have hwriter := h.writer_eq c hmem
    exact (hc.target?_eq _ (lt_size_of_target? hwriter)).trans hwriter
  distinct := h.distinct
  unborn := hunborn

theorem ShellSound.confined (h : s.ShellSound plans initial) (hg : s.Grounded initial)
    (hc : Confined pid texts s.machine m) :
    ShellSound plans initial { s with machine := m, beginnings } := by
  obtain ⟨held, hphase, hhas⟩ := h.phase
  refine ⟨⟨held, hphase, ⟨?_, ?_, hhas.above, hhas.nodup⟩⟩, ?_⟩
  · intro e he hend
    have he : e ∈ s.machine.descriptors.entries := by rwa [← hc.descriptors_eq]
    have hfile := hg.wellFormed.held _ (mem_tables.mpr (.inl rfl)) e.2
      (Descriptors.mem_files.mpr ⟨e.1, he⟩)
    exact hhas.mem_held e he ((Grounded.isEnd_iff hc hfile).mp hend)
  · intro e he
    exact (congrArg (·.get? e.1) hc.descriptors_eq).trans (hhas.get?_eq e he)
  · intro fd hfd
    exact (congrArg (·.get? fd) hc.descriptors_eq).trans (h.standard fd hfd)

/-- How far a process has come does not depend on what another one does. -/
theorem Begun.confined {d : Descriptors} {b : Beginning} (h : s.Begun cwd plans initial d b)
    (hc : Confined pid texts s.machine m) :
    Begun cwd plans initial { s with machine := m, beginnings } d b :=
  h.congr rfl rfl Iff.rfl h.stage_le hc.size_files_le fun _ hfile =>
    (Grounded.isEnd_iff hc hfile).mp

/-- A step that is confined to a process keeps a system sound, if it leaves the process itself as it
should be. -/
theorem Sound.confined (h : s.Sound cwd plans initial) (hc : Confined pid texts s.machine m)
    (htexts : ∀ file ∈ texts, file < s.machine.files.size)
    (hother : ∀ other ≠ pid, beginnings other = s.beginnings other)
    (hunborn : ∀ pid, m.processes.size ≤ pid → beginnings pid = none)
    (hown : ∀ b p', beginnings pid = some b → m.processes[pid]? = some p' → p'.IsRunning →
      Begun cwd plans initial { s with machine := m, beginnings } p'.descriptors b) :
    Sound cwd plans initial { s with machine := m, beginnings } where
  grounded := h.grounded.confined hc htexts hunborn
  shell := h.shell.confined h.grounded hc
  begun other b p' hb hp' hrun' := by
    by_cases hpid : other = pid
    · subst hpid
      exact hown b p' hb hp' hrun'
    · have hb : s.beginnings other = some b := (hother other hpid).symm.trans hb
      rcases hc.stems other p' hp' hrun' with ⟨-, p, hp, hrun, hd⟩ | ⟨hchild, -⟩
      · rw [hd]
        exact (h.begun other b p hb hp hrun).confined hc
      · -- A child that was started just now is its program from the beginning.
        have hle := hchild.resolve_left hpid
        rw [h.grounded.unborn other hle] at hb
        cases hb

end Processes

/-! ## Steps of the shell -/

section Shell

variable {held : List (Nat × Nat)} {shell : Course Nat Nat Nat}

/-- The order in which ends are told does not matter. -/
theorem Has.perm {held' : List (Nat × Nat)} (h : s.Has held) (hperm : held'.Perm held) :
    s.Has held' where
  mem_held e he hend := hperm.mem_iff.mpr (h.mem_held e he hend)
  get?_eq e he := h.get?_eq e (hperm.mem_iff.mp he)
  above e he := h.above e (hperm.mem_iff.mp he)
  nodup := (hperm.map Prod.fst).nodup_iff.mpr h.nodup

/-- Where the shell goes on and nothing else happens. -/
theorem Sound.goOn (h : s.Sound cwd plans initial)
    (hphase : ∃ held, Phase plans shell s.conduits held ∧ s.Has held) :
    Sound cwd plans initial { s with shell } := by
  obtain ⟨held, hphase, hhas⟩ := hphase
  have hg := h.grounded
  refine ⟨⟨hg.wellFormed, hg.capacity_eq, hg.size_files_le, hg.target?_eq, hg.size_pipes_le,
    hg.fresh, hg.reader_eq, hg.writer_eq, hg.distinct, hg.unborn⟩, ⟨⟨held, hphase,
    ⟨hhas.mem_held, hhas.get?_eq, hhas.above, hhas.nodup⟩⟩, h.shell.standard⟩, ?_⟩
  intro pid b p hb hp hrun
  exact (h.begun pid b p hb hp hrun).of_eq rfl rfl

/-! ### Closing an end -/

theorem Sound.closeEnd {fd : Nat} (h : s.Sound cwd plans initial)
    (hshell : s.shell = .close fd shell) : (s.closeEnd fd shell).Sound cwd plans initial := by
  have hg := h.grounded
  obtain ⟨all, hphase, hhas⟩ := h.shell.phase
  rw [hshell] at hphase
  obtain ⟨file, held, rfl, hlater⟩ := hphase.of_close
  have habove : 2 < fd := hhas.above _ List.mem_cons_self
  obtain ⟨hfd, hnodup⟩ := List.nodup_cons.mp hhas.nodup
  refine ⟨⟨⟨?_, hg.wellFormed.led⟩, hg.capacity_eq, hg.size_files_le, hg.target?_eq,
    hg.size_pipes_le, hg.fresh, hg.reader_eq, hg.writer_eq, hg.distinct, hg.unborn⟩,
    ⟨⟨held, hlater, ⟨?_, ?_, ?_, hnodup⟩⟩, ?_⟩, ?_⟩
  · intro d hd other hother
    rcases mem_tables.mp hd with rfl | hd
    · exact hg.wellFormed.held _ (mem_tables.mpr (.inl rfl)) other
        (Descriptors.mem_files_drop hother)
    · exact hg.wellFormed.held d (mem_tables.mpr (.inr hd)) other hother
  · intro e he hend
    obtain ⟨he, hne⟩ := Descriptors.mem_entries_drop.mp he
    rcases List.mem_cons.mp (hhas.mem_held e he hend) with rfl | hmem
    · exact absurd rfl hne
    · exact hmem
  · intro e he
    have hne : e.1 ≠ fd := by
      rintro rfl
      exact hfd (List.mem_map.mpr ⟨e, he, rfl⟩)
    simp only [System.closeEnd, Descriptors.get?_drop, if_neg hne]
    exact hhas.get?_eq e (List.mem_cons_of_mem _ he)
  · exact fun e he => hhas.above e (List.mem_cons_of_mem _ he)
  · intro n hn
    have hne : n ≠ fd := by omega
    simp only [System.closeEnd, Descriptors.get?_drop, if_neg hne]
    exact h.shell.standard n hn
  · intro pid b p hb hp hrun
    exact (h.begun pid b p hb hp hrun).of_eq rfl rfl

/-! ### Making a pipe -/

section MakePipe

variable {reader writer : Nat} (hg : s.Grounded initial)

include hg

/-- A new conduit is none that an open file has led to. -/
theorem Grounded.isEnd_makePipe {file : Nat} (hfile : file < s.machine.files.size) :
    (s.makePipe reader writer shell).IsEnd file ↔ s.IsEnd file := by
  have htarget : (s.makePipe reader writer shell).machine.target? file = s.machine.target? file :=
    (Grows.openPipe s.machine).target?_eq file hfile
  unfold IsEnd
  rw [htarget]
  constructor
  · rintro ⟨c, hc, target, hleads, hpipe⟩
    rcases List.mem_append.mp hc with hc | hc
    · exact ⟨c, hc, target, hleads, hpipe⟩
    · obtain rfl := List.mem_singleton.mp hc
      exact absurd (hg.wellFormed.led file target _ hleads hpipe) (Nat.lt_irrefl _)
  · rintro ⟨c, hc, hleads⟩
    exact ⟨c, List.mem_append_left _ hc, hleads⟩

/-- The shell's table has got the newest files of all. -/
theorem Grounded.lt_size_makePipe {d : Descriptors}
    (hd : d ∈ (s.makePipe reader writer shell).machine.tables) {file : Nat}
    (hfile : file ∈ d.files) :
    file < s.machine.openPipe.2.files.size := by
  rw [size_files_openPipe]
  rcases mem_tables.mp hd with rfl | hd
  · simp only [System.makePipe, fst_openPipe] at hfile
    rcases Descriptors.mem_files_place hfile with rfl | hfile
    · omega
    rcases Descriptors.mem_files_place hfile with rfl | hfile
    · omega
    · have := hg.wellFormed.held _ (mem_tables.mpr (.inl rfl)) file hfile
      omega
  · have := hg.wellFormed.held d (mem_tables.mpr (.inr hd)) file hfile
    omega

omit hg in
/-- What is true of the old conduits and of the new one is true of all. -/
theorem forall_mem_conduits_makePipe {P : Conduit → Prop} (hold : ∀ c ∈ s.conduits, P c)
    (hnew : P ⟨s.machine.pipes.size, s.machine.openPipe.1.1, s.machine.openPipe.1.2⟩) :
    ∀ c ∈ (s.makePipe reader writer shell).conduits, P c := by
  intro c hc
  rcases List.mem_append.mp hc with hc | hc
  · exact hold c hc
  · obtain rfl := List.mem_singleton.mp hc
    exact hnew

theorem Grounded.makePipe : (s.makePipe reader writer shell).Grounded initial := by
  have hgrows := Grows.openPipe s.machine
  have hstays : ∀ {file : Nat} {target : Target}, s.machine.target? file = some target →
      (s.makePipe reader writer shell).machine.target? file = some target := fun h =>
    (hgrows.target?_eq _ (lt_size_of_target? h)).trans h
  exact {
    wellFormed := ⟨fun d hd file => hg.lt_size_makePipe hd, hgrows.led hg.wellFormed.led⟩
    capacity_eq := hgrows.capacity_eq.trans hg.capacity_eq
    size_files_le := Nat.le_trans hg.size_files_le hgrows.size_files_le
    target?_eq := fun file hfile =>
      (hgrows.target?_eq file (Nat.lt_of_lt_of_le hfile hg.size_files_le)).trans
        (hg.target?_eq file hfile)
    size_pipes_le := Nat.le_trans hg.size_pipes_le hgrows.size_pipes_le
    fresh := forall_mem_conduits_makePipe hg.fresh hg.size_pipes_le
    reader_eq := forall_mem_conduits_makePipe (fun c hc => hstays (hg.reader_eq c hc))
      (target?_openPipe_reader s.machine)
    writer_eq := forall_mem_conduits_makePipe (fun c hc => hstays (hg.writer_eq c hc))
      (target?_openPipe_writer s.machine)
    distinct := by
      simp only [System.makePipe, List.map_append, List.map_cons, List.map_nil]
      refine List.nodup_append.mpr ⟨hg.distinct, by simp, ?_⟩
      intro pipe hpipe other hother heq
      obtain ⟨c, hc, rfl⟩ := List.mem_map.mp hpipe
      obtain rfl := List.mem_singleton.mp hother
      have := hg.wellFormed.led _ _ c.pipe (hg.reader_eq c hc) rfl
      omega
    unborn := hg.unborn }

end MakePipe

/-- The shell has the ends of a new pipe besides those that it had. -/
theorem Has.makePipe {reader writer : Nat} (hg : s.Grounded initial) (h : s.Has held)
    (hopen : ∀ fd ≤ 2, (s.machine.descriptors.get? fd).isSome = true)
    (hreader : s.machine.descriptors.get? reader = none)
    (hwriter : s.machine.descriptors.get? writer = none) (hne : reader ≠ writer) :
    (s.makePipe reader writer shell).Has
      ((writer, s.machine.openPipe.1.2) :: (reader, s.machine.openPipe.1.1) :: held) := by
  -- The numbers of the new ends are neither in use nor those of standard streams.
  have hused : ∀ e ∈ held, ∀ fd, s.machine.descriptors.get? fd = none → e.1 ≠ fd :=
    fun e he fd hfd => Descriptors.ne_of_get? (Option.isSome_of_eq_some (h.get?_eq e he)) hfd
  have habove : ∀ fd, s.machine.descriptors.get? fd = none → 2 < fd := fun fd hfd =>
    Nat.lt_of_not_le fun hle => Descriptors.ne_of_get? (hopen fd hle) hfd rfl
  have hnew : ∀ fd, s.machine.descriptors.get? fd = none → fd ∉ held.map Prod.fst := by
    intro fd hfd hmem
    obtain ⟨e, he, heq⟩ := List.mem_map.mp hmem
    exact hused e he fd hfd heq
  constructor
  · intro e he hend
    rcases Descriptors.mem_entries_place.mp he with rfl | ⟨he, -⟩
    · exact List.mem_cons_self
    rcases Descriptors.mem_entries_place.mp he with rfl | ⟨he, -⟩
    · exact List.mem_cons_of_mem _ List.mem_cons_self
    · have hfile := hg.wellFormed.held _ (mem_tables.mpr (.inl rfl)) e.2
        (Descriptors.mem_files.mpr ⟨e.1, he⟩)
      exact List.mem_cons_of_mem _
        (List.mem_cons_of_mem _ (h.mem_held e he ((hg.isEnd_makePipe hfile).mp hend)))
  · intro e he
    simp only [System.makePipe, Descriptors.get?_place]
    rcases List.mem_cons.mp he with rfl | he
    · rw [if_pos rfl]
    rcases List.mem_cons.mp he with rfl | he
    · rw [if_neg hne, if_pos rfl]
    · rw [if_neg (hused e he writer hwriter), if_neg (hused e he reader hreader)]
      exact h.get?_eq e he
  · intro e he
    rcases List.mem_cons.mp he with rfl | he
    · exact habove writer hwriter
    rcases List.mem_cons.mp he with rfl | he
    · exact habove reader hreader
    · exact h.above e he
  · refine List.nodup_cons.mpr ⟨?_, List.nodup_cons.mpr ⟨hnew reader hreader, h.nodup⟩⟩
    exact List.not_mem_cons_of_ne_of_not_mem hne.symm (hnew writer hwriter)

theorem Sound.makePipe {next : Except Errno (Nat × Nat) → Course Nat Nat Nat} {reader writer : Nat}
    (h : s.Sound cwd plans initial)
    (hopen : ∀ fd ≤ 2, (initial.descriptors.get? fd).isSome = true)
    (hshell : s.shell = .pipe next) (hreader : s.machine.descriptors.get? reader = none)
    (hwriter : s.machine.descriptors.get? writer = none) (hne : reader ≠ writer) :
    (s.makePipe reader writer (next (.ok (reader, writer)))).Sound cwd plans initial := by
  have hg := h.grounded
  obtain ⟨held, hphase, hhas⟩ := h.shell.phase
  rw [hshell] at hphase
  obtain ⟨hlength, -, hpiped⟩ := hphase.of_pipe
  have hopen' : ∀ fd ≤ 2, (s.machine.descriptors.get? fd).isSome = true := fun fd hfd => by
    rw [h.shell.standard fd hfd]
    exact hopen fd hfd
  refine ⟨hg.makePipe, ⟨⟨_, hpiped reader writer _, hhas.makePipe hg hopen' hreader hwriter hne⟩,
    ?_⟩, ?_⟩
  · -- The standard streams are in use, so their numbers are not taken.
    intro fd hfd
    have hr : fd ≠ reader := Descriptors.ne_of_get? (hopen' fd hfd) hreader
    have hw : fd ≠ writer := Descriptors.ne_of_get? (hopen' fd hfd) hwriter
    simp only [System.makePipe, Descriptors.get?_place, if_neg hr, if_neg hw]
    exact h.shell.standard fd hfd
  · intro pid b p hb hp hrun
    have hbegun := h.begun pid b p hb hp hrun
    have hle := hbegun.stage_le
    -- A process that has been started has all its conduits, and the last stage gets none.
    have hstage : b.launch.stage < s.conduits.length := by
      have := hbegun.stage_lt_iff
      have hplan := (List.getElem?_eq_some_iff.mp hbegun.plan_eq).1
      omega
    refine hbegun.congr (readerBefore_append _ hle) ?_ ?_ ?_
      (Grows.openPipe s.machine).size_files_le fun file hfile => (hg.isEnd_makePipe hfile).mp
    · simp only [writerBehind, System.makePipe, List.getElem?_append_left hstage]
    · simp only [System.makePipe, List.length_append, List.length_singleton]
      omega
    · simp only [System.makePipe, List.length_append, List.length_singleton]
      omega

/-! ### Starting a process -/

/-- A number that the shell has for an end stands for that end. -/
theorem Has.bind_get?_eq (h : s.Has held) {fd? file? : Option Nat}
    (hrel : Option.Rel (fun fd file => (fd, file) ∈ held) fd? file?) :
    fd?.bind s.machine.descriptors.get? = file? := by
  cases hrel with
  | none => rfl
  | some hmem => exact h.get?_eq _ hmem

theorem Has.stdout_ne_zero (h : s.Has held) {l : Launch Nat Nat}
    (hwired : IsWired plans s.conduits held l) : l.stdout ≠ some 0 := by
  intro hstdout
  have hrel := hwired.stdout_eq
  rw [hstdout] at hrel
  generalize writerBehind s.conduits l.stage = file? at hrel
  cases hrel with
  | some hmem => exact absurd (h.above _ hmem) (Nat.not_lt_zero 2)

/-- The changes that a launch asks for leave no end in the table but those meant for the stage, as
its standard streams. -/
theorem Has.arrange (h : s.Has held) {l : Launch Nat Nat}
    (hwired : IsWired plans s.conduits held l) {e : Nat × Nat}
    (he : e ∈ (arrange (arrangements l) s.machine.descriptors).entries) (hend : s.IsEnd e.2) :
    (e.1 = 0 ∧ readerBefore s.conduits l.stage = some e.2) ∨
      (e.1 = 1 ∧ writerBehind s.conduits l.stage = some e.2) := by
  rcases mem_entries_arrange (h.stdout_ne_zero hwired) he with
    ⟨hzero, hfile⟩ | ⟨hone, hfile⟩ | ⟨hmem, hclose⟩
  · exact .inl ⟨hzero, (h.bind_get?_eq hwired.stdin_eq).symm.trans hfile⟩
  · exact .inr ⟨hone, (h.bind_get?_eq hwired.stdout_eq).symm.trans hfile⟩
  · -- Any other end was to be closed.
    have hheld := h.mem_held e hmem hend
    exact absurd (hwired.mem_close e hheld) (hclose (h.above e hheld))

/-- A process that has been started will have the streams of its stage. -/
theorem Begun.ofLaunch (hg : s.Grounded initial) (h : s.ShellSound plans initial)
    (hhas : s.Has held) {l : Launch Nat Nat} (hwired : IsWired plans s.conduits held l) :
    s.Begun cwd plans initial s.machine.descriptors (.ofLaunch l) where
  plan_eq := hwired.plan_eq
  stage_le := hwired.stage_le
  stage_lt_iff := hwired.stage_lt_iff
  bindings_eq := rfl
  file?_isSome x hx := absurd hx List.not_mem_nil
  get?_zero := by
    have hget := get?_arrange l s.machine.descriptors (hhas.stdout_ne_zero hwired) (Nat.zero_le 2)
    simp only [hhas.bind_get?_eq hwired.stdin_eq, h.standard 0 (by decide)] at hget
    simpa [Beginning.ofLaunch] using hget
  get?_one := by
    have hget := get?_arrange l s.machine.descriptors (hhas.stdout_ne_zero hwired) (Nat.le_succ 1)
    simp only [hhas.bind_get?_eq hwired.stdout_eq, h.standard 1 (by decide)] at hget
    simpa [Beginning.ofLaunch] using hget
  get?_two := by
    have hget := get?_arrange l s.machine.descriptors (hhas.stdout_ne_zero hwired) (Nat.le_refl 2)
    simpa [Beginning.ofLaunch, h.standard 2 (Nat.le_refl 2)] using hget
  apart e he habove := by
    have hfile := mem_files_arrange (Descriptors.mem_files.mpr ⟨e.1, he⟩)
    refine ⟨hg.wellFormed.held _ (mem_tables.mpr (.inl rfl)) _ hfile, fun hend => ?_⟩
    rcases hhas.arrange hwired he hend with ⟨hzero, -⟩ | ⟨hone, -⟩ <;> omega

theorem Grounded.startProcess (hg : s.Grounded initial) (cwd : NodeId) (l : Launch Nat Nat) :
    (s.startProcess cwd l shell).Grounded initial := by
  refine ⟨⟨?_, hg.wellFormed.led⟩, hg.capacity_eq, hg.size_files_le, hg.target?_eq,
    hg.size_pipes_le, hg.fresh, hg.reader_eq, hg.writer_eq, hg.distinct, ?_⟩
  · intro d hd file hfile
    rcases mem_tables.mp hd with rfl | ⟨pid, p, hp, hrun, rfl⟩
    · exact hg.wellFormed.held _ (mem_tables.mpr (.inl rfl)) file hfile
    · simp only [System.startProcess, addProcess, Array.getElem?_push] at hp
      split at hp
      · -- The new process has the table of the shell.
        cases hp
        exact hg.wellFormed.held _ (mem_tables.mpr (.inl rfl)) file hfile
      · exact hg.lt_size hp hrun hfile
  · intro pid hpid
    have hsize : s.machine.processes.size < pid := by
      simp only [System.startProcess, addProcess, Array.size_push] at hpid
      omega
    simp only [System.startProcess, Function.update_of_ne (Nat.ne_of_gt hsize)]
    exact hg.unborn pid (Nat.le_of_lt hsize)

theorem Sound.startProcess {l : Launch Nat Nat} {next : Except SpawnError Nat → Course Nat Nat Nat}
    (h : s.Sound cwd plans initial) (hshell : s.shell = .spawn l next)
    (answer : Except SpawnError Nat) :
    (s.startProcess cwd l (next answer)).Sound cwd plans initial := by
  obtain ⟨held, hphase, hhas⟩ := h.shell.phase
  rw [hshell] at hphase
  obtain ⟨hwired, hnext⟩ := hphase.of_spawn
  obtain ⟨held', hperm, hphase'⟩ := hnext answer
  have hhas' := hhas.perm hperm
  refine ⟨h.grounded.startProcess cwd l, ⟨⟨held', hphase', ⟨hhas'.mem_held, hhas'.get?_eq,
    hhas'.above, hhas'.nodup⟩⟩, h.shell.standard⟩, ?_⟩
  intro pid b p hb hp hrun
  simp only [System.startProcess, addProcess, Array.getElem?_push] at hb hp
  split at hp
  · rename_i hpid
    subst hpid
    cases hp
    rw [Function.update_self] at hb
    cases hb
    have hbegun : s.Begun cwd plans initial _ _ :=
      Begun.ofLaunch h.grounded h.shell hhas hwired
    exact hbegun.of_eq rfl rfl
  · rename_i hpid
    rw [Function.update_of_ne hpid] at hb
    exact (h.begun pid b p hb hp hrun).of_eq rfl rfl

end Shell

/-! ## Steps of a beginning process -/

section Beginning

variable {b b' : Beginning} {d d' : Descriptors} {m : Machine}

/-- A change on account of the pipes has been made. -/
theorem Begun.rearrange {first : Arrangement} {rest : List Arrangement}
    (h : s.Begun cwd plans initial d b) (hleft : b.left = first :: rest) :
    s.Begun cwd plans initial (first.perform d) { b with left := rest } := by
  obtain ⟨hplan, hle, hlt, hbindings, hsome, hzero, hone, htwo, hapart⟩ := h
  rw [hleft] at hzero hone htwo hapart
  exact ⟨hplan, hle, hlt, hbindings, hsome, hzero, hone, htwo, hapart⟩

/-- A binding has been carried out: it is the last one of its stream now. -/
theorem Begun.bind {binding : Binding Nat} {rest : List (Binding Nat)} {file : Nat}
    {x : Bound} (h : s.Begun cwd plans initial d b) (hleft : b.left = [])
    (hpending : b.pending = binding :: rest) (hfd : binding.fd ≤ 1) (hx : x.binding = binding)
    (hfile : x.file? cwd = some file) (htakes : d.Takes binding.fd file d') :
    s.Begun cwd plans initial d' { b with pending := rest, bound := b.bound ++ [x] } := by
  obtain ⟨hplan, hle, hlt, hbindings, hsome, hzero, hone, htwo, hapart⟩ := h
  rw [hleft] at hzero hone htwo hapart
  subst hx
  -- The table changes at the stream that is bound, and so does what was bound last.
  have hstream : ∀ fd (other : Option Nat), d.get? fd = (lastBound cwd fd b.bound).or other →
      d'.get? fd = (lastBound cwd fd (b.bound ++ [x])).or other := by
    intro fd other hget
    rw [htakes.get?_eq, lastBound_concat hfile]
    split
    · rfl
    · exact hget
  refine ⟨hplan, hle, hlt, ?_, ?_, ?_, ?_, ?_, ?_⟩
  · simp only [List.map_append, List.map_cons, List.map_nil, List.append_assoc,
      List.singleton_append]
    rw [← hpending]
    exact hbindings
  · intro y hy
    rcases List.mem_append.mp hy with hy | hy
    · exact hsome y hy
    · rw [List.mem_singleton.mp hy, hfile]
      rfl
  · simp only [hleft]
    exact hstream 0 _ hzero
  · simp only [hleft]
    exact hstream 1 _ hone
  · simp only [hleft]
    have hne : 2 ≠ x.binding.fd := by omega
    exact (htakes.get?_eq 2).trans ((if_neg hne).trans htwo)
  · simp only [hleft]
    intro e he habove
    rcases htakes.mem_entries e he with rfl | ⟨hold, -⟩
    · exact absurd habove (by simpa using hfd)
    · exact hapart e hold habove

/-- What a process has become after a step is what it should be, as long as it is not its program.
-/
theorem Begun.advance (h : s.Begun cwd plans initial d b)
    (hready : ∀ binding ∈ bindingsOf b.launch.plan, binding.fd ≤ 1)
    (hadvance : b.advance cwd d s.machine = (.inl b', d', m)) :
    s.Begun cwd plans initial d' b' := by
  unfold Beginning.advance at hadvance
  split at hadvance
  · rename_i first rest _ _ hleft
    cases hadvance
    exact h.rearrange hleft
  · cases hadvance
  · rename_i plan binding rest hleft _ hpending
    split at hadvance
    · cases hadvance
    · rename_i hbind
      cases hadvance
      obtain ⟨file, hfile, htakes, -⟩ := takes_of_bind hbind
      have hmem : binding ∈ bindingsOf b.launch.plan := by
        rw [← h.bindings_eq, hpending]
        simp
      exact h.bind hleft hpending (hready binding hmem) rfl hfile htakes
  · split at hadvance <;> cases hadvance

end Beginning

/-! ## All steps -/

section Steps

variable (hinitial : initial.WellFormed)
  (hopen : ∀ fd ≤ 2, (initial.descriptors.get? fd).isSome = true)
  (hplans : ∀ plan, .ok plan ∈ plans → plan.IsReady initial)

include hplans in
/-- The bindings of a stage are ready to be carried out. -/
theorem Begun.isReady {d : Descriptors} {b : Beginning} (h : s.Begun cwd plans initial d b) :
    ∀ binding ∈ bindingsOf b.launch.plan, binding.fd ≤ 1 ∧
      ∀ body, binding.source = .captured body → body < initial.files.size := by
  have hmem := List.mem_of_getElem? h.plan_eq
  cases hplan : b.launch.plan with
  | error e =>
    intro binding hbinding
    cases hbinding
  | ok plan =>
    rw [hplan] at hmem
    exact hplans plan hmem

include hplans in
/-- The captured texts for a process are files that were there at the beginning. -/
theorem Begun.lt_of_mem_textsOf {d : Descriptors} {b : Beginning}
    (h : s.Begun cwd plans initial d b) :
    ∀ file ∈ textsOf b.pending, file < initial.files.size := by
  intro file hfile
  obtain ⟨binding, hmem, hsource⟩ := List.mem_filterMap.mp hfile
  have hmem : binding ∈ bindingsOf b.launch.plan := by
    rw [← h.bindings_eq]
    exact List.mem_append_right _ hmem
  have hsource : binding.source = .captured file := by
    split at hsource <;> cases hsource
    assumption
  exact (h.isReady hplans binding hmem).2 file hsource

include hplans in
theorem Sound.advance {pid : Nat} {b : Beginning} {p : Process} (h : s.Sound cwd plans initial)
    (hb : s.beginnings pid = some b) (hp : s.machine.processes[pid]? = some p)
    (hrun : p.IsRunning) : (s.advance cwd pid b p).Sound cwd plans initial := by
  have hbegun := h.begun pid b p hb hp hrun
  have hready := hbegun.isReady hplans
  have hc := confined_advance cwd b hp hrun
  have htexts : ∀ file ∈ textsOf b.pending, file < s.machine.files.size := fun file hfile =>
    Nat.lt_of_lt_of_le (hbegun.lt_of_mem_textsOf hplans file hfile) h.grounded.size_files_le
  have hlt := (Array.getElem?_eq_some_iff.mp hp).1
  have hgrows := Grows.advance cwd b p.descriptors s.machine
  have hunborn : ∀ (next : Option Beginning) other, s.machine.processes.size ≤ other →
      Function.update s.beginnings pid next other = none := by
    intro next other hother
    rw [Function.update_of_ne (by omega)]
    exact h.grounded.unborn other hother
  rcases hadvance : b.advance cwd p.descriptors s.machine with ⟨b' | program, d, m⟩
  · rw [hadvance] at hgrows
    simp only [System.advance, hadvance] at hc ⊢
    refine h.confined hc htexts (fun other hne => Function.update_of_ne hne _ _)
      (fun other hother => hunborn _ other (Nat.le_trans hc.size_processes_le hother)) ?_
    intro b'' p' hb'' hp' hrun'
    -- The process has the table that its step has led to.
    obtain rfl : b' = b'' := by simpa using hb''
    have hprocesses : m.processes = s.machine.processes := hgrows.processes_eq
    rw [show (m.setDescriptors pid d).processes[pid]? = some { p with descriptors := d } by
      simp [setDescriptors, hprocesses, Array.getElem?_modify, hp]] at hp'
    cases hp'
    exact (hbegun.advance (fun binding hmem => (hready binding hmem).1) hadvance).confined hc
  · simp only [System.advance, hadvance] at hc ⊢
    refine h.confined hc htexts (fun other hne => Function.update_of_ne hne _ _)
      (fun other hother => hunborn _ other (Nat.le_trans hc.size_processes_le hother)) ?_
    intro b'' p' hb''
    simp at hb''

/-- A process that becomes a program has nothing to be said about any more. -/
theorem Sound.become {pid : Nat} {p : Process} (h : s.Sound cwd plans initial)
    (hp : s.machine.processes[pid]? = some p) (hrun : p.IsRunning) (program : Program) :
    (s.become pid program).Sound cwd plans initial := by
  have hc : Confined pid [] s.machine (s.machine.resume pid program) :=
    .of_acts (.resume (.refl _) program) hp hrun
  refine h.confined hc (fun file hfile => absurd hfile List.not_mem_nil)
    (fun other hne => Function.update_of_ne hne _ _) (fun other hother => ?_) ?_
  · have hlt := (Array.getElem?_eq_some_iff.mp hp).1
    have hle := hc.size_processes_le
    rw [Function.update_of_ne (by omega)]
    exact h.grounded.unborn other (Nat.le_trans hle hother)
  · intro b p' hb
    simp at hb

include hopen hplans in
/-- **Soundness** is kept by every step. -/
theorem Sound.step (h : s.Sound cwd plans initial) (hstep : Step cwd s s') :
    s'.Sound cwd plans initial := by
  -- Where something fails, and where the shell waits, the machine stays as it is: only the phase of
  -- the shell is another one.
  cases hstep with
  | pipe hshell hreader hwriter hne => exact h.makePipe hopen hshell hreader hwriter hne
  | noPipe hshell cause =>
    obtain ⟨held, hphase, hhas⟩ := h.shell.phase
    rw [hshell] at hphase
    exact h.goOn ⟨held, hphase.of_pipe.2.1 cause, hhas⟩
  | close hshell => exact h.closeEnd hshell
  | spawn hshell => exact h.startProcess hshell _
  | noSpawn hshell e =>
    obtain ⟨held, hphase, hhas⟩ := h.shell.phase
    rw [hshell] at hphase
    obtain ⟨held', hperm, hnext⟩ := hphase.of_spawn.2 (.error e)
    exact h.goOn ⟨held', hnext, hhas.perm hperm⟩
  | wait hshell hending =>
    obtain ⟨held, hphase, hhas⟩ := h.shell.phase
    rw [hshell] at hphase
    obtain ⟨rfl, hnext⟩ := hphase.of_wait
    exact h.goOn ⟨[], hnext _, hhas⟩
  | noWait hshell e =>
    obtain ⟨held, hphase, hhas⟩ := h.shell.phase
    rw [hshell] at hphase
    obtain ⟨rfl, hnext⟩ := hphase.of_wait
    exact h.goOn ⟨[], hnext _, hhas⟩
  | advance hbeginning hprocess hrunning => exact h.advance hplans hbeginning hprocess hrunning
  | become _ hprocess hrunning _ _ _ program => exact h.become hprocess hrunning program
  | @program pid m hbeginning hprogram =>
    have hc := confined_step hprogram
    refine h.confined hc (fun file hfile => absurd hfile List.not_mem_nil) (fun _ _ => rfl)
      (fun other hother => ?_) ?_
    · exact h.grounded.unborn other (Nat.le_trans hc.size_processes_le hother)
    · intro b p' hb
      rw [hbeginning] at hb
      cases hb

include hinitial in
/-- A shell that has done nothing yet is sound. -/
theorem Sound.start : (System.start plans initial).Sound cwd plans initial where
  grounded := by
    refine ⟨hinitial, rfl, Nat.le_refl _, fun _ _ => rfl, Nat.le_refl _, ?_, ?_, ?_, .nil,
      fun _ _ => rfl⟩
    · exact fun c hc => absurd hc List.not_mem_nil
    · exact fun c hc => absurd hc List.not_mem_nil
    · exact fun c hc => absurd hc List.not_mem_nil
  shell := by
    refine ⟨⟨[], Phase.start plans, ⟨?_, ?_, ?_, .nil⟩⟩, fun _ _ => rfl⟩
    · rintro e - ⟨c, hc, -⟩
      exact absurd hc List.not_mem_nil
    · exact fun e he => absurd he List.not_mem_nil
    · exact fun e he => absurd he List.not_mem_nil
  begun pid b p hb := by cases hb

include hinitial hopen hplans in
/-- A system is sound all the time. -/
theorem Sound.of_reaches (h : Reaches cwd plans initial s) : s.Sound cwd plans initial := by
  induction h with
  | refl => exact .start hinitial
  | tail _ hstep ih => exact ih.step hopen hplans hstep

end Steps

end Machine.System

end PipeShell
