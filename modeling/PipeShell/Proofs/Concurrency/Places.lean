import PipeShell.Proofs.Concurrency.Soundness

/-!
# Who has which ends

The shell has no end of a conduit at its waits, and a process has those around its stage at most, as
long as nobody comes by an end through a path. A process that is still beginning may have others for
a while; what is said of it is said of the table that its changes lead to.

## Main definitions

* `Entitled`: the ends of conduits that a table may have
* `InPlace`: every process has the ends around its stage at most
* `IsOrdinary`: a step by which nobody comes by an end through a path
* `ReachesOrdinarily`: what a shell may come to by ordinary steps

## Main results

* `InPlace.step`, `InPlace.of_reaches`: ordinary steps leave everything in its place
-/

namespace PipeShell.Machine.System

open Execution

/-! ## Who may have which ends -/

/-- The ends of conduits that a table may have: those around the stage whose number is `place`.
Where there is no such stage it may have none. -/
def Entitled (s : System) (place : Option Nat) (d : Descriptors) : Prop :=
  ∀ file ∈ d.files, ∀ k c, s.conduits[k]? = some c →
    (s.machine.target? file = some (.reader c.pipe) → place = some (k + 1)) ∧
    (s.machine.target? file = some (.writer c.pipe) → place = some k)

/-- The table that the changes lead to that a process has still to make on account of the pipes. -/
def tableOf (s : System) (pid : Nat) (p : Process) : Descriptors :=
  match s.beginnings pid with
  | some b => arrange b.left p.descriptors
  | none => p.descriptors

/-- A process has made all its changes on account of the pipes. -/
def IsArranged (s : System) (pid : Nat) : Prop := ∀ b, s.beginnings pid = some b → b.left = []

/-- Every process has the ends around its stage at most, and those that have been there from the
beginning have none. -/
structure InPlace (initial : Machine) (s : System) : Prop where
  size_le : initial.processes.size ≤ s.machine.processes.size
  outside : ∀ pid < initial.processes.size, s.beginnings pid = none
  entitled : ∀ pid p, s.machine.processes[pid]? = some p → p.IsRunning →
    ∃ place, s.Entitled place (s.tableOf pid p) ∧ (pid < initial.processes.size → place = none)

/-- Of what the processes have opened in this step, nothing is an end of a conduit, unless the
process had that end before. Files that are no pipes, or other pipes, are ordinary in this sense. -/
def IsOrdinary (s s' : System) : Prop :=
  ∀ (pid : Nat) (p' : Process), s'.machine.processes[pid]? = some p' → p'.IsRunning →
    ∀ file ∈ p'.descriptors.files, s.machine.files.size ≤ file →
      ∀ c ∈ s.conduits, ∀ target, s'.machine.target? file = some target →
        target.pipe? = some c.pipe →
          ∃ p, s.machine.processes[pid]? = some p ∧ s.machine.Holds p.descriptors target

/-- What a shell that stands in the directory `cwd` may come to by ordinary steps. -/
def ReachesOrdinarily (cwd : NodeId) (plans : List (Except RedirectionError (Plan Nat)))
    (initial : Machine) : System → Prop :=
  Relation.ReflTransGen (fun s s' => Step cwd s s' ∧ IsOrdinary s s') (start plans initial)

/-- A process that is its program has nothing left to arrange. -/
theorem IsArranged.of_none {s : System} {pid : Nat} (h : s.beginnings pid = none) :
    s.IsArranged pid := by
  intro b hb
  rw [h] at hb
  cases hb

theorem IsArranged.of_some {s : System} {pid : Nat} {b : Beginning}
    (h : s.beginnings pid = some b) (hleft : b.left = []) : s.IsArranged pid := by
  intro b' hb'
  rw [h] at hb'
  cases hb'
  exact hleft

/-- A process that has nothing left to arrange has the table that it will have. -/
theorem IsArranged.tableOf_eq {s : System} {pid : Nat} (h : s.IsArranged pid) (p : Process) :
    s.tableOf pid p = p.descriptors := by
  unfold tableOf
  split
  · rename_i b hb
    rw [h b hb]
    rfl
  · rfl

theorem mem_files_tableOf {s : System} {pid : Nat} {p : Process} {file : Nat}
    (h : file ∈ (s.tableOf pid p).files) : file ∈ p.descriptors.files := by
  unfold tableOf at h
  split at h
  · exact mem_files_arrange h
  · exact h

variable {cwd : NodeId} {plans : List (Except RedirectionError (Plan Nat))} {initial : Machine}
  {s s' : System} {place : Option Nat} {d d' : Descriptors}

theorem ReachesOrdinarily.reaches (h : ReachesOrdinarily cwd plans initial s) :
    Reaches cwd plans initial s := by
  induction h with
  | refl => exact .refl
  | tail _ hstep ih => exact ih.tail hstep.1

/-- What an entitled table holds is an end around its stage. -/
theorem Entitled.of_holds {k : Nat} {c : Conduit} {target : Target} (h : s.Entitled place d)
    (hc : s.conduits[k]? = some c) (hholds : s.machine.Holds d target) :
    (target = .reader c.pipe → place = some (k + 1)) ∧
      (target = .writer c.pipe → place = some k) := by
  obtain ⟨file, hfile, htarget⟩ := hholds
  refine ⟨?_, ?_⟩
  · rintro rfl
    exact (h file hfile k c hc).1 htarget
  · rintro rfl
    exact (h file hfile k c hc).2 htarget

/-- Without a place there is no end. -/
theorem Entitled.not_holds {k : Nat} {c : Conduit} {target : Target} (h : s.Entitled none d)
    (hc : s.conduits[k]? = some c) (hpipe : target.pipe? = some c.pipe) :
    ¬ s.machine.Holds d target := by
  intro hholds
  have hends := h.of_holds hc hholds
  cases target with
  | node => cases hpipe
  | reader pipe =>
    cases hpipe
    cases hends.1 rfl
  | writer pipe =>
    cases hpipe
    cases hends.2 rfl

theorem Entitled.of_not_isEnd (h : ∀ file ∈ d.files, ¬ s.IsEnd file) : s.Entitled place d := by
  intro file hfile k c hc
  have hmem := List.mem_of_getElem? hc
  exact ⟨fun htarget => absurd ⟨c, hmem, _, htarget, rfl⟩ (h file hfile),
    fun htarget => absurd ⟨c, hmem, _, htarget, rfl⟩ (h file hfile)⟩

/-- What a table is entitled to depends on what its files lead to, and on the conduits that they
lead to. -/
theorem Entitled.congr (h : s.Entitled place d)
    (hsame : ∀ file ∈ d'.files, file ∈ d.files ∧
      ∀ (k : Nat) (c : Conduit) target, s'.conduits[k]? = some c →
        s'.machine.target? file = some target → target.pipe? = some c.pipe →
          s.conduits[k]? = some c ∧ s.machine.target? file = some target) :
    s'.Entitled place d' := by
  intro file hfile k c hc
  obtain ⟨hmem, hsame⟩ := hsame file hfile
  refine ⟨fun htarget => ?_, fun htarget => ?_⟩
  · obtain ⟨hc, htarget⟩ := hsame k c _ hc htarget rfl
    exact (h file hmem k c hc).1 htarget
  · obtain ⟨hc, htarget⟩ := hsame k c _ hc htarget rfl
    exact (h file hmem k c hc).2 htarget

/-- A conduit is known by its pipe. -/
theorem Grounded.index_eq (h : s.Grounded initial) {j k : Nat} {c c' : Conduit}
    (hj : s.conduits[j]? = some c) (hk : s.conduits[k]? = some c') (hpipe : c.pipe = c'.pipe) :
    j = k := by
  have hj' : (s.conduits.map Conduit.pipe)[j]? = some c.pipe := by simp [hj]
  have hk' : (s.conduits.map Conduit.pipe)[k]? = some c.pipe := by simp [hk, hpipe]
  obtain ⟨hlt, -⟩ := List.getElem?_eq_some_iff.mp hj'
  exact (List.getElem?_inj hlt h.distinct).mp (hj'.trans hk'.symm)

/-- What is meant to be the standard input of a stage is a reading end. -/
theorem Grounded.of_readerBefore (h : s.Grounded initial) {stage file : Nat}
    (hreader : readerBefore s.conduits stage = some file) :
    ∃ k c, stage = k + 1 ∧ s.conduits[k]? = some c ∧
      s.machine.target? file = some (.reader c.pipe) := by
  cases stage with
  | zero => cases hreader
  | succ k =>
    obtain ⟨c, hc, rfl⟩ := Option.map_eq_some_iff.mp hreader
    exact ⟨k, c, rfl, hc, h.reader_eq c (List.mem_of_getElem? hc)⟩

/-- What is meant to be the standard output of a stage is a writing end. -/
theorem Grounded.of_writerBehind (h : s.Grounded initial) {stage file : Nat}
    (hwriter : writerBehind s.conduits stage = some file) :
    ∃ c, s.conduits[stage]? = some c ∧ s.machine.target? file = some (.writer c.pipe) := by
  obtain ⟨c, hc, rfl⟩ := Option.map_eq_some_iff.mp hwriter
  exact ⟨c, hc, h.writer_eq c (List.mem_of_getElem? hc)⟩

/-! ### Steps of the shell -/

/-- A process that is started will have the ends around its stage at most. -/
theorem entitled_arrange (hg : s.Grounded initial) {held : List (Nat × Nat)} (hhas : s.Has held)
    {l : Launch Nat Nat} (hwired : IsWired plans s.conduits held l) :
    s.Entitled (some l.stage) (arrange (arrangements l) s.machine.descriptors) := by
  intro file hfile k c hc
  obtain ⟨fd, hentry⟩ := Descriptors.mem_files.mp hfile
  have hmem := List.mem_of_getElem? hc
  -- An end that is left is the one in front of the stage or the one behind it.
  have hends : s.IsEnd file →
      (∃ j c', l.stage = j + 1 ∧ s.conduits[j]? = some c' ∧
        s.machine.target? file = some (.reader c'.pipe)) ∨
      ∃ c', s.conduits[l.stage]? = some c' ∧ s.machine.target? file = some (.writer c'.pipe) :=
    fun hend => (hhas.arrange hwired hentry hend).imp (fun h => hg.of_readerBefore h.2)
      fun h => hg.of_writerBehind h.2
  constructor
  · intro htarget
    rcases hends ⟨c, hmem, _, htarget, rfl⟩ with ⟨j, c', hstage, hj, hreader⟩ | ⟨c', -, hwriter⟩
    · rw [hreader] at htarget
      have hpipe : c'.pipe = c.pipe := Target.reader.inj (Option.some.inj htarget)
      rw [hstage, hg.index_eq hj hc hpipe]
    · rw [hwriter] at htarget
      cases htarget
  · intro htarget
    rcases hends ⟨c, hmem, _, htarget, rfl⟩ with ⟨j, c', -, -, hreader⟩ | ⟨c', hj, hwriter⟩
    · rw [hreader] at htarget
      cases htarget
    · rw [hwriter] at htarget
      have hpipe : c'.pipe = c.pipe := Target.writer.inj (Option.some.inj htarget)
      rw [hg.index_eq hj hc hpipe]

/-- Where every process has the table that it has had, or will have, and no open file comes to lead
to a conduit. -/
theorem InPlace.of_tables (h : s.InPlace initial)
    (hsize : s.machine.processes.size ≤ s'.machine.processes.size)
    (houtside : ∀ pid < initial.processes.size, s'.beginnings pid = s.beginnings pid)
    (htables : ∀ (pid : Nat) (p' : Process), s'.machine.processes[pid]? = some p' → p'.IsRunning →
      ∃ p, s.machine.processes[pid]? = some p ∧ p.IsRunning ∧ s'.tableOf pid p' = s.tableOf pid p)
    (hsame : ∀ (pid : Nat) (p : Process), s.machine.processes[pid]? = some p → p.IsRunning →
      ∀ file ∈ p.descriptors.files, ∀ (k : Nat) (c : Conduit) target, s'.conduits[k]? = some c →
        s'.machine.target? file = some target → target.pipe? = some c.pipe →
          s.conduits[k]? = some c ∧ s.machine.target? file = some target) :
    s'.InPlace initial := by
  refine ⟨Nat.le_trans h.size_le hsize, fun pid hpid => (houtside pid hpid).trans
    (h.outside pid hpid), fun pid p' hp' hrun' => ?_⟩
  obtain ⟨p, hp, hrun, htable⟩ := htables pid p' hp' hrun'
  obtain ⟨place, hentitled, hplace⟩ := h.entitled pid p hp hrun
  rw [htable]
  refine ⟨place, hentitled.congr fun file hfile => ⟨hfile, ?_⟩, hplace⟩
  exact hsame pid p hp hrun file (mem_files_tableOf hfile)

/-- Where the shell goes on, and no process and no open file is different. -/
theorem InPlace.of_eq (h : s.InPlace initial)
    (hprocesses : s'.machine.processes = s.machine.processes)
    (hbeginnings : s'.beginnings = s.beginnings) (hconduits : s'.conduits = s.conduits)
    (hfiles : s'.machine.files = s.machine.files) : s'.InPlace initial := by
  refine h.of_tables (Nat.le_of_eq (by rw [hprocesses])) (fun pid _ => by rw [hbeginnings]) ?_ ?_
  · intro pid p hp hrun
    rw [hprocesses] at hp
    exact ⟨p, hp, hrun, by rw [tableOf, tableOf, hbeginnings]⟩
  · intro pid p _ _ file _ k c target hc htarget _
    exact ⟨hconduits ▸ hc, by rwa [target?, hfiles] at htarget⟩

theorem InPlace.makePipe (h : s.InPlace initial) (hg : s.Grounded initial) (reader writer : Nat)
    (shell : Course Nat Nat Nat) : (s.makePipe reader writer shell).InPlace initial := by
  refine h.of_tables (Nat.le_refl _) (fun _ _ => rfl)
    (fun pid p hp hrun => ⟨p, hp, hrun, rfl⟩) ?_
  intro pid p hp hrun file hfile k c target hc htarget hpipe
  have hlt := hg.lt_size hp hrun hfile
  have htarget : s.machine.target? file = some target :=
    ((Grows.openPipe s.machine).target?_eq file hlt).symm.trans htarget
  refine ⟨?_, htarget⟩
  -- The file has led to the pipe before, so it is none that was made just now.
  have hold := hg.wellFormed.led file target c.pipe htarget hpipe
  rcases Nat.lt_or_ge k s.conduits.length with hk | hk
  · simpa only [System.makePipe, List.getElem?_append_left hk] using hc
  · simp only [System.makePipe, List.getElem?_append_right hk] at hc
    have hlast := List.mem_singleton.mp (List.mem_of_getElem? hc)
    rw [hlast] at hold
    exact absurd hold (Nat.lt_irrefl _)

theorem InPlace.startProcess (h : s.InPlace initial) (hg : s.Grounded initial)
    {held : List (Nat × Nat)} (hhas : s.Has held) {l : Launch Nat Nat}
    (hwired : IsWired plans s.conduits held l) (cwd : NodeId) (shell : Course Nat Nat Nat) :
    (s.startProcess cwd l shell).InPlace initial := by
  refine ⟨?_, fun pid hpid => ?_, fun pid p hp hrun => ?_⟩
  · have hle := h.size_le
    simp only [System.startProcess, addProcess, Array.size_push]
    omega
  · have hne : pid ≠ s.machine.processes.size := Nat.ne_of_lt (Nat.lt_of_lt_of_le hpid h.size_le)
    simp only [System.startProcess, Function.update_of_ne hne]
    exact h.outside pid hpid
  simp only [System.startProcess, addProcess, Array.getElem?_push] at hp
  split at hp
  · rename_i hpid
    cases hp
    subst hpid
    refine ⟨some l.stage, ?_, fun hlt => absurd hlt (Nat.not_lt_of_ge h.size_le)⟩
    simp only [tableOf, System.startProcess, Function.update_self]
    exact entitled_arrange hg hhas hwired
  · rename_i hpid
    obtain ⟨place, hentitled, hplace⟩ := h.entitled pid p hp hrun
    refine ⟨place, ?_, hplace⟩
    simp only [tableOf, System.startProcess, Function.update_of_ne hpid]
    exact hentitled

/-! ### Steps of processes -/

section Processes

variable {pid : Nat} {texts : List Nat} {m : Machine} {beginnings : Nat → Option Beginning}

/-- By an ordinary step a process gets no end that it is not entitled to. -/
theorem Entitled.of_mayGet (hinitial : initial.WellFormed) (hg : s.Grounded initial)
    {p p' : Process} {other : Nat} (hp : s.machine.processes[pid]? = some p)
    (h : s.Entitled place p.descriptors) (hrun : p.IsRunning)
    (hother : other = pid ∨ s.machine.processes.size ≤ other)
    (hc : Confined pid texts s.machine m) (htexts : ∀ file ∈ texts, file < initial.files.size)
    (hordinary : s.IsOrdinary { s with machine := m, beginnings })
    (hp' : m.processes[other]? = some p') (hrun' : p'.IsRunning)
    (hfiles : ∀ file ∈ p'.descriptors.files, MayGet texts p s.machine m file) :
    Entitled { s with machine := m, beginnings } place p'.descriptors := by
  intro file hfile k c hconduit
  have hmem := List.mem_of_getElem? hconduit
  -- Whatever end the file leads to, the process held that end before.
  have hheld : ∀ target, m.target? file = some target → target.pipe? = some c.pipe →
      s.machine.Holds p.descriptors target := by
    intro target htarget hpipe
    rcases hfiles file hfile with hold | htext | ⟨hnew, -⟩
    · have hlt := hg.lt_size hp hrun hold
      exact ⟨file, hold, (hc.target?_eq file hlt).symm.trans htarget⟩
    · have hlt := Nat.lt_of_lt_of_le (htexts file htext) hg.size_files_le
      have htarget := (hc.target?_eq file hlt).symm.trans htarget
      exact absurd ⟨c, hmem, target, htarget, hpipe⟩ (hg.not_isEnd hinitial (htexts file htext))
    · obtain ⟨p₀, hp₀, hholds⟩ :=
        hordinary other p' hp' hrun' file hfile hnew c hmem target htarget hpipe
      rcases hother with rfl | hchild
      · rw [hp] at hp₀
        cases hp₀
        exact hholds
      · -- A child that was started just now had nothing before.
        have hlt := (Array.getElem?_eq_some_iff.mp hp₀).1
        omega
  exact ⟨fun htarget => (h.of_holds hconduit (hheld _ htarget rfl)).1 rfl,
    fun htarget => (h.of_holds hconduit (hheld _ htarget rfl)).2 rfl⟩

/-- An ordinary step that is confined to a process leaves everything in its place, if that process
had nothing left to arrange. -/
theorem InPlace.confined (h : s.InPlace initial) (hinitial : initial.WellFormed)
    (hg : s.Grounded initial) (hc : Confined pid texts s.machine m)
    (htexts : ∀ file ∈ texts, file < initial.files.size)
    (hother : ∀ other ≠ pid, beginnings other = s.beginnings other)
    (hbegun : s.beginnings pid = none → beginnings pid = none)
    (hbefore : s.IsArranged pid) (hafter : IsArranged { s with machine := m, beginnings } pid)
    (hordinary : s.IsOrdinary { s with machine := m, beginnings }) :
    InPlace initial { s with machine := m, beginnings } := by
  refine ⟨Nat.le_trans h.size_le hc.size_processes_le, fun other hlt => ?_,
    fun other p' hp' hrun' => ?_⟩
  · by_cases hpid : other = pid
    · subst hpid
      exact hbegun (h.outside other hlt)
    · exact (hother other hpid).trans (h.outside other hlt)
  rcases hc.stems other p' hp' hrun' with ⟨hne, p, hp, hrun, hd⟩ | ⟨hwho, p, hp, hrun, hfiles⟩
  · obtain ⟨place, hentitled, hplace⟩ := h.entitled other p hp hrun
    refine ⟨place, ?_, hplace⟩
    have htable : tableOf { s with machine := m, beginnings } other p' = s.tableOf other p := by
      simp only [tableOf, hother other hne, hd]
    rw [htable]
    refine hentitled.congr fun file hfile => ⟨hfile, fun k c target hconduit htarget _ => ?_⟩
    have hlt := hg.lt_size hp hrun (mem_files_tableOf hfile)
    exact ⟨hconduit, (hc.target?_eq file hlt).symm.trans htarget⟩
  · obtain ⟨place, hentitled, hplace⟩ := h.entitled pid p hp hrun
    rw [hbefore.tableOf_eq] at hentitled
    have hentitled' : Entitled { s with machine := m, beginnings } place p'.descriptors :=
      hentitled.of_mayGet hinitial hg hp hrun hwho hc htexts hordinary hp' hrun' hfiles
    have harranged : IsArranged { s with machine := m, beginnings } other := by
      by_cases hpid : other = pid
      · subst hpid
        exact hafter
      · -- A child that was started just now is its program from the beginning.
        exact .of_none ((hother other hpid).trans (hg.unborn other (hwho.resolve_left hpid)))
    rw [harranged.tableOf_eq]
    refine ⟨place, hentitled', fun hlt => hplace ?_⟩
    rcases hwho with rfl | hchild
    · exact hlt
    · have hle := h.size_le
      omega

/-- A process that has nothing left to arrange has nothing left to arrange after a step. -/
theorem left_of_advance {b b' : Beginning} {d d' : Descriptors} {m m' : Machine}
    (h : b.advance cwd d m = (.inl b', d', m')) (hleft : b.left = []) : b'.left = [] := by
  unfold Beginning.advance at h
  split at h
  · rename_i hcons
    rw [hleft] at hcons
    cases hcons
  · cases h
  · split at h <;> cases h
    exact hleft
  · split at h <;> cases h

/-- A process makes one of its changes on account of the pipes: then it has one less to make, so
they all lead to the same table still. -/
theorem InPlace.rearrange (h : s.InPlace initial) {b : Beginning} {p : Process}
    {first : Arrangement} {rest : List Arrangement} (hb : s.beginnings pid = some b)
    (hp : s.machine.processes[pid]? = some p) (hrun : p.IsRunning)
    (hleft : b.left = first :: rest) :
    (s.advance cwd pid b p).InPlace initial := by
  have hadvance : b.advance cwd p.descriptors s.machine =
      (.inl { b with left := rest }, first.perform p.descriptors, s.machine) := by
    simp [Beginning.advance, hleft]
  simp only [System.advance, hadvance]
  refine h.of_tables (Nat.le_of_eq Array.size_modify.symm) (fun other hlt => ?_) ?_
    fun _ _ _ _ file _ k c target hc htarget _ => ⟨hc, htarget⟩
  · have hne : other ≠ pid := by
      rintro rfl
      rw [h.outside other hlt] at hb
      cases hb
    exact Function.update_of_ne hne _ _
  · intro other p' hp' hrun'
    simp only [setDescriptors, Array.getElem?_modify] at hp'
    split at hp'
    · rename_i hpid
      subst hpid
      rw [hp] at hp'
      cases hp'
      refine ⟨p, hp, hrun, ?_⟩
      simp only [tableOf, Function.update_self, hb, hleft]
      rfl
    · rename_i hpid
      refine ⟨p', hp', hrun', ?_⟩
      simp only [tableOf, Function.update_of_ne (Ne.symm hpid)]

theorem InPlace.advance (h : s.InPlace initial) (hsound : s.Sound cwd plans initial)
    (hinitial : initial.WellFormed) (hplans : ∀ plan, .ok plan ∈ plans → plan.IsReady initial)
    {b : Beginning} {p : Process} (hb : s.beginnings pid = some b)
    (hp : s.machine.processes[pid]? = some p) (hrun : p.IsRunning)
    (hordinary : s.IsOrdinary (s.advance cwd pid b p)) :
    (s.advance cwd pid b p).InPlace initial := by
  cases hleft : b.left with
  | cons first rest => exact h.rearrange hb hp hrun hleft
  | nil =>
    have hc := confined_advance cwd b hp hrun
    have htexts := (hsound.begun pid b p hb hp hrun).lt_of_mem_textsOf hplans
    have hbegun : ∀ {next : Option Beginning}, s.beginnings pid = none → next = none := by
      intro next hnone
      rw [hb] at hnone
      cases hnone
    have hbefore : s.IsArranged pid := .of_some hb hleft
    rcases hadvance : b.advance cwd p.descriptors s.machine with ⟨b' | program, d, m⟩
    · simp only [System.advance, hadvance] at hc hordinary ⊢
      exact h.confined hinitial hsound.grounded hc htexts
        (fun other hne => Function.update_of_ne hne _ _) hbegun hbefore
        (.of_some (Function.update_self _ _ _) (left_of_advance hadvance hleft)) hordinary
    · simp only [System.advance, hadvance] at hc hordinary ⊢
      exact h.confined hinitial hsound.grounded hc htexts
        (fun other hne => Function.update_of_ne hne _ _) hbegun hbefore
        (.of_none (Function.update_self _ _ _)) hordinary

/-- A process keeps its place when it becomes a program. -/
theorem InPlace.become (h : s.InPlace initial) (hg : s.Grounded initial)
    (hinitial : initial.WellFormed) {b : Beginning} {p : Process} (hb : s.beginnings pid = some b)
    (hp : s.machine.processes[pid]? = some p) (hrun : p.IsRunning) (hleft : b.left = [])
    (program : Program) (hordinary : s.IsOrdinary (s.become pid program)) :
    (s.become pid program).InPlace initial := by
  have hc : Confined pid [] s.machine (s.machine.resume pid program) :=
    .of_acts (.resume (.refl _) program) hp hrun
  exact h.confined hinitial hg hc (fun file hfile => absurd hfile List.not_mem_nil)
    (fun other hne => Function.update_of_ne hne _ _) (fun _ => Function.update_self _ _ _)
    (.of_some hb hleft) (.of_none (Function.update_self _ _ _)) hordinary

end Processes

/-! ### All steps -/

/-- Ordinary steps leave everything in its place. -/
theorem InPlace.step (h : s.InPlace initial) (hsound : s.Sound cwd plans initial)
    (hinitial : initial.WellFormed) (hplans : ∀ plan, .ok plan ∈ plans → plan.IsReady initial)
    (hstep : Step cwd s s') (hordinary : s.IsOrdinary s') : s'.InPlace initial := by
  have hg := hsound.grounded
  cases hstep with
  | pipe => exact h.makePipe hg _ _ _
  | noPipe => exact h.of_eq rfl rfl rfl rfl
  | close => exact h.of_eq rfl rfl rfl rfl
  | spawn hshell =>
    obtain ⟨held, hphase, hhas⟩ := hsound.shell.phase
    rw [hshell] at hphase
    exact h.startProcess hg hhas hphase.of_spawn.1 cwd _
  | noSpawn => exact h.of_eq rfl rfl rfl rfl
  | wait => exact h.of_eq rfl rfl rfl rfl
  | noWait => exact h.of_eq rfl rfl rfl rfl
  | advance hbeginning hprocess hrunning =>
    exact h.advance hsound hinitial hplans hbeginning hprocess hrunning hordinary
  | become hbeginning hprocess hrunning _ hleft _ program =>
    exact h.become hg hinitial hbeginning hprocess hrunning hleft program hordinary
  | program hbeginning hprogram =>
    exact h.confined hinitial hg (confined_step hprogram)
      (fun file hfile => absurd hfile List.not_mem_nil) (fun _ _ => rfl) id
      (.of_none hbeginning) (.of_none hbeginning) hordinary

/-- Before the shell has done anything there are no conduits. -/
theorem InPlace.start : (System.start plans initial).InPlace initial := by
  refine ⟨Nat.le_refl _, fun _ _ => rfl, fun pid p _ _ => ⟨none, ?_, fun _ => rfl⟩⟩
  exact Entitled.of_not_isEnd fun file _ ⟨c, hc, _⟩ => absurd hc List.not_mem_nil

/-- All that an ordinary shell comes to is in its place. -/
theorem InPlace.of_reaches (hinitial : initial.WellFormed)
    (hopen : ∀ fd ≤ 2, (initial.descriptors.get? fd).isSome = true)
    (hplans : ∀ plan, .ok plan ∈ plans → plan.IsReady initial)
    (h : ReachesOrdinarily cwd plans initial s) : s.InPlace initial := by
  induction h with
  | refl => exact .start
  | tail hreaches hstep ih =>
    have hsound := Sound.of_reaches hinitial hopen hplans (ReachesOrdinarily.reaches hreaches)
    exact ih.step hsound hinitial hplans hstep.1 hstep.2

/-! ## Ordinary steps -/

/-- A step by which no file is opened is ordinary. -/
theorem ReachesOrdinarily.quiet (h : ReachesOrdinarily cwd plans initial s)
    (hinitial : initial.WellFormed) (hopen : ∀ fd ≤ 2, (initial.descriptors.get? fd).isSome = true)
    (hplans : ∀ plan, .ok plan ∈ plans → plan.IsReady initial) (hstep : Step cwd s s')
    (hfiles : s'.machine.files.size = s.machine.files.size) :
    ReachesOrdinarily cwd plans initial s' := by
  have hsound : s'.Sound cwd plans initial :=
    .of_reaches hinitial hopen hplans (h.reaches.tail hstep)
  refine h.tail ⟨hstep, fun pid p' hp' hrun' file hfile hnew => ?_⟩
  have hlt := hsound.grounded.lt_size hp' hrun' hfile
  omega

/-- A step of the shell by which a pipe is made is ordinary. -/
theorem ReachesOrdinarily.makePipe (h : ReachesOrdinarily cwd plans initial s)
    (hinitial : initial.WellFormed) (hopen : ∀ fd ≤ 2, (initial.descriptors.get? fd).isSome = true)
    (hplans : ∀ plan, .ok plan ∈ plans → plan.IsReady initial) {reader writer : Nat}
    {shell : Course Nat Nat Nat} (hstep : Step cwd s (s.makePipe reader writer shell)) :
    ReachesOrdinarily cwd plans initial (s.makePipe reader writer shell) := by
  have hsound : s.Sound cwd plans initial := .of_reaches hinitial hopen hplans h.reaches
  refine h.tail ⟨hstep, fun pid p' hp' hrun' file hfile hnew => ?_⟩
  -- The tables of the processes are the same, and name files that there were before.
  have hlt := hsound.grounded.lt_size hp' hrun' hfile
  omega

end PipeShell.Machine.System
