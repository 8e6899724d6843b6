import Mathlib.Logic.Relation
import PipeShell.Proofs.Machine.Confinement
import PipeShell.Proofs.Processes.Departure

/-!
# How a process ends

Whatever runs on a machine and in whatever order, and whatever the shell does besides, what a
process comes to be doing is up to itself, unless it is sent a signal. So a process that is about to
leave with a status ends with that status. And once a process has ended, the way it has ended is
never changed. So waiting for a process tells how this process has ended, be it asked sooner or
later, and whatever became of the others.

## Main definitions

* `image?`: what a process is doing
* `Signals`: a process asks for a signal to be sent
* `Move`, `Later`: one thing that happens on a machine, and what a machine may come to
* `IsSignaled`: on the way a process is sent a signal
* `IsKept`: what a process is doing is among these, as long as it is up to itself
* `Leaving`, `Raising`, `Saying`: the ways of a process that only leaves any more

## Main results

* `image?_step`: a step of one process changes what another one is doing only by a signal
* `Later.of_ended`: a process that has ended has ended for good
* `Later.of_kept`: what a process is doing stays among what it keeps to, unless it is sent a signal
* `fst_wait`, `wait_of_kept`: waiting tells how the process has ended
-/

namespace PipeShell.Machine

variable {m m' m₁ : Machine} {pid other : Nat} {image : Image} {status : ExitStatus}

/-! ## What a process is doing -/

/-- What a process is doing. -/
def image? (m : Machine) (pid : Nat) : Option Image := (m.processes[pid]?).map Process.image

theorem ending?_eq_some_iff :
    m.ending? pid = some status ↔ m.image? pid = some (.ended status) := by
  unfold ending? image?
  rcases m.processes[pid]? with
    _ | ⟨descriptors, cwd, umask, _ | _, ignored, caught, noted⟩ <;> simp

theorem Grows.image?_eq (h : m.Grows m') (pid : Nat) : m'.image? pid = m.image? pid := by
  rw [image?, image?, h.processes_eq]

theorem image?_modifyProcess_of_ne (m : Machine) (hne : other ≠ pid) (f : Process → Process) :
    (m.modifyProcess pid f).image? other = m.image? other := by
  rw [image?, modifyProcess, Array.getElem?_modify, if_neg hne.symm, image?]

theorem image?_finish (h : m.image? pid = some image) (status : ExitStatus) :
    (m.finish pid status).image? pid = some (.ended status) := by
  obtain ⟨p, hp, -⟩ := Option.map_eq_some_iff.mp h
  simp [image?, finish, Array.getElem?_modify, hp]

theorem image?_addProcess (h : m.image? pid = some image) (p : Process) :
    (m.addProcess p).2.image? pid = some image := by
  obtain ⟨q, hq, rfl⟩ := Option.map_eq_some_iff.mp h
  have hlt := (Array.getElem?_eq_some_iff.mp hq).1
  simp [image?, addProcess, Array.getElem?_push, Nat.ne_of_lt hlt, hq]

/-- Who acts changes what nobody else is doing. -/
theorem Acts.image?_eq {texts : List Nat} {p : Process} (h : Acts pid texts p m m')
    (hne : other ≠ pid) : m'.image? other = m.image? other := by
  obtain ⟨m₁, g, hgrows, -, rfl⟩ := h
  rw [image?_modifyProcess_of_ne m₁ hne, hgrows.image?_eq]

/-! ## Signals -/

/-- A process asks for a signal to be sent to another one. -/
def Signals (m : Machine) (sender receiver : Nat) : Prop :=
  ∃ number next, m.image? sender = some (.running (.ask (.signal receiver number) next))

theorem image?_sendSignal_of_ne (m : Machine) {receiver : Nat} (hne : other ≠ receiver)
    (number : Nat) : (m.sendSignal receiver number).2.image? other = m.image? other := by
  unfold sendSignal
  split
  · rfl
  split
  · rfl
  split
  · rfl
  split
  · exact image?_modifyProcess_of_ne m hne _
  split
  · rfl
  · exact image?_modifyProcess_of_ne m hne _

/-- A process that has ended does not mind a signal. -/
theorem image?_sendSignal_of_ended {receiver : Nat} (hended : m.image? other = some (.ended status))
    (number : Nat) : (m.sendSignal receiver number).2.image? other = some (.ended status) := by
  by_cases hne : other = receiver
  · subst hne
    obtain ⟨p, hp, himage⟩ := Option.map_eq_some_iff.mp hended
    unfold sendSignal
    rw [hp]
    dsimp only
    rw [himage]
    exact hended
  · rw [image?_sendSignal_of_ne m hne, hended]

/-! ## Steps of processes -/

/-- **A step of one process** changes what another one is doing only by a signal, and this only if
it has not ended. -/
theorem image?_step (h : m.step pid = some m') (hne : other ≠ pid)
    (himage : m.image? other = some image)
    (hspared : ¬ m.Signals pid other ∨ ∃ status, image = .ended status) :
    m'.image? other = some image := by
  unfold step at h
  split at h
  · cases h
  rename_i p hp
  split at h
  · cases h
  · cases h
    exact (image?_modifyProcess_of_ne m hne _).trans himage
  · cases h
    exact (image?_modifyProcess_of_ne m hne _).trans himage
  · rename_i request next hasks
    by_cases hsignal : ∃ receiver number, request = .signal receiver number
    · obtain ⟨receiver, number, rfl⟩ := hsignal
      have hsent : (m.sendSignal receiver number).2.image? other = some image := by
        rcases hspared with hsilent | ⟨status, rfl⟩
        · -- The signal is for somebody else.
          rw [image?_sendSignal_of_ne m ?_ number, himage]
          rintro rfl
          exact hsilent ⟨number, next, by rw [image?, hp, Option.map_some, hasks]⟩
        · exact image?_sendSignal_of_ended himage number
      rcases meet_signal_cases h with rfl | ⟨q, program, -, -, rfl⟩
      · exact hsent
      · exact (image?_modifyProcess_of_ne _ hne _).trans hsent
    · have hacts := acts_meet hp h fun receiver number hrequest =>
        hsignal ⟨receiver, number, hrequest⟩
      rw [hacts.image?_eq hne, himage]
  · cases h
    exact (image?_modifyProcess_of_ne _ hne _).trans (image?_addProcess himage _)

/-- A process that is about to leave does so at its next step. -/
theorem step_of_leave {k : Nat} (h : m.image? pid = some (.running (.leave k))) :
    m.step pid = some (m.finish pid (.exited (k % 256))) := by
  obtain ⟨p, hp, himage⟩ := Option.map_eq_some_iff.mp h
  unfold step
  rw [hp]
  dsimp only
  rw [himage]

theorem step_of_raise {signal : Nat} (h : m.image? pid = some (.running (.raise signal))) :
    m.step pid = some (m.finish pid (.signaled signal)) := by
  obtain ⟨p, hp, himage⟩ := Option.map_eq_some_iff.mp h
  unfold step
  rw [hp]
  dsimp only
  rw [himage]

theorem step_of_ended (h : m.image? pid = some (.ended status)) : m.step pid = none := by
  obtain ⟨p, hp, himage⟩ := Option.map_eq_some_iff.mp h
  unfold step
  rw [hp]
  dsimp only
  rw [himage]

/-! ## What happens on a machine -/

/-- One thing that happens on a machine: a process takes a step, or a shell that stands in the
directory `cwd` makes a pipe, lets go of a pipe end, or starts a process. -/
inductive Move (cwd : NodeId) : Machine → Machine → Prop where
  | step {before after : Machine} {mover : Nat} (h : before.step mover = some after) :
    Move cwd before after
  | pipe (before : Machine) : Move cwd before before.pipe.2
  | close (before : Machine) (fd : Nat) :
    Move cwd before { before with descriptors := before.descriptors.drop fd }
  | spawn (before : Machine) (l : Launch Nat Nat) : Move cwd before (spawn cwd l before).2

/-- What a machine may come to. -/
def Later (cwd : NodeId) : Machine → Machine → Prop := Relation.ReflTransGen (Move cwd)

/-- On the way from one machine to another, a process is sent a signal. -/
def IsSignaled (cwd : NodeId) (pid : Nat) (m m' : Machine) : Prop :=
  ∃ m₁ m₂ sender, Later cwd m m₁ ∧ m₁.Signals sender pid ∧ m₁.step sender = some m₂ ∧
    Later cwd m₂ m'

variable {cwd : NodeId}

theorem IsSignaled.tail (h : IsSignaled cwd pid m m₁) (later : Later cwd m₁ m') :
    IsSignaled cwd pid m m' := by
  obtain ⟨before, after, sender, hbefore, hsignals, hstep, hafter⟩ := h
  exact ⟨before, after, sender, hbefore, hsignals, hstep, hafter.trans later⟩

theorem image?_pipe (m : Machine) (pid : Nat) : m.pipe.2.image? pid = m.image? pid :=
  (Grows.openPipe m).image?_eq pid

theorem image?_spawn (l : Launch Nat Nat) (h : m.image? pid = some image) :
    (spawn cwd l m).2.image? pid = some image := by
  obtain ⟨carried, d₁, m₁, program, said, hdeparts⟩ := exists_departs cwd l m.descriptors m
  obtain ⟨hspawn, hgrows⟩ := spawn_of_departs hdeparts
  rw [hspawn]
  refine image?_addProcess ?_ _
  rw [hgrows.image?_eq, h]

/-- What one move does not do by a signal, it does not do, unless the process takes its own step. -/
theorem Move.image?_eq (h : Move cwd m m') (himage : m.image? pid = some image)
    (hstep : m.step pid = some m' → m'.image? pid = some image)
    (hspared : (∀ sender, m.step sender = some m' → ¬ m.Signals sender pid) ∨
      ∃ status, image = .ended status) : m'.image? pid = some image := by
  cases h with
  | @step _ mover h =>
    by_cases hmover : pid = mover
    · subst hmover
      exact hstep h
    · exact image?_step h hmover himage (hspared.imp_left fun hsilent => hsilent mover h)
  | pipe => rw [image?_pipe, himage]
  | close => exact himage
  | spawn l => exact image?_spawn l himage

/-- How a process has ended is not changed. -/
theorem Move.of_ended (h : Move cwd m m') (hended : m.image? pid = some (.ended status)) :
    m'.image? pid = some (.ended status) := by
  refine h.image?_eq hended (fun hstep => ?_) (.inr ⟨status, rfl⟩)
  rw [step_of_ended hended] at hstep
  cases hstep

/-- What a process is doing is among these, as long as it is up to itself. -/
def IsKept (S : Image → Prop) : Prop :=
  ∀ (m m' : Machine) (pid : Nat) (image : Image), S image → m.image? pid = some image →
    m.step pid = some m' → ∃ image', m'.image? pid = some image' ∧ S image'

/-- What a process is doing stays among what it keeps to, or it has been sent a signal. -/
theorem Move.of_kept {S : Image → Prop} (hS : IsKept S) (h : Move cwd m m')
    (himage : m.image? pid = some image) (hin : S image) :
    (∃ image', m'.image? pid = some image' ∧ S image') ∨
      ∃ sender, m.Signals sender pid ∧ m.step sender = some m' := by
  by_cases hown : m.step pid = some m'
  · exact .inl (hS m m' pid image hin himage hown)
  by_cases hsignal : ∃ sender, m.Signals sender pid ∧ m.step sender = some m'
  · exact .inr hsignal
  refine .inl ⟨image, h.image?_eq himage (absurd · hown)
    (.inl fun sender hstep hsignals => ?_), hin⟩
  exact hsignal ⟨sender, hsignals, hstep⟩

/-- **A process that has ended** has ended for good. -/
theorem Later.of_ended (h : Later cwd m m') (hended : m.image? pid = some (.ended status)) :
    m'.image? pid = some (.ended status) := by
  induction h with
  | refl => exact hended
  | tail _ move ih => exact move.of_ended ih

theorem Later.ending?_eq (h : Later cwd m m') (hended : m.ending? pid = some status) :
    m'.ending? pid = some status :=
  ending?_eq_some_iff.mpr (h.of_ended (ending?_eq_some_iff.mp hended))

/-- **What a process is doing** stays among what it keeps to, unless it is sent a signal. -/
theorem Later.of_kept {S : Image → Prop} (hS : IsKept S) (h : Later cwd m m')
    (himage : m.image? pid = some image) (hin : S image) :
    (∃ image', m'.image? pid = some image' ∧ S image') ∨ IsSignaled cwd pid m m' := by
  induction h with
  | refl => exact .inl ⟨image, himage, hin⟩
  | @tail m₁ m₂ later move ih =>
    rcases ih with ⟨image', himage', hin'⟩ | hsignaled
    · exact (move.of_kept hS himage' hin').imp_right fun ⟨sender, hsignals, hstep⟩ =>
        ⟨m₁, m₂, sender, later, hsignals, hstep, .refl⟩
    · exact .inr (hsignaled.tail (.single move))

theorem Move.size_le (h : Move cwd m m') : m.processes.size ≤ m'.processes.size := by
  cases h with
  | step h => exact (confined_step h).size_processes_le
  | pipe => exact Nat.le_of_eq (congrArg Array.size (Grows.openPipe m).processes_eq).symm
  | close => exact Nat.le_refl _
  | spawn l =>
    obtain ⟨carried, d₁, m₁, program, said, hdeparts⟩ := exists_departs cwd l m.descriptors m
    obtain ⟨hspawn, hgrows⟩ := spawn_of_departs hdeparts
    rw [hspawn]
    simp [addProcess, hgrows.processes_eq]

/-- The processes that there are stay. -/
theorem Later.size_le (h : Later cwd m m') : m.processes.size ≤ m'.processes.size := by
  induction h with
  | refl => exact Nat.le_refl _
  | tail _ move ih => exact Nat.le_trans ih move.size_le

/-! ## Waiting -/

theorem later_turn (cwd : NodeId) (h : m.turn = some m') : Later cwd m m' := by
  obtain ⟨pid, -, hstep⟩ := List.exists_of_findSome?_eq_some h
  exact .single (.step hstep)

/-- Where a process can take a step, the machine can. -/
theorem turn_ne_none (h : m.step pid = some m') : m.turn ≠ none := by
  have hlt : pid < m.processes.size := by
    refine Nat.lt_of_not_le fun hle => ?_
    unfold step at h
    rw [Array.getElem?_eq_none hle] at h
    cases h
  intro hnone
  have hstep := List.findSome?_eq_none_iff.mp hnone pid (List.mem_range.mpr hlt)
  rw [h] at hstep
  cases hstep

/-- So many turns. -/
def turns : (count : Nat) → Machine → Option Machine
  | 0, m => some m
  | count + 1, m => m.turn.bind (turns count)

/-- Waiting lets the processes run, and tells how the process has ended then. Where it has not, none
of them can take a step, or they have taken all the turns that they were given. -/
theorem awaitWithin_spec (cwd : NodeId) (pid steps : Nat) (m : Machine) :
    Later cwd m (awaitWithin pid steps m).2 ∧
      (awaitWithin pid steps m).1 = (awaitWithin pid steps m).2.ending? pid ∧
      ((awaitWithin pid steps m).1 = none →
        (awaitWithin pid steps m).2.turn = none ∨
          turns steps m = some (awaitWithin pid steps m).2) := by
  induction steps generalizing m with
  | zero => exact ⟨.refl, rfl, fun _ => .inr rfl⟩
  | succ steps ih =>
    unfold awaitWithin
    split
    · rename_i status hended
      exact ⟨.refl, hended.symm, nofun⟩
    · rename_i hrunning
      split
      · rename_i hstuck
        exact ⟨.refl, hrunning.symm, fun _ => .inl hstuck⟩
      · rename_i m₁ hturn
        obtain ⟨hlater, htold, hlast⟩ := ih m₁
        refine ⟨(later_turn cwd hturn).trans hlater, htold, fun hnone => ?_⟩
        rw [turns, hturn, Option.bind_some]
        exact hlast hnone

theorem snd_wait (h : pid < m.processes.size) : (wait pid m).2 = (m.await pid).2 := by
  unfold wait
  rw [if_neg (Nat.not_le.mpr h)]
  split <;> rename_i heq <;> rw [heq]

/-- **Waiting tells how the process has ended**, if it has. -/
theorem fst_wait (h : pid < m.processes.size) :
    (wait pid m).1 = match (wait pid m).2.ending? pid with
      | some status => understood status
      | none => .error (.wait .deadlock) := by
  have htold := (awaitWithin_spec 0 pid Script.patience m).2.1
  rw [snd_wait h, await, ← htold, ← await]
  unfold wait
  rw [if_neg (Nat.not_le.mpr h)]
  split <;> rename_i heq <;> rw [heq]

theorem later_wait (cwd : NodeId) (pid : Nat) (m : Machine) : Later cwd m (wait pid m).2 := by
  by_cases h : pid < m.processes.size
  · rw [snd_wait h, await]
    exact (awaitWithin_spec cwd pid Script.patience m).1
  · unfold wait
    rw [if_pos (Nat.not_lt.mp h)]
    exact .refl

/-- **Waiting for a process** that keeps to something tells of an ending among it, unless it is sent
a signal. Where it has not ended, no process can take a step, or they have taken all the turns that
there are. -/
theorem wait_of_kept {S : Image → Prop} (hS : IsKept S) (himage : m.image? pid = some image)
    (hin : S image) (hspared : ¬ IsSignaled cwd pid m (wait pid m).2) :
    (∃ status, S (.ended status) ∧ (wait pid m).1 = understood status) ∨
      (wait pid m).1 = .error (.wait .deadlock) ∧
        ∃ program, S (.running program) ∧ (wait pid m).2.image? pid = some (.running program) ∧
          ((wait pid m).2.turn = none ∨ turns Script.patience m = some (wait pid m).2) := by
  have hlt : pid < m.processes.size := by
    obtain ⟨p, hp, -⟩ := Option.map_eq_some_iff.mp himage
    exact (Array.getElem?_eq_some_iff.mp hp).1
  obtain ⟨image', himage', hin'⟩ :=
    ((later_wait cwd pid m).of_kept hS himage hin).resolve_right hspared
  rw [fst_wait hlt]
  cases image' with
  | ended status =>
    rw [ending?_eq_some_iff.mpr himage']
    exact .inl ⟨status, hin', rfl⟩
  | running program =>
    have hrunning : (wait pid m).2.ending? pid = none := by
      cases hending : (wait pid m).2.ending? pid with
      | none => rfl
      | some status =>
        rw [ending?_eq_some_iff, himage'] at hending
        cases hending
    rw [hrunning]
    refine .inr ⟨rfl, program, hin', himage', ?_⟩
    obtain ⟨-, htold, hlast⟩ := awaitWithin_spec cwd pid Script.patience m
    rw [snd_wait hlt, await] at hrunning ⊢
    exact hlast (htold.trans hrunning)

/-! ## Processes that only leave any more -/

/-- A process that is about to leave with a status does so. -/
inductive Leaving (k : Nat) : Image → Prop where
  | running : Leaving k (.running (.leave k))
  | ended : Leaving k (.ended (.exited (k % 256)))

/-- A process that is about to be ended by a signal is ended by it. -/
inductive Raising (signal : Nat) : Image → Prop where
  | running : Raising signal (.running (.raise signal))
  | ended : Raising signal (.ended (.signaled signal))

/-- A process that is about to leave with a status has something to say before, or has said it. It
leaves, unless nobody reads what it says. -/
inductive Saying (k : Nat) : Image → Prop where
  | running (bytes : Bytes) : Saying k (.running (.ask (.write 2 bytes) fun _ => .leave k))
  | leaving {image : Image} (leaving : Leaving k image) : Saying k image
  | unheard : Saying k (.ended (.signaled brokenPipeSignal))

theorem isKept_leaving (k : Nat) : IsKept (Leaving k) := by
  intro m m' pid image hin himage hstep
  cases hin with
  | running =>
    rw [step_of_leave himage] at hstep
    cases hstep
    exact ⟨_, image?_finish himage _, .ended⟩
  | ended =>
    rw [step_of_ended himage] at hstep
    cases hstep

theorem isKept_raising (signal : Nat) : IsKept (Raising signal) := by
  intro m m' pid image hin himage hstep
  cases hin with
  | running =>
    rw [step_of_raise himage] at hstep
    cases hstep
    exact ⟨_, image?_finish himage _, .ended⟩
  | ended =>
    rw [step_of_ended himage] at hstep
    cases hstep

theorem image?_resume (h : m.image? pid = some image) (program : Program) :
    (m.resume pid program).image? pid = some (.running program) := by
  obtain ⟨p, hp, -⟩ := Option.map_eq_some_iff.mp h
  simp [image?, resume, setImage, Array.getElem?_modify, hp]

/-- Whatever signal is sent, a process is doing something afterwards. -/
theorem exists_image?_sendSignal (h : m.image? pid = some image) (receiver number : Nat) :
    ∃ image', (m.sendSignal receiver number).2.image? pid = some image' := by
  have hconfined : Confined pid [] m (m.sendSignal receiver number).2 :=
    .sendSignal m receiver number
  have hsize := hconfined.size_processes_le
  obtain ⟨p, hp, -⟩ := Option.map_eq_some_iff.mp h
  have hlt := Nat.lt_of_lt_of_le (Array.getElem?_eq_some_iff.mp hp).1 hsize
  exact ⟨_, by rw [image?, Array.getElem?_eq_getElem hlt, Option.map_some]⟩

/-- One step of saying something. -/
theorem saying_of_stepWrite {k : Nat} {p : Process} {bytes : Bytes} (h : m.image? pid = some image)
    (hstep : stepWrite m pid p 2 bytes (fun _ => .leave k) = some m') :
    ∃ image', m'.image? pid = some image' ∧ Saying k image' := by
  have hleaves : ∀ {m₁ : Machine} {image₁ : Image}, m₁.image? pid = some image₁ →
      ∃ image', (m₁.resume pid (.leave k)).image? pid = some image' ∧ Saying k image' :=
    fun h => ⟨_, image?_resume h _, .leaving .running⟩
  unfold stepWrite at hstep
  split at hstep
  · cases hstep
    exact hleaves h
  rename_i file _
  have hwritten : (m.writeChunk file bytes).2.image? pid = some image :=
    ((Grows.writeChunk m file bytes).image?_eq pid).trans h
  split at hstep <;> rename_i hwrite <;> rw [hwrite] at hwritten
  · cases hstep
    exact hleaves hwritten
  · cases hstep
    exact ⟨_, image?_resume hwritten _, .running _⟩
  · cases hstep
  · split at hstep
    · cases hstep
      obtain ⟨image₁, hsent⟩ := exists_image?_sendSignal hwritten pid brokenPipeSignal
      exact hleaves hsent
    · cases hstep
      exact ⟨_, image?_finish hwritten _, .unheard⟩
  · cases hstep
    exact hleaves hwritten

theorem isKept_saying (k : Nat) : IsKept (Saying k) := by
  intro m m' pid image hin himage hstep
  cases hin with
  | running bytes =>
    obtain ⟨p, hp, hasks⟩ := Option.map_eq_some_iff.mp himage
    unfold step at hstep
    rw [hp] at hstep
    dsimp only at hstep
    rw [hasks] at hstep
    cases bytes with
    | nil =>
      cases hstep
      exact ⟨_, image?_resume himage _, .leaving .running⟩
    | cons byte bytes => exact saying_of_stepWrite himage hstep
  | leaving hleaving =>
    obtain ⟨image', himage', hin'⟩ := isKept_leaving k m m' pid image hleaving himage hstep
    exact ⟨image', himage', .leaving hin'⟩
  | unheard =>
    rw [step_of_ended himage] at hstep
    cases hstep

end PipeShell.Machine
