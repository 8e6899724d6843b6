import PipeShell.Proofs.Machine.Growth

/-!
# How a process begins

A process of a pipeline does not become its program at once. It takes the pipe ends meant for it as
its standard streams, closes the ends it was told to close, carries out its bindings one by one, and
only then is its program loaded. Between any two of these steps other processes may take theirs.

## Main definitions

* `Arrangement`: one change that a process makes to its table on account of the pipes
* `Beginning`: a process that is not its program yet
* `Beginning.advance`: one step of such a process
* `lastBound`: the open file that was last bound to a descriptor

## Main results

* `launch_ends`: undisturbed, the steps come to what `launch` does at once
* `get?_arrange`, `mem_entries_arrange`: the table that the arrangements lead to
-/

namespace PipeShell.Machine

/-! ## Arrangements -/

/-- One change that a process makes to its table on account of the pipes: a standard stream becomes
what another number stands for, or a number is taken out of use. -/
inductive Arrangement where
  | wire (source target : Nat)
  | close (fd : Nat)

/-- Makes the change. Standard streams are not closed. -/
def Arrangement.perform (d : Descriptors) : Arrangement → Descriptors
  | .wire source target => Machine.wire (some source) target d
  | .close fd => if 2 < fd then d.drop fd else d

/-- Makes the changes in order. -/
def arrange (arrangements : List Arrangement) (d : Descriptors) : Descriptors :=
  arrangements.foldl Arrangement.perform d

theorem mem_files_perform {d : Descriptors} {a : Arrangement} {file : Nat}
    (h : file ∈ (a.perform d).files) : file ∈ d.files := by
  cases a with
  | wire source target =>
    simp only [Arrangement.perform, wire, Option.bind_some] at h
    split at h
    · exact h
    · rename_i other hother
      rcases Descriptors.mem_files_place h with rfl | h
      · exact Descriptors.mem_files_of_get? hother
      · exact h
  | close fd =>
    simp only [Arrangement.perform] at h
    split at h
    · exact Descriptors.mem_files_drop h
    · exact h

/-- The changes that a launch asks for. -/
def arrangements (l : Launch Nat Nat) : List Arrangement :=
  l.stdin.toList.map (.wire · 0) ++ l.stdout.toList.map (.wire · 1) ++ l.close.map .close

/-! ## Beginnings -/

/-- A process that is not its program yet: what it was given, the changes on account of the pipes
that are left, the bindings that are left, and those that have been carried out. -/
structure Beginning where
  launch : Launch Nat Nat
  left : List Arrangement
  pending : List (Binding Nat)
  bound : List Bound

/-- The bindings that a process is to carry out. -/
def bindingsOf : Except RedirectionError (Plan Nat) → List (Binding Nat)
  | .ok plan => plan.bindings
  | .error _ => []

/-- A process that has done nothing yet. -/
def Beginning.ofLaunch (l : Launch Nat Nat) : Beginning :=
  { launch := l, left := arrangements l, pending := bindingsOf l.plan, bound := [] }

/-- A process that has the table `d` is done with beginning: it knows what it is to do from now on,
on the machine that it has come to. -/
def Beginning.done (d : Descriptors) (next : Program × Machine) :
    (Beginning ⊕ Program) × Descriptors × Machine :=
  (.inr next.1, d, next.2)

/-- One step of a process that has the table `d`: it goes on beginning, or knows what it is to do
from now on. -/
def Beginning.advance (cwd : NodeId) (b : Beginning) (d : Descriptors) (m : Machine) :
    (Beginning ⊕ Program) × Descriptors × Machine :=
  match b.left, b.launch.plan, b.pending with
  | first :: rest, _, _ => (.inl { b with left := rest }, first.perform d, m)
  | [], .error e, _ => done d (report d m e.message (.leave 1))
  | [], .ok _, binding :: rest =>
    match m.bind cwd d binding with
    | (.error e, d, m) => done d (report d m e.message (.leave 1))
    | (.ok (), d', m') =>
      (.inl { b with pending := rest, bound := b.bound ++ [⟨binding, d, m⟩] }, d', m')
  | [], .ok plan, [] =>
    match m.programOf cwd plan.args with
    | .error e => done d (report d m e.message (.leave e.status.toNat))
    | .ok program => done d (program, m)

/-- The steps of a process, one after the other, lead to a table, to a program and to a machine. -/
inductive Beginning.Ends (cwd : NodeId) :
    Beginning → Descriptors → Machine → Descriptors → Program → Machine → Prop where
  | last {b d m d' program m'} (h : b.advance cwd d m = (.inr program, d', m')) :
    Ends cwd b d m d' program m'
  | next {b d m b' d₁ m₁ d' program m'} (h : b.advance cwd d m = (.inl b', d₁, m₁))
    (later : Ends cwd b' d₁ m₁ d' program m') : Ends cwd b d m d' program m'

/-! ## One step -/

/-- The captured texts among what bindings bind. -/
def textsOf (bindings : List (Binding Nat)) : List Nat :=
  bindings.filterMap fun b =>
    match b.source with
    | .captured body => some body
    | .file .. => none

theorem Grows.advance (cwd : NodeId) (b : Beginning) (d : Descriptors) (m : Machine) :
    m.Grows (b.advance cwd d m).2.2 := by
  unfold Beginning.advance
  split
  · exact refl m
  · exact report d m _ _
  · rename_i binding rest _ _ _
    have hgrows := bind m cwd d binding
    split
    · rename_i d' m' hbind
      rw [hbind] at hgrows
      exact hgrows.trans (report d' m' _ _)
    · rename_i d' m' hbind
      rw [hbind] at hgrows
      exact hgrows
  · split
    · exact report d m _ _
    · exact refl m

/-- A process gets the texts that were captured for it and what it opens, and nothing else. -/
theorem mem_files_advance {cwd : NodeId} {b : Beginning} {d : Descriptors} {m : Machine}
    {file : Nat} (h : file ∈ (b.advance cwd d m).2.1.files) :
    file ∈ d.files ∨ file ∈ textsOf b.pending ∨
      (m.files.size ≤ file ∧ file < (b.advance cwd d m).2.2.files.size) := by
  unfold Beginning.advance at h ⊢
  split at h
  · rename_i first rest _ _ _
    exact .inl (mem_files_perform h)
  · exact .inl h
  · rename_i binding rest _ _ hpending
    rw [hpending]
    split at h
    · rename_i d' m' hbind
      rw [table_of_bind_eq_error hbind] at h
      exact .inl h
    · rename_i d' m' hbind
      obtain ⟨bound, -, htakes, hsource⟩ := takes_of_bind hbind
      obtain ⟨fd, hfd⟩ := Descriptors.mem_files.mp h
      rcases htakes.mem_entries _ hfd with heq | ⟨hold, -⟩
      · obtain ⟨-, rfl⟩ := Prod.mk.inj heq
        rcases hsource with hsource | hnew
        · exact .inr (.inl (by simp [textsOf, hsource]))
        · exact .inr (.inr hnew)
      · exact .inl (Descriptors.mem_files.mpr ⟨fd, hold⟩)
  · split at h <;> exact .inl h

/-! ## Undisturbed beginnings -/

theorem arrange_arrangements (l : Launch Nat Nat) (d : Descriptors) :
    arrange (arrangements l) d = closePipes l.close (wire l.stdout 1 (wire l.stdin 0 d)) := by
  have hclose : ∀ (fds : List Nat) (d : Descriptors),
      (fds.map Arrangement.close).foldl Arrangement.perform d = closePipes fds d := by
    intro fds
    induction fds with
    | nil => exact fun d => rfl
    | cons fd fds ih => exact fun d => ih _
  unfold arrange arrangements
  rw [List.foldl_append, List.foldl_append, hclose]
  cases l.stdin <;> cases l.stdout <;> rfl

/-- What is left to arrange is arranged first. -/
theorem Beginning.Ends.arrange {cwd : NodeId} {l : Launch Nat Nat} {left : List Arrangement}
    {pending : List (Binding Nat)} {bound : List Bound} {d d' : Descriptors} {m m' : Machine}
    {program : Program}
    (h : Ends cwd ⟨l, [], pending, bound⟩ (arrange left d) m d' program m') :
    Ends cwd ⟨l, left, pending, bound⟩ d m d' program m' := by
  induction left generalizing d with
  | nil => exact h
  | cons first rest ih => exact .next rfl (ih h)

/-- The bindings that are left are carried out in order, up to the first that fails. -/
theorem Beginning.ends_bindings (cwd : NodeId) {l : Launch Nat Nat} {plan : Plan Nat}
    (hplan : l.plan = .ok plan) (pending : List (Binding Nat)) (bound : List Bound)
    (d : Descriptors) (m : Machine) :
    match apply cwd pending d m with
    | (.error e, d', m') =>
      Ends cwd ⟨l, [], pending, bound⟩ d m d' (report d' m' e.message (.leave 1)).1
        (report d' m' e.message (.leave 1)).2
    | (.ok (), d', m') =>
      match m'.programOf cwd plan.args with
      | .error e =>
        Ends cwd ⟨l, [], pending, bound⟩ d m d' (report d' m' e.message (.leave e.status.toNat)).1
          (report d' m' e.message (.leave e.status.toNat)).2
      | .ok program => Ends cwd ⟨l, [], pending, bound⟩ d m d' program m' := by
  induction pending generalizing bound d m with
  | nil =>
    simp only [apply]
    split
    · rename_i e he
      exact .last (by simp [advance, done, hplan, he])
    · rename_i program hprogram
      exact .last (by simp [advance, done, hplan, hprogram])
  | cons binding rest ih =>
    simp only [apply]
    rcases hbind : m.bind cwd d binding with ⟨⟨⟩ | ⟨⟨⟩⟩, d', m'⟩
    · exact .last (by simp [advance, done, hplan, hbind])
    · -- The binding is one step, and the others follow.
      have hnext : advance cwd ⟨l, [], binding :: rest, bound⟩ d m =
          (.inl ⟨l, [], rest, bound ++ [⟨binding, d, m⟩]⟩, d', m') := by
        simp [advance, hplan, hbind]
      have hlater := ih (bound ++ [⟨binding, d, m⟩]) d' m'
      simp only
      split
      · rename_i hrest
        rw [hrest] at hlater
        exact .next hnext hlater
      · rename_i hrest
        rw [hrest] at hlater
        split
        · rename_i hprogram
          simp only [hprogram] at hlater
          exact .next hnext hlater
        · rename_i hprogram
          simp only [hprogram] at hlater
          exact .next hnext hlater

/-- **Undisturbed**, the steps of a process come to what `launch` does at once. -/
theorem launch_ends (cwd : NodeId) (l : Launch Nat Nat) (d : Descriptors) (m : Machine) :
    Beginning.Ends cwd (.ofLaunch l) d m (launch cwd l d m).1 (launch cwd l d m).2.1
      (launch cwd l d m).2.2 := by
  refine .arrange ?_
  rw [arrange_arrangements]
  unfold launch
  cases hplan : l.plan with
  | error e => exact .last (by simp [Beginning.advance, Beginning.done, hplan])
  | ok plan =>
    have hends := Beginning.ends_bindings cwd hplan plan.bindings []
      (closePipes l.close (wire l.stdout 1 (wire l.stdin 0 d))) m
    simp only [bindingsOf]
    split at hends
    · rename_i happly
      simpa [happly] using hends
    · rename_i happly
      split at hends
      · rename_i hprogram
        simpa [happly, hprogram] using hends
      · rename_i hprogram
        simpa [happly, hprogram] using hends

/-! ## The table that the arrangements lead to -/

section Tables

variable {d : Descriptors} {e : Nat × Nat}

theorem get?_wire (source : Option Nat) (target fd : Nat) (d : Descriptors) :
    (wire source target d).get? fd =
      if fd = target then (source.bind d.get?).or (d.get? target) else d.get? fd := by
  unfold wire
  cases source.bind d.get? with
  | none => by_cases h : fd = target <;> simp [h]
  | some file => simp [Descriptors.get?_place]

theorem mem_entries_wire {source : Option Nat} {target : Nat}
    (h : e ∈ (wire source target d).entries) :
    (e.1 = target ∧ source.bind d.get? = some e.2) ∨ e ∈ d.entries := by
  unfold wire at h
  split at h
  · exact .inr h
  · rename_i file hfile
    rcases Descriptors.mem_entries_place.mp h with rfl | ⟨h, -⟩
    · exact .inl ⟨rfl, hfile⟩
    · exact .inr h

theorem get?_closePipes (fds : List Nat) (d : Descriptors) (fd : Nat) :
    (closePipes fds d).get? fd = if 2 < fd ∧ fd ∈ fds then none else d.get? fd := by
  unfold closePipes
  induction fds generalizing d with
  | nil => simp
  | cons first rest ih =>
    rw [List.foldl_cons, ih]
    by_cases hfirst : 2 < first
    · simp only [hfirst, if_true, Descriptors.get?_drop, List.mem_cons]
      by_cases hfd : fd = first
      · subst hfd
        simp [hfirst]
      · simp [hfd]
    · have hne : 2 < fd → fd ≠ first := by
        rintro h rfl
        exact hfirst h
      simp only [hfirst, if_false, List.mem_cons]
      by_cases h : 2 < fd
      · simp [h, hne h]
      · simp [h]

theorem mem_entries_closePipes {fds : List Nat} (h : e ∈ (closePipes fds d).entries) :
    e ∈ d.entries ∧ (2 < e.1 → e.1 ∉ fds) := by
  unfold closePipes at h
  induction fds generalizing d with
  | nil => exact ⟨h, fun _ => List.not_mem_nil⟩
  | cons first rest ih =>
    have h : e ∈ (rest.foldl (fun d fd => if 2 < fd then d.drop fd else d)
        (if 2 < first then d.drop first else d)).entries := h
    obtain ⟨hmem, hrest⟩ := ih h
    by_cases hfirst : 2 < first
    · rw [if_pos hfirst] at hmem
      obtain ⟨hmem, hne⟩ := Descriptors.mem_entries_drop.mp hmem
      exact ⟨hmem, fun h => List.not_mem_cons_of_ne_of_not_mem hne (hrest h)⟩
    · rw [if_neg hfirst] at hmem
      refine ⟨hmem, fun habove => List.not_mem_cons_of_ne_of_not_mem ?_ (hrest habove)⟩
      rintro rfl
      exact hfirst habove

/-- After the arrangements the standard streams are the ends meant for them, or what they were. -/
theorem get?_arrange (l : Launch Nat Nat) (d : Descriptors)
    (hout : l.stdout ≠ some 0) {fd : Nat} (hfd : fd ≤ 2) :
    (arrange (arrangements l) d).get? fd =
      (match fd with
        | 0 => l.stdin.bind d.get?
        | 1 => l.stdout.bind d.get?
        | _ => none).or (d.get? fd) := by
  rw [arrange_arrangements, get?_closePipes, if_neg (by omega), get?_wire]
  -- Standard input has been taken already, but standard output is not copied from it.
  have hstdout : l.stdout.bind (wire l.stdin 0 d).get? = l.stdout.bind d.get? := by
    cases h : l.stdout with
    | none => rfl
    | some fd =>
      have : fd ≠ 0 := by
        rintro rfl
        exact hout h
      simp [get?_wire, this]
  match fd with
  | 0 => simp [get?_wire]
  | 1 =>
    rw [hstdout]
    simp [get?_wire]
  | 2 => simp [get?_wire]

/-- After the arrangements a number stands for what it stood for, unless it had to be closed, or is
a standard stream that has become the end meant for it. -/
theorem mem_entries_arrange {l : Launch Nat Nat} (hout : l.stdout ≠ some 0)
    (h : e ∈ (arrange (arrangements l) d).entries) :
    (e.1 = 0 ∧ l.stdin.bind d.get? = some e.2) ∨ (e.1 = 1 ∧ l.stdout.bind d.get? = some e.2) ∨
      (e ∈ d.entries ∧ (2 < e.1 → e.1 ∉ l.close)) := by
  rw [arrange_arrangements] at h
  obtain ⟨hmem, hclose⟩ := mem_entries_closePipes h
  rcases mem_entries_wire hmem with ⟨hone, hfile⟩ | hmem
  · refine .inr (.inl ⟨hone, ?_⟩)
    cases hstdout : l.stdout with
    | none => simp [hstdout] at hfile
    | some fd =>
      have : fd ≠ 0 := by
        rintro rfl
        exact hout hstdout
      simpa [hstdout, get?_wire, this] using hfile
  · rcases mem_entries_wire hmem with hzero | hmem
    · exact .inl hzero
    · exact .inr (.inr ⟨hmem, hclose⟩)

/-- Arranging brings no file into a table. -/
theorem mem_files_arrange {left : List Arrangement} {file : Nat}
    (h : file ∈ (arrange left d).files) : file ∈ d.files := by
  unfold arrange at h
  induction left generalizing d with
  | nil => exact h
  | cons first rest ih => exact mem_files_perform (ih h)

end Tables

/-! ## The last binding -/

/-- The open file that was last bound to a descriptor. -/
def lastBound (cwd : NodeId) (fd : Nat) (bound : List Bound) : Option Nat :=
  ((bound.filter fun b => b.binding.fd == fd).getLast?).bind (Bound.file? cwd)

@[simp] theorem lastBound_nil (cwd : NodeId) (fd : Nat) : lastBound cwd fd [] = none := rfl

theorem lastBound_concat {cwd : NodeId} {fd file : Nat} {bound : List Bound} {b : Bound}
    (hfile : b.file? cwd = some file) :
    lastBound cwd fd (bound ++ [b]) =
      if fd = b.binding.fd then some file else lastBound cwd fd bound := by
  unfold lastBound
  by_cases h : fd = b.binding.fd
  · simp [h, hfile]
  · have hne : (b.binding.fd == fd) = false := beq_false_of_ne fun h' => h h'.symm
    simp [h, hne]

end PipeShell.Machine
