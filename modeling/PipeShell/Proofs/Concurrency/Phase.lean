import PipeShell.Proofs.Concurrency.System

/-!
# Where the shell is

Between two of its actions the shell is in one of few places: before a round, behind the pipe of a
round, at closing ends, or at the waits. The place tells which ends the shell has. They are those of
the conduits around the stage that comes next, until they are closed, and none at the waits.

## Main definitions

* `readerBefore`, `writerBehind`: the ends that are meant for a stage
* `Phase`: the places where a shell can be, with the ends that it has
* `IsWired`: a launch is what a stage is to be given

## Main results

* `Phase.start`: where the shell begins
* `Phase.of_pipe`, `Phase.of_close`, `Phase.of_spawn`, `Phase.of_wait`: where each action leads
-/

namespace PipeShell.Machine

open Execution Execution.Course

/-! ## The ends for a stage -/

/-- The reading end of the conduit in front of a stage. -/
def readerBefore (conduits : List Conduit) : (stage : Nat) → Option Nat
  | 0 => none
  | stage + 1 => (conduits[stage]?).map Conduit.reader

/-- The writing end of the conduit behind a stage. -/
def writerBehind (conduits : List Conduit) (stage : Nat) : Option Nat :=
  (conduits[stage]?).map Conduit.writer

/-- A new conduit is behind the last one. -/
theorem readerBefore_append {conduits : List Conduit} {stage : Nat} (more : List Conduit)
    (h : stage ≤ conduits.length) :
    readerBefore (conduits ++ more) stage = readerBefore conduits stage := by
  cases stage with
  | zero => rfl
  | succ stage => simp only [readerBefore, List.getElem?_append_left h]

theorem readerBefore_isSome {conduits : List Conduit} {stage : Nat} (hpos : 0 < stage)
    (h : stage ≤ conduits.length) : (readerBefore conduits stage).isSome = true := by
  cases stage with
  | zero => exact absurd hpos (Nat.lt_irrefl 0)
  | succ stage =>
    rw [readerBefore, Option.isSome_map, List.getElem?_eq_getElem h]
    rfl

theorem writerBehind_isSome_iff {conduits : List Conduit} {stage : Nat} :
    (writerBehind conduits stage).isSome = true ↔ stage < conduits.length := by
  simp [writerBehind]

/-! ## Phases -/

/-- The shell has, under the number carried over, the reading end in front of a stage, and nothing
else. -/
structure Carries (conduits : List Conduit) (stage : Nat) (carried : Option Nat)
    (held : List (Nat × Nat)) : Prop where
  numbers_eq : held.map Prod.fst = carried.toList
  files_eq : held.map Prod.snd = (readerBefore conduits stage).toList

/-- The places where a shell with the given plans can be: what it still has to do, the conduits that
there are, and the ends that it has, each a number with its open file. -/
inductive Phase (plans : List (Except RedirectionError (Plan Nat))) :
    Course Nat Nat Nat → List Conduit → List (Nat × Nat) → Prop where
  | round {stage carried handles conduits held} (hstage : stage < plans.length)
    (hconduits : conduits.length = stage) (hcarries : Carries conduits stage carried held) :
    Phase plans (rounds stage carried (plans.drop stage) handles) conduits held
  | piped {stage carried reader writer plan handles conduits c held}
    (hplan : plans[stage]? = some plan) (hstage : stage + 1 < plans.length)
    (hconduits : conduits.length = stage) (hcarries : Carries conduits stage carried held) :
    Phase plans
      (innerRound stage carried reader writer plan
        (rounds (stage + 1) (some reader) (plans.drop (stage + 1))) handles)
      (conduits ++ [c]) ((writer, c.writer) :: (reader, c.reader) :: held)
  | closing {fd file course conduits held} (later : Phase plans course conduits held) :
    Phase plans (.close fd course) conduits ((fd, file) :: held)
  | waiting (fault endings handles conduits) : Phase plans (waits fault endings handles) conduits []

/-- A launch is what a stage is to be given, by a shell that has the given ends: its plan, its place
among the conduits, and all the ends to close. -/
structure IsWired (plans : List (Except RedirectionError (Plan Nat))) (conduits : List Conduit)
    (held : List (Nat × Nat)) (l : Launch Nat Nat) : Prop where
  plan_eq : plans[l.stage]? = some l.plan
  stage_le : l.stage ≤ conduits.length
  stage_lt_iff : l.stage < conduits.length ↔ l.stage + 1 < plans.length
  stdin_eq : Option.Rel (fun fd file => (fd, file) ∈ held) l.stdin (readerBefore conduits l.stage)
  stdout_eq : Option.Rel (fun fd file => (fd, file) ∈ held) l.stdout (writerBehind conduits l.stage)
  mem_close : ∀ e ∈ held, e.1 ∈ l.close

variable {plans : List (Except RedirectionError (Plan Nat))} {conduits : List Conduit}
  {held : List (Nat × Nat)} {stage : Nat} {carried : Option Nat}

namespace Carries

theorem start : Carries [] 0 none [] := ⟨rfl, rfl⟩

/-- What is carried over is the reading end in front of the stage, be it that the shell has other
ends, too. -/
theorem rel (h : Carries conduits stage carried held) {all : List (Nat × Nat)} (hall : held ⊆ all) :
    Option.Rel (fun fd file => (fd, file) ∈ all) carried (readerBefore conduits stage) := by
  obtain ⟨hnumbers, hfiles⟩ := h
  cases held with
  | nil =>
    obtain rfl : carried = none := by simpa using hnumbers.symm
    rw [show readerBefore conduits stage = none by simpa using hfiles.symm]
    exact .none
  | cons e rest =>
    cases carried with
    | none => simp at hnumbers
    | some fd =>
      cases hreader : readerBefore conduits stage with
      | none => simp [hreader] at hfiles
      | some file =>
        obtain ⟨rfl, -⟩ : e.1 = fd ∧ rest.map Prod.fst = [] := by simpa using hnumbers
        obtain ⟨rfl, -⟩ : e.2 = file ∧ rest.map Prod.snd = [] := by simpa [hreader] using hfiles
        exact .some (hall List.mem_cons_self)

/-- A number carried over is one of those that the shell has. -/
theorem mem_carried (h : Carries conduits stage carried held) :
    ∀ e ∈ held, e.1 ∈ carried.toList := by
  intro e he
  rw [← h.numbers_eq]
  exact List.mem_map_of_mem he

end Carries

/-- A round is the last one, or begins with a pipe. -/
theorem rounds_cases (carried : Option Nat) (handles : List Nat) (h : stage < plans.length) :
    (∃ plan, plans[stage]? = some plan ∧ stage + 1 = plans.length ∧
      rounds stage carried (plans.drop stage) handles = lastRound stage carried plan handles) ∨
    ∃ plan, plans[stage]? = some plan ∧ stage + 1 < plans.length ∧
      rounds stage carried (plans.drop stage) handles = .pipe fun
        | .error cause => closings carried.toList (waits (some (stage, .pipe cause)) [] handles)
        | .ok (reader, writer) =>
          innerRound stage carried reader writer plan
            (rounds (stage + 1) (some reader) (plans.drop (stage + 1))) handles := by
  have hplan : plans[stage]? = some plans[stage] := List.getElem?_eq_getElem h
  have hdrop : plans.drop stage = plans[stage] :: plans.drop (stage + 1) :=
    List.drop_eq_getElem_cons h
  cases hlater : plans.drop (stage + 1) with
  | nil =>
    have hlength := List.drop_eq_nil_iff.mp hlater
    exact .inl ⟨_, hplan, by omega, by rw [hdrop, hlater]; rfl⟩
  | cons next rest =>
    have hlength := congrArg List.length hlater
    rw [List.length_drop, List.length_cons] at hlength
    refine .inr ⟨_, hplan, by omega, ?_⟩
    rw [hdrop, hlater, rounds]
    refine congrArg Course.pipe (funext fun answer => ?_)
    rcases answer with cause | ⟨reader, writer⟩ <;> rfl

namespace Phase

/-- Closing ends leads to what comes behind. -/
theorem closings (ends : List (Nat × Nat)) {course : Course Nat Nat Nat}
    (later : Phase plans course conduits held) :
    Phase plans (Course.closings (ends.map Prod.fst) course) conduits (ends ++ held) := by
  induction ends with
  | nil => exact later
  | cons e ends ih => exact .closing ih

/-- Closing all ends leads to the waits. -/
theorem closings_waits (held : List (Nat × Nat)) (fault : Option (Nat × SpawnError))
    (handles : List Nat) :
    Phase plans (Course.closings (held.map Prod.fst) (waits fault [] handles)) conduits held := by
  have h : Phase plans _ _ _ := closings held (.waiting fault [] handles conduits)
  rwa [List.append_nil] at h

/-- Closing what is carried over leads to the waits. -/
theorem closings_carried (hcarries : Carries conduits stage carried held)
    (fault : Option (Nat × SpawnError)) (handles : List Nat) :
    Phase plans (Course.closings carried.toList (waits fault [] handles)) conduits held := by
  rw [← hcarries.numbers_eq]
  exact closings_waits held fault handles

/-- The shell begins at its first round, or at its waits where there are no stages. -/
theorem start (plans : List (Except RedirectionError (Plan Nat))) :
    Phase plans (course plans) [] [] := by
  cases plans with
  | nil => exact .waiting none [] [] []
  | cons plan rest =>
    have h : Phase (plan :: rest) (rounds 0 none ((plan :: rest).drop 0) []) [] [] :=
      .round (Nat.zero_lt_succ _) rfl .start
    exact h

/-- A pipe is made at a round, and not at the last one. Where there is none, the shell closes what
it carries over. -/
theorem of_pipe {next : Except Errno (Nat × Nat) → Course Nat Nat Nat}
    (h : Phase plans (.pipe next) conduits held) :
    conduits.length + 1 < plans.length ∧
      (∀ cause, Phase plans (next (.error cause)) conduits held) ∧
      ∀ reader writer c, Phase plans (next (.ok (reader, writer))) (conduits ++ [c])
        ((writer, c.writer) :: (reader, c.reader) :: held) := by
  generalize hcourse : Course.pipe next = course at h
  cases h with
  | @round stage carried handles _ _ hstage hconduits hcarries =>
    obtain ⟨plan, -, -, hlast⟩ | ⟨plan, hplan, hinner, hround⟩ :=
      rounds_cases carried handles hstage
    · rw [hlast] at hcourse
      cases hcourse
    · rw [hround] at hcourse
      obtain rfl := Course.pipe.inj hcourse
      subst hconduits
      exact ⟨hinner, fun cause => closings_carried hcarries _ _, fun reader writer c =>
        .piped hplan hinner rfl hcarries⟩
  | piped => cases hcourse
  | closing => cases hcourse
  | waiting fault endings handles => cases handles <;> cases hcourse

/-- What is closed is an end that the shell has. -/
theorem of_close {fd : Nat} {next : Course Nat Nat Nat}
    (h : Phase plans (.close fd next) conduits held) :
    ∃ file rest, held = (fd, file) :: rest ∧ Phase plans next conduits rest := by
  generalize hcourse : Course.close fd next = course at h
  cases h with
  | @round stage carried handles _ _ hstage hconduits hcarries =>
    obtain ⟨plan, -, -, hround⟩ | ⟨plan, -, -, hround⟩ := rounds_cases carried handles hstage
    · rw [hround] at hcourse
      cases hcourse
    · rw [hround] at hcourse
      cases hcourse
  | piped => cases hcourse
  | closing later =>
    cases hcourse
    exact ⟨_, _, rfl, later⟩
  | waiting fault endings handles => cases handles <;> cases hcourse

/-- The process of the last stage is given what its stage is to be given. -/
theorem isWired_last {plan : Except RedirectionError (Plan Nat)} (hplan : plans[stage]? = some plan)
    (hlast : stage + 1 = plans.length) (hconduits : conduits.length = stage)
    (hcarries : Carries conduits stage carried held) :
    IsWired plans conduits held (lastLaunch stage carried plan) where
  plan_eq := hplan
  stage_le := Nat.le_of_eq hconduits.symm
  stage_lt_iff := by
    simp only [lastLaunch]
    omega
  stdin_eq := hcarries.rel (List.Subset.refl held)
  stdout_eq := by
    have hnone : writerBehind conduits stage = none := by simp [writerBehind, hconduits]
    simp only [lastLaunch, hnone]
    exact .none
  mem_close := hcarries.mem_carried

/-- The process of another stage is given what its stage is to be given. -/
theorem isWired_inner {plan : Except RedirectionError (Plan Nat)} (reader writer : Nat)
    (c : Conduit) (hplan : plans[stage]? = some plan) (hstage : stage + 1 < plans.length)
    (hconduits : conduits.length = stage) (hcarries : Carries conduits stage carried held) :
    IsWired plans (conduits ++ [c]) ((writer, c.writer) :: (reader, c.reader) :: held)
      (innerLaunch stage carried reader writer plan) where
  plan_eq := hplan
  stage_le := by simp [innerLaunch, hconduits]
  stage_lt_iff := by simp [innerLaunch, hconduits, hstage]
  stdin_eq := by
    simp only [innerLaunch, readerBefore_append [c] (Nat.le_of_eq hconduits.symm)]
    exact hcarries.rel fun e he => List.mem_cons_of_mem _ (List.mem_cons_of_mem _ he)
  stdout_eq := by
    have hwriter : writerBehind (conduits ++ [c]) stage = some c.writer := by
      simp [writerBehind, ← hconduits]
    simp only [innerLaunch, hwriter]
    exact .some List.mem_cons_self
  mem_close e he := by
    simp only [innerLaunch]
    rcases List.mem_cons.mp he with rfl | he
    · simp
    rcases List.mem_cons.mp he with rfl | he
    · simp
    · exact List.mem_append_left _ (hcarries.mem_carried e he)

/-- A process is started at the last round or behind a pipe, and given what its stage is to be
given. Afterwards the shell has the same ends still, and begins to close them. -/
theorem of_spawn {l : Launch Nat Nat} {next : Except SpawnError Nat → Course Nat Nat Nat}
    (h : Phase plans (.spawn l next) conduits held) :
    IsWired plans conduits held l ∧
      ∀ answer, ∃ held', held'.Perm held ∧ Phase plans (next answer) conduits held' := by
  generalize hcourse : Course.spawn l next = course at h
  cases h with
  | @round stage carried handles _ _ hstage hconduits hcarries =>
    obtain ⟨plan, hplan, hlast, hround⟩ | ⟨plan, -, -, hround⟩ :=
      rounds_cases carried handles hstage
    · rw [hround] at hcourse
      obtain ⟨rfl, rfl⟩ := Course.spawn.inj hcourse
      refine ⟨isWired_last hplan hlast hconduits hcarries, ?_⟩
      rintro (e | pid)
      · exact ⟨held, .refl _, closings_carried hcarries _ _⟩
      · exact ⟨held, .refl _, closings_carried hcarries _ _⟩
    · rw [hround] at hcourse
      cases hcourse
  | @piped stage carried reader writer plan handles before c held hplan hstage hconduits hcarries =>
    obtain ⟨rfl, rfl⟩ := Course.spawn.inj hcourse
    refine ⟨isWired_inner reader writer c hplan hstage hconduits hcarries, ?_⟩
    rintro (e | pid)
    · -- All ends are closed.
      refine ⟨_, .refl _, ?_⟩
      have h : Phase plans _ (before ++ [c]) _ :=
        closings_waits ((writer, c.writer) :: (reader, c.reader) :: held) (some (stage, e)) handles
      rwa [List.map_cons, List.map_cons, hcarries.numbers_eq] at h
    · -- The reading end of the new conduit is carried over to the next round.
      have hcarries' : Carries (before ++ [c]) (stage + 1) (some reader) [(reader, c.reader)] :=
        ⟨rfl, by simp [readerBefore, ← hconduits]⟩
      have hnext : Phase plans
          (rounds (stage + 1) (some reader) (plans.drop (stage + 1)) (handles ++ [pid]))
          (before ++ [c]) [(reader, c.reader)] :=
        .round hstage (by simp [hconduits]) hcarries'
      have h := closings ((writer, c.writer) :: held) hnext
      rw [List.map_cons, hcarries.numbers_eq] at h
      exact ⟨_, (List.perm_append_singleton _ _).cons _, h⟩
  | closing => cases hcourse
  | waiting fault endings handles => cases handles <;> cases hcourse

/-- At a wait the shell has no end. -/
theorem of_wait {pid : Nat} {next : Except SpawnError ExitStatus → Course Nat Nat Nat}
    (h : Phase plans (.wait pid next) conduits held) :
    held = [] ∧ ∀ ending, Phase plans (next ending) conduits [] := by
  generalize hcourse : Course.wait pid next = course at h
  cases h with
  | @round stage carried handles _ _ hstage hconduits hcarries =>
    obtain ⟨plan, -, -, hround⟩ | ⟨plan, -, -, hround⟩ := rounds_cases carried handles hstage
    · rw [hround] at hcourse
      cases hcourse
    · rw [hround] at hcourse
      cases hcourse
  | piped => cases hcourse
  | closing => cases hcourse
  | waiting fault endings handles =>
    cases handles with
    | nil => cases hcourse
    | cons handle rest =>
      obtain ⟨rfl, rfl⟩ := Course.wait.inj hcourse
      exact ⟨rfl, fun ending => .waiting _ _ _ _⟩

end Phase

end PipeShell.Machine
