import PipeShell.Proofs.Concurrency.Beginning
import PipeShell.Proofs.Machine.Agreement
import PipeShell.Proofs.Machine.StandardError

/-!
# How a process of a stage departs from the shell

A process of a stage begins as the shell's own code, and there are seven ways in which it leaves
that behind. They are told in the order in which they are looked for: there is no plan; a file
cannot be opened; an argument cannot be passed on; there is nothing to run; there is no such
program; the program cannot be run; and last, it is the program. In the first six the process leaves
with a status, and in all but the idle and the last it says why, once, where its standard error
leads. If that is a pipe whose reader has gone, the signal for it ends the process there, for it is
not ignored any more.

What has been done to files by then are the bindings that have been carried out, which are none, or
those in front of the one that failed, or all.

## Main definitions

* `wiredTable l d`: the table of a process that has taken the pipe ends meant for it
* `Verdict`: what a process goes on with, and what it says, once some bindings are carried out
* `Departs`: the bindings that a launch carries out, and the verdict on it
* `reported`, `GoesOn`: how a process goes on that has something to say first

## Main results

* `launch_of_departs`, `exists_departs`: a launch comes to its verdict, and each has one
* `content?_reported_of_ne`, `reported_collected`: what is said goes to standard error, and nowhere
  else
* `spawn_of_departs`: the process is started with what the verdict gives it
-/

namespace PipeShell.Machine

variable {cwd : NodeId} {l : Launch Nat Nat} {d d₁ d₂ : Descriptors} {m m₁ m₂ : Machine}
  {carried others : List (Binding Nat)} {program program' : Program} {said said' : Option String}

/-! ## Verdicts -/

/-- The table of a process that has taken the pipe ends meant for it and closed the others. -/
def wiredTable (l : Launch Nat Nat) (d : Descriptors) : Descriptors :=
  closePipes l.close (wire l.stdout 1 (wire l.stdin 0 d))

/-- What a process goes on with, and what it says, once it has carried out the given bindings, and
has come to the table `d` on the machine `m`. -/
inductive Verdict (cwd : NodeId) (l : Launch Nat Nat) (carried : List (Binding Nat))
    (d : Descriptors) (m : Machine) : Program → Option String → Prop where
  | unresolved {e : RedirectionError} (unplanned : l.plan = .error e) (none : carried = []) :
    Verdict cwd l carried d m (.leave 1) (some e.message)
  | unopened {plan : Plan Nat} {b : Binding Nat} {rest : List (Binding Nat)} {path : String}
    {kind : RedirectKind} {cause : Errno} (planned : l.plan = .ok plan)
    (front : plan.bindings = carried ++ b :: rest) (source : b.source = .file path kind)
    (refused : m.openPath d cwd path kind.access (FileTree.masked m.umask redirectMode) =
      (.error cause, m)) :
    Verdict cwd l carried d m (.leave 1)
      (some (RedirectionError.openFailed b.redirect.target cause).message)
  | unpassable {plan : Plan Nat} {front back : List String} {arg : String}
    (planned : l.plan = .ok plan) (all : carried = plan.bindings)
    (args : plan.args = front ++ arg :: back) (nul : '\x00' ∈ arg.toList)
    (first : ∀ other ∈ front, '\x00' ∉ other.toList) :
    Verdict cwd l carried d m (.leave 126) (some (ExecError.invalidArgument arg).message)
  | idle {plan : Plan Nat} (planned : l.plan = .ok plan) (all : carried = plan.bindings)
    (args : plan.args = []) : Verdict cwd l carried d m (.leave 0) none
  | missing {plan : Plan Nat} {name : String} {rest : List String} (planned : l.plan = .ok plan)
    (all : carried = plan.bindings) (args : plan.args = name :: rest)
    (passable : ∀ arg ∈ plan.args, '\x00' ∉ arg.toList)
    (refused : become m.tree cwd m.environment plan.args = .error .noEntry) :
    Verdict cwd l carried d m (.leave 127) (some (ExecError.notFound name).message)
  | barred {plan : Plan Nat} {name : String} {rest : List String} {cause : Errno}
    (planned : l.plan = .ok plan) (all : carried = plan.bindings) (args : plan.args = name :: rest)
    (passable : ∀ arg ∈ plan.args, '\x00' ∉ arg.toList)
    (refused : become m.tree cwd m.environment plan.args = .error cause)
    (other : cause ≠ .noEntry) :
    Verdict cwd l carried d m (.leave 126) (some (ExecError.failed name cause).message)
  | program {plan : Plan Nat} {program : Program} (planned : l.plan = .ok plan)
    (all : carried = plan.bindings) (passable : ∀ arg ∈ plan.args, '\x00' ∉ arg.toList)
    (becomes : become m.tree cwd m.environment plan.args = .ok program) :
    Verdict cwd l carried d m program none

/-- The bindings that a launch carries out, the table and the machine that it comes to with them,
and the verdict on it. -/
structure Departs (cwd : NodeId) (l : Launch Nat Nat) (d : Descriptors) (m : Machine)
    (carried : List (Binding Nat)) (d₁ : Descriptors) (m₁ : Machine) (program : Program)
    (said : Option String) : Prop where
  applied : apply cwd carried (wiredTable l d) m = (.ok (), d₁, m₁)
  verdict : Verdict cwd l carried d₁ m₁ program said

/-- What a process goes on with, and on which machine, that reports what it has to say. -/
def reported (d : Descriptors) (m : Machine) (program : Program) : Option String → Program × Machine
  | none => (program, m)
  | some message => report d m message program

/-- How a process goes on that may have something to say before its program: with the program, when
this is said; with what is left to be said before; or to its end, when nobody reads standard error
any more. -/
inductive GoesOn (program : Program) : (said : Option String) → Program → Prop where
  | silent : GoesOn program none program
  | said (message : String) : GoesOn program (some message) program
  | saying (message : String) (rest : Bytes) :
    GoesOn program (some message) (.ask (.write 2 rest) fun _ => program)
  | unheard (message : String) : GoesOn program (some message) (.raise brokenPipeSignal)

theorem goesOn_reported (d : Descriptors) (m : Machine) (program : Program) (said : Option String) :
    GoesOn program said (reported d m program said).1 := by
  cases said with
  | none => exact .silent
  | some message =>
    unfold reported report
    dsimp only
    split
    · exact .said message
    · split
      · exact .said message
      · exact .said message
      · exact .saying message _
      · exact .saying message _
      · exact .unheard message

/-! ## Arguments -/

theorem invalidArgument?_eq_none_iff {args : List String} :
    invalidArgument? args = none ↔ ∀ arg ∈ args, '\x00' ∉ arg.toList := by
  simp [invalidArgument?]

/-- The first argument with a NUL character is the one that cannot be passed on. -/
theorem invalidArgument?_append {front back : List String} {arg : String}
    (nul : '\x00' ∈ arg.toList) (first : ∀ other ∈ front, '\x00' ∉ other.toList) :
    invalidArgument? (front ++ arg :: back) = some (.invalidArgument arg) := by
  have hfind : (front ++ arg :: back).find? (fun arg => arg.toList.contains '\x00') = some arg := by
    rw [List.find?_append, List.find?_eq_none.mpr (by simpa using first), Option.none_or]
    exact List.find?_cons_of_pos (by simpa using nul)
  rw [invalidArgument?, hfind]
  rfl

/-- Any list of arguments can be passed on, or has a first one that cannot. -/
theorem exists_of_invalidArgument? {args : List String} {e : ExecError}
    (h : invalidArgument? args = some e) :
    ∃ front arg back, args = front ++ arg :: back ∧ '\x00' ∈ arg.toList ∧
      (∀ other ∈ front, '\x00' ∉ other.toList) ∧ e = .invalidArgument arg := by
  obtain ⟨arg, hfind, rfl⟩ := Option.map_eq_some_iff.mp h
  obtain ⟨hnul, front, back, hargs, hfirst⟩ := List.find?_eq_some_iff_append.mp hfind
  exact ⟨front, arg, back, hargs, by simpa using hnul, by simpa using hfirst, rfl⟩

theorem programOf_eq_ok {name : String} {rest : List String}
    (passable : ∀ arg ∈ name :: rest, '\x00' ∉ arg.toList)
    (becomes : become m.tree cwd m.environment (name :: rest) = .ok program) :
    m.programOf cwd (name :: rest) = .ok program := by
  unfold programOf
  simp only [invalidArgument?_eq_none_iff.mpr passable, becomes]

theorem programOf_eq_error {name : String} {rest : List String} {cause : Errno}
    (passable : ∀ arg ∈ name :: rest, '\x00' ∉ arg.toList)
    (refused : become m.tree cwd m.environment (name :: rest) = .error cause) :
    m.programOf cwd (name :: rest) =
      .error (if cause = .noEntry then .notFound name else .failed name cause) := by
  unfold programOf
  simp only [invalidArgument?_eq_none_iff.mpr passable, refused]

theorem programOf_of_unpassable {front back : List String} {arg : String}
    (nul : '\x00' ∈ arg.toList) (first : ∀ other ∈ front, '\x00' ∉ other.toList) :
    m.programOf cwd (front ++ arg :: back) = .error (.invalidArgument arg) := by
  unfold programOf
  simp only [invalidArgument?_append nul first]

/-! ## What a launch comes to -/

theorem launch_of_unplanned {e : RedirectionError} (unplanned : l.plan = .error e) :
    launch cwd l d m = (wiredTable l d, report (wiredTable l d) m e.message (.leave 1)) := by
  unfold launch wiredTable
  simp only [unplanned]

theorem launch_of_refused {plan : Plan Nat} {e : RedirectionError} (planned : l.plan = .ok plan)
    (refused : apply cwd plan.bindings (wiredTable l d) m = (.error e, d₁, m₁)) :
    launch cwd l d m = (d₁, report d₁ m₁ e.message (.leave 1)) := by
  unfold wiredTable at refused
  unfold launch
  simp only [planned, refused]

theorem launch_of_fault {plan : Plan Nat} {e : ExecError} (planned : l.plan = .ok plan)
    (applied : apply cwd plan.bindings (wiredTable l d) m = (.ok (), d₁, m₁))
    (fault : m₁.programOf cwd plan.args = .error e) :
    launch cwd l d m = (d₁, report d₁ m₁ e.message (.leave e.status.toNat)) := by
  unfold wiredTable at applied
  unfold launch
  simp only [planned, applied, fault]

theorem launch_of_program {plan : Plan Nat} (planned : l.plan = .ok plan)
    (applied : apply cwd plan.bindings (wiredTable l d) m = (.ok (), d₁, m₁))
    (runs : m₁.programOf cwd plan.args = .ok program) :
    launch cwd l d m = (d₁, program, m₁) := by
  unfold wiredTable at applied
  unfold launch
  simp only [planned, applied, runs]

/-- Bindings fail where one does, with those in front of it carried out. -/
theorem apply_append_of_refused {b : Binding Nat} {rest : List (Binding Nat)} {path : String}
    {kind : RedirectKind} {cause : Errno} (applied : apply cwd carried d m = (.ok (), d₁, m₁))
    (source : b.source = .file path kind)
    (refused : m₁.openPath d₁ cwd path kind.access (FileTree.masked m₁.umask redirectMode) =
      (.error cause, m₁)) :
    apply cwd (carried ++ b :: rest) d m =
      (.error (.openFailed b.redirect.target cause), d₁, m₁) := by
  induction carried generalizing d m with
  | nil =>
    cases applied
    simp only [List.nil_append, apply, bind, source, openTarget, refused]
  | cons first carried ih =>
    rcases hbind : m.bind cwd d first with ⟨e | _, d₂, m₂⟩
    · simp [apply, hbind] at applied
    · rw [apply_cons_of_bind hbind] at applied
      rw [List.cons_append, apply_cons_of_bind hbind, ih applied]

/-- **A launch comes to its verdict.** -/
theorem launch_of_departs (h : Departs cwd l d m carried d₁ m₁ program said) :
    launch cwd l d m = (d₁, reported d₁ m₁ program said) := by
  obtain ⟨applied, verdict⟩ := h
  cases verdict with
  | unresolved unplanned none =>
    subst none
    cases applied
    exact launch_of_unplanned unplanned
  | @unopened plan b rest path kind cause planned front source refused =>
    -- The bindings in front have been carried out, and none behind is tried.
    have hrefused : apply cwd plan.bindings (wiredTable l d) m =
        (.error (.openFailed b.redirect.target cause), d₁, m₁) := by
      rw [front]
      exact apply_append_of_refused applied source refused
    exact launch_of_refused planned hrefused
  | unpassable planned all args nul first =>
    subst all
    refine launch_of_fault (e := .invalidArgument _) planned applied ?_
    rw [args, programOf_of_unpassable nul first]
  | idle planned all args =>
    subst all
    refine launch_of_program planned applied ?_
    rw [args]
    rfl
  | missing planned all args passable refused =>
    subst all
    rw [args] at passable refused
    refine launch_of_fault (e := .notFound _) planned applied ?_
    rw [args, programOf_eq_error passable refused, if_pos rfl]
  | barred planned all args passable refused other =>
    subst all
    rw [args] at passable refused
    refine launch_of_fault (e := .failed _ _) planned applied ?_
    rw [args, programOf_eq_error passable refused, if_neg other]
  | @program plan program planned all passable becomes =>
    subst all
    refine launch_of_program planned applied ?_
    cases args : plan.args with
    | nil =>
      rw [args] at becomes
      cases becomes
    | cons name rest =>
      rw [args] at passable becomes
      exact programOf_eq_ok passable becomes

/-- **Each launch has a verdict.** -/
theorem exists_departs (cwd : NodeId) (l : Launch Nat Nat) (d : Descriptors) (m : Machine) :
    ∃ carried d₁ m₁ program said, Departs cwd l d m carried d₁ m₁ program said := by
  cases planned : l.plan with
  | error e => exact ⟨[], _, _, _, _, rfl, .unresolved planned rfl⟩
  | ok plan =>
    rcases applied : apply cwd plan.bindings (wiredTable l d) m with ⟨e | _, d₁, m₁⟩
    · obtain ⟨before, b, rest, path, kind, cause, d₂, m₂, front, source, happly, refused, -, -⟩ :=
        exists_refused_of_apply (e := e) (by rw [applied])
      exact ⟨before, d₂, m₂, _, _, happly, .unopened planned front source refused⟩
    refine ⟨plan.bindings, d₁, m₁, ?_⟩
    cases invalid : invalidArgument? plan.args with
    | some e =>
      obtain ⟨front, arg, back, args, nul, first, -⟩ := exists_of_invalidArgument? invalid
      exact ⟨_, _, applied, .unpassable planned rfl args nul first⟩
    | none =>
      have passable := invalidArgument?_eq_none_iff.mp invalid
      cases args : plan.args with
      | nil => exact ⟨_, _, applied, .idle planned rfl args⟩
      | cons name rest =>
        cases becomes : become m₁.tree cwd m₁.environment plan.args with
        | ok program => exact ⟨_, _, applied, .program planned rfl passable becomes⟩
        | error cause =>
          by_cases hcause : cause = .noEntry
          · subst hcause
            exact ⟨_, _, applied, .missing planned rfl args passable becomes⟩
          · exact ⟨_, _, applied, .barred planned rfl args passable becomes hcause⟩

/-! ## What is done to files -/

/-- The bytes of `said` on standard error. -/
def linesOf : Option String → Bytes
  | none => []
  | some message => Text.Utf8.encode ("ish: " ++ message ++ "\n")

theorem Grows.reported (d : Descriptors) (m : Machine) (program : Program) (said : Option String) :
    m.Grows (reported d m program said).2 := by
  cases said with
  | none => exact refl m
  | some message => exact report d m message program

/-- What is said changes nothing but what standard error leads to. -/
theorem content?_reported_of_ne {id : NodeId}
    (hne : ∀ file, d.get? 2 = some file → m.target? file ≠ some (.node id)) :
    (reported d m program said).2.tree.content? id = m.tree.content? id := by
  cases said with
  | none => rfl
  | some message =>
    rw [reported, Grows.snd_report]
    split
    · rfl
    · rename_i file hfile
      exact (m.wrote_writeChunk file _).content?_eq (hne file hfile)

/-- Taking the pipe ends leaves standard error alone. -/
theorem get?_two_wiredTable (l : Launch Nat Nat) (d : Descriptors) :
    (wiredTable l d).get? 2 = d.get? 2 := by
  rw [wiredTable, get?_closePipes, if_neg (by omega), get?_wire, if_neg (by omega), get?_wire,
    if_neg (by omega)]

/-- **What is said is said once**, where standard error leads, if no binding has led it elsewhere,
and then the process goes on with its program. -/
theorem reported_collected {file : Nat} {id : NodeId} {log : Bytes}
    (h : Departs cwd l m.descriptors m carried d₁ m₁ program said)
    (hfd : ∀ b ∈ carried, b.fd ≠ 2) (hlog : m₁.CollectsErrors file id log) :
    (reported d₁ m₁ program said).1 = program ∧
      (reported d₁ m₁ program said).2.CollectsErrors file id (log ++ linesOf said) := by
  have hgrows := Grows.apply cwd carried (wiredTable l m.descriptors) m
  rw [h.applied] at hgrows
  have htwo : d₁.get? 2 = m₁.descriptors.get? 2 := by
    rw [get?_of_apply h.applied hfd, get?_two_wiredTable, hgrows.descriptors_eq]
  cases said with
  | none =>
    rw [linesOf, List.append_nil]
    exact ⟨rfl, hlog⟩
  | some message =>
    obtain ⟨hall, hcollected⟩ := hlog.writeChunk (linesOf (some message))
    have hreport : reported d₁ m₁ program (some message) =
        (program, (m₁.writeChunk file (linesOf (some message))).2) := by
      rw [reported, report, htwo, hlog.descriptor]
      dsimp only
      rw [linesOf] at hall
      rw [← Prod.eta (m₁.writeChunk file _), hall]
      rfl
    rw [hreport]
    exact ⟨rfl, hcollected⟩

/-- **Starting a process.** It is the next one, goes on as its verdict says, and the shell and the
other processes are left alone. -/
theorem spawn_of_departs (h : Departs cwd l m.descriptors m carried d₁ m₁ program said) :
    spawn cwd l m = (m.processes.size, ((reported d₁ m₁ program said).2.addProcess
      { descriptors := d₁, cwd, umask := (reported d₁ m₁ program said).2.umask
        image := .running (reported d₁ m₁ program said).1 }).2) ∧
    m.Grows (reported d₁ m₁ program said).2 := by
  have hgrows : m.Grows (reported d₁ m₁ program said).2 := by
    have happlied := Grows.apply cwd carried (wiredTable l m.descriptors) m
    rw [h.applied] at happlied
    exact happlied.trans (.reported d₁ m₁ program said)
  refine ⟨?_, hgrows⟩
  unfold spawn
  rw [launch_of_departs h]
  refine Prod.ext ?_ rfl
  exact congrArg Array.size hgrows.processes_eq

end PipeShell.Machine
