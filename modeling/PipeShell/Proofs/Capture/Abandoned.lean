import PipeShell.Proofs.Capture.Delivery

/-!
# Captures that are given up

Where no temporary file can be made the shell gives the capture up: it reads nothing from the pipe,
and lets go of it while the copier may be at work. Until then the copier passes lines on, as far as
there is room for them. Afterwards it meets nobody, and ends with the line that it has read by then.
So how many lines have been read at the end is up to how the two take turns. Those behind, the
delimiter's among them, are left to be read as commands.

## Main definitions

* `CanPass`: so many lines can be passed on to one who takes none of them
* `CaptureTask.Abandons`: how far a handover has come that is given up

## Main results

* `Frame.inputAt`: a handover leaves standard input alone
* `Abandons.drainStep`, `Abandons.copyStep`: what each step of the shell and of the copier keeps
* `exists_ahead`: as many lines as there is room for can be passed on before the shell gives up
* `exists_givenUp_capture`, `GivenUp.exists_capture`: what captures come to that are carried out at
  once, and what handovers come to
* `abandoned_capture_stops`: where the lines are left that a capture has read which is given up
-/

namespace PipeShell.Machine

open Handover (DrainStep CopyStep Step Reaches start)
open Heredoc (inFront keptLines kept)

/-! ## Standard input -/

namespace CaptureTask

section StandardInput

variable {t : CaptureTask} {m : Machine} {copier : Copier} {buffer script : Bytes}
  {pos file fd : Nat}
  {target : Target} {reads writes : Bool}

/-- What a number leads to is what it led to, or an end of the pipe. -/
theorem get?_table_cases (h : (t.table reads writes).get? fd = some file) :
    t.initial.descriptors.get? fd = some file ∨ file = t.readerFile ∨ file = t.writerFile := by
  unfold Descriptors.get? table at h
  rw [List.lookup_append, List.lookup_append] at h
  cases reads <;> cases writes <;>
    simp only [List.lookup_cons, List.lookup_nil, Option.or_eq_some_iff, if_true] at h <;>
    grind [Descriptors.get?]

/-- Nothing that a shell and its copier hold leads to where the script comes from, if nothing
did. -/
theorem Frame.led_ne (h : t.Frame m (t.table reads writes) (t.process copier) buffer) {other : Nat}
    {led : Target} (hled : led.pipe? ≠ some t.pipe)
    (hother : other = t.readerFile ∨ other = t.writerFile) :
    ∃ led', m.target? other = some led' ∧ led' ≠ led := by
  rcases hother with rfl | rfl
  · refine ⟨_, h.target?_reader, ?_⟩
    rintro rfl
    exact hled rfl
  · refine ⟨_, h.target?_writer, ?_⟩
    rintro rfl
    exact hled rfl

/-- A handover leaves standard input alone, as far as it does not change what can be read there. -/
theorem Frame.inputAt (ht : t.IsLaidOut)
    (h : t.Frame m (t.table reads writes) (t.process copier) buffer)
    (hinitial : t.initial.InputAt file target script pos)
    (hopened : ∃ f, m.files[file]? = some f ∧ f.readable = true ∧ f.target = target ∧
      m.Supplies f.offset script pos target) : m.InputAt file target script pos := by
  have hold : ∀ {other}, other ∈ t.initial.descriptors.files → other < t.initial.files.size :=
    fun hother => ht.wellFormed.held _ (mem_tables.mpr (.inl rfl)) _ hother
  have hpipe : target.inlet.pipe? ≠ some t.pipe := by
    intro hpipe
    refine Nat.lt_irrefl t.pipe (ht.wellFormed.led file target t.pipe hinitial.target?_eq ?_)
    cases target <;> exact hpipe
  have hdescriptor : (t.initial.descriptors.get? 0).isSome = true := by
    rw [hinitial.descriptor]
    rfl
  refine ⟨?_, hopened, ?_, ?_⟩
  · rw [h.descriptors_eq, get?_table ht _ _ hdescriptor, hinitial.descriptor]
  · intro fd hfd other hother
    rw [h.descriptors_eq] at hother
    rcases get?_table_cases hother with hfile | hends
    · obtain ⟨led, hled, hne⟩ := hinitial.apart fd hfd other hfile
      exact ⟨led, (h.target?_eq other (hold (Descriptors.mem_files_of_get? hfile))).trans hled, hne⟩
    · exact h.led_ne hpipe hends
  · rintro pipe rfl d hd other hother
    -- A table of before, or one with some ends of the pipe besides.
    have htable : ∀ {reads writes}, other ∈ (t.table reads writes).files →
        ∃ led, m.target? other = some led ∧ led ≠ .writer pipe := by
      intro reads writes hother
      rcases (mem_files_table reads writes).mp hother with ⟨-, hfile⟩ | ⟨-, hfile⟩ | hfile
      · exact h.led_ne hpipe (.inr hfile)
      · exact h.led_ne hpipe (.inl hfile)
      · obtain ⟨led, hled, hne⟩ := hinitial.closed pipe rfl _
          (mem_tables.mpr (.inl rfl)) other hfile
        exact ⟨led, (h.target?_eq other (hold hfile)).trans hled, hne⟩
    rcases mem_tables.mp hd with rfl | ⟨pid, q, hq, hrunning, rfl⟩
    · rw [h.descriptors_eq] at hother
      exact htable hother
    rw [h.processes_eq, Array.getElem?_push] at hq
    split at hq
    · cases hq
      cases copier with
      | ended failure rest => cases hother
      | _ => exact htable hother
    · have hmem : q.descriptors ∈ t.initial.tables :=
        mem_tables.mpr (.inr ⟨pid, q, hq, hrunning, rfl⟩)
      obtain ⟨led, hled, hne⟩ := hinitial.closed pipe rfl _ hmem other hother
      exact ⟨led, (h.target?_eq other (ht.wellFormed.held _ hmem other hother)).trans hled, hne⟩

end StandardInput

/-! ## Lines that are passed on -/

/-- The lines of the input. -/
def lines (t : CaptureTask) : List Bytes := splitLines t.input.rest

/-- Those in front of the delimiter. -/
def front (t : CaptureTask) : List Bytes := inFront t.delimiter t.lines

/-- The input behind so many lines. -/
def behind (t : CaptureTask) (n : Nat) : Input := t.input.advance (t.lines.take n).flatten.length

section Lines

variable {t : CaptureTask} {n : Nat}

theorem drop_inFront {delimiter : String} {lines : List Bytes} {n : Nat}
    (hn : n ≤ (inFront delimiter lines).length) :
    (inFront delimiter lines).drop n = inFront delimiter (lines.drop n) := by
  induction lines generalizing n with
  | nil => simp [inFront]
  | cons line rest ih =>
    cases n with
    | zero => rfl
    | succ n =>
      by_cases hcloses : Text.trim (textOfLine line) = delimiter
      · rw [Heredoc.inFront_cons_of_eq hcloses] at hn
        exact absurd hn (Nat.not_succ_le_zero n)
      · rw [Heredoc.inFront_cons_of_ne hcloses] at hn ⊢
        exact ih (Nat.le_of_succ_le_succ hn)

theorem behind_succ {line : Bytes} {rest : List Bytes} (h : t.lines.drop n = line :: rest) :
    t.behind (n + 1) = (t.behind n).advance line.length := by
  have hget : t.lines[n]? = some line := by
    rw [← List.head?_drop, h, List.head?_cons]
  rw [behind, behind, Input.advance_advance, List.take_add_one, hget]
  simp

/-- **Reading the line behind `n` others**: it is in front of the delimiter, or it is the
delimiter's, or there is none. -/
theorem readLine_behind (hfailure : t.input.failure = none) (hn : n ≤ t.front.length) :
    (∃ line, (t.behind n).readLine none = (.ok (.text line), t.behind (n + 1)) ∧
        (n < t.front.length ∧ Text.trim line ≠ t.delimiter ∧
            keptLines (t.front.take (n + 1)) = keptLines (t.front.take n) ++ kept line ∨
          n = t.front.length ∧ Text.trim line = t.delimiter)) ∨
      n = t.front.length ∧ (t.behind n).readLine none = (.ok .endOfInput, t.behind (n + 1)) := by
  have hlines : splitLines (t.behind n).rest = t.lines.drop n := by
    rw [behind, Input.rest_advance, lines, splitLines_drop_take]
  have hfront : t.front.drop n = inFront t.delimiter (t.lines.drop n) := drop_inFront hn
  -- The first of the lines that are left is read next, and it is the first of those left in front
  -- of the delimiter, if there are any.
  rcases (t.behind n).readLine_eq none hfailure with
    ⟨hnil, hread⟩ | ⟨front, line, rest, hrest, hfirst, hread⟩
  · rw [hnil] at hlines
    rw [← hlines] at hfront
    have hlast : n = t.front.length := Nat.le_antisymm hn (List.drop_eq_nil_iff.mp hfront)
    refine .inr ⟨hlast, ?_⟩
    have hend : t.behind (n + 1) = t.behind n := by
      have hle : t.lines.length ≤ n := List.drop_eq_nil_iff.mp hlines.symm
      rw [behind, behind, List.take_of_length_le hle,
        List.take_of_length_le (Nat.le_succ_of_le hle)]
    rw [hread, hend]
  · rw [hrest, hfirst.splitLines_append] at hlines
    rw [← hlines] at hfront
    rw [← behind_succ hlines.symm, Input.lineOf_none, ← hfirst.textOfLine_eq] at hread
    refine .inl ⟨_, hread, ?_⟩
    by_cases hcloses : Text.trim (textOfLine line) = t.delimiter
    · rw [Heredoc.inFront_cons_of_eq hcloses] at hfront
      exact .inr ⟨Nat.le_antisymm hn (List.drop_eq_nil_iff.mp hfront), hcloses⟩
    · rw [Heredoc.inFront_cons_of_ne hcloses] at hfront
      have hget : t.front[n]? = some line := by rw [← List.head?_drop, hfront, List.head?_cons]
      refine .inl ⟨(List.getElem?_eq_some_iff.mp hget).1, hcloses, ?_⟩
      rw [List.take_add_one, hget]
      simp [keptLines]

end Lines

end CaptureTask

/-! ## How far a capture comes that is given up -/

/-- The shell has no file, and for the given reason it gets none. -/
def Drain.IsAbandoned (cause : Errno) : Drain → Prop
  | .closing | .making => True
  | .draining _ | .storing _ _ => False
  | .dropping held | .rewinding held | .awaiting held | .done held _ => held = .error cause

/-- How many lines have been passed on after the next step of the copier that had not been
before. -/
def Copier.passes : Copier → Nat
  | .passing [] _ => 1
  | _ => 0

theorem Copier.passes_of_ne_nil {left : Bytes} (hleft : left ≠ []) (i : Input) :
    (Copier.passing left i).passes = 0 := by
  cases left with
  | nil => exact absurd rfl hleft
  | cons byte left => rfl

namespace CaptureTask

/-- Why a copier ends that has passed on `n` lines. -/
def failureBehind (t : CaptureTask) (n : Nat) : Option Errno :=
  if n < t.front.length then some .brokenPipe else none

/-- What a copier has read that has passed on `n` lines, and has written `sent`. -/
def HasRead (t : CaptureTask) (n : Nat) (sent : Bytes) : Copier → Prop
  | .closing i | .prompting i | .reading i => i = t.behind n ∧ sent = keptLines (t.front.take n)
  | .passing left i =>
    n < t.front.length ∧ i = t.behind (n + 1) ∧ sent ++ left = keptLines (t.front.take (n + 1))
  | .complaining cause rest =>
    n < t.front.length ∧ cause = .brokenPipe ∧ rest = t.behind (n + 1)
  | .releasing failure rest | .leaving failure rest | .ended failure rest =>
    failure = t.failureBehind n ∧ rest = t.behind (n + 1)

/-- A handover for which no file can be made has come to `s`, and the copier has passed on `n`
lines. -/
structure Abandons (t : CaptureTask) (cause : Errno) (s : Handover) (n : Nat) : Prop where
  frame : t.Frame s.machine (t.table s.drain.reads s.drain.writes) (t.process s.copier) s.sent
  abandoned : s.drain.IsAbandoned cause
  le : n ≤ t.front.length
  passed : keptLines (t.front.take n) <+: s.sent
  room : s.sent.length ≤ t.initial.pipeCapacity
  read : t.HasRead n s.sent s.copier
  known : ∀ held status, s.drain = .done held status →
    ∃ failure rest, s.copier = .ended failure rest ∧ status = exitOf failure
  stands : ∀ file target script pos, t.initial.InputAt file target script pos →
    s.machine.InputAt file target script pos

variable {t : CaptureTask} {cause : Errno} {s s' : Handover} {n : Nat}

/-- Nothing has been done yet. -/
theorem abandons_start (ht : t.IsLaidOut) : t.Abandons cause (start t) 0 where
  frame := frame_start ht
  abandoned := trivial
  le := Nat.zero_le _
  passed := List.nil_prefix
  room := Nat.zero_le _
  read := ⟨rfl, rfl⟩
  known := nofun
  stands file target script pos hinitial := by
    refine (frame_start ht).inputAt ht hinitial ?_
    obtain ⟨f, hfile, hread, htarget, hsupplies⟩ := hinitial.opened
    have hlt := hinitial.lt_size
    refine ⟨f, ?_, hread, htarget, ?_⟩
    · simpa [start, addProcess, openPipe, addFile, Array.getElem?_push, Nat.ne_of_lt hlt,
        Nat.ne_of_lt (Nat.lt_succ_of_lt hlt)] using hfile
    · cases target with
      | node id => exact hsupplies
      | reader pipe =>
        have hwaiting : t.initial.pipes[pipe]? = some (script.drop pos).toArray := hsupplies
        have hne : pipe ≠ t.initial.pipes.size :=
          Nat.ne_of_lt (Array.getElem?_eq_some_iff.mp hwaiting).1
        simpa [start, Supplies, addProcess, openPipe, addFile, Array.getElem?_push,
          hne] using hwaiting
      | writer pipe => exact hsupplies

namespace Abandons

/-- **A step of the shell** brings it nearer to the end. -/
theorem drainStep (ht : t.IsLaidOut) (hfault : t.initial.temporaryFault? t.cwd = some cause)
    (h : t.Abandons cause s n) (hstep : DrainStep t s s') :
    t.Abandons cause s' n ∧ s'.drain.phase < s.drain.phase := by
  obtain ⟨m, drain, copier, sent⟩ := s
  obtain ⟨frame, abandoned, le, passed, room, read, known, stands⟩ := h
  cases hstep with
  | close hdrain =>
    cases hdrain
    have hdrop : m.descriptors.drop t.writer = t.table true false := by
      rw [frame.descriptors_eq]
      exact drop_writer_table ht true true
    have hframe := frame.setDescriptors (t.table true false)
    refine ⟨⟨hdrop ▸ hframe, trivial, le, passed, room, read, by simp, fun _ _ _ _ hinitial => ?_⟩,
      Nat.lt_succ_self _⟩
    rw [hdrop]
    exact hframe.inputAt ht hinitial (stands _ _ _ _ hinitial).opened
  | make hdrain hroom =>
    -- No temporary file could be made at the beginning, and nothing has happened to its directory.
    rw [frame.shape.temporaryFault?_eq, hfault] at hroom
    cases hroom
  | noFile hdrain hfault' =>
    cases hdrain
    rw [frame.shape.temporaryFault?_eq, hfault] at hfault'
    cases hfault'
    exact ⟨⟨frame, rfl, le, passed, room, read, by simp, stands⟩,
      by simp [Drain.phase]⟩
  | drop hdrain =>
    cases hdrain
    have hdrop : m.descriptors.drop t.reader = t.table false false := by
      rw [frame.descriptors_eq]
      exact drop_reader_table ht true false
    have hframe := frame.setDescriptors (t.table false false)
    refine ⟨⟨hdrop ▸ hframe, abandoned, le, passed, room, read, by simp,
      fun _ _ _ _ hinitial => ?_⟩, Nat.lt_succ_self _⟩
    rw [hdrop]
    exact hframe.inputAt ht hinitial (stands _ _ _ _ hinitial).opened
  | rewind hdrain =>
    cases hdrain
    cases abandoned
  | noRewind hdrain =>
    cases hdrain
    exact ⟨⟨frame, abandoned, le, passed, room, read, by simp, stands⟩, Nat.lt_succ_self _⟩
  | await hdrain hending =>
    cases hdrain
    refine ⟨⟨frame, abandoned, le, passed, room, read, fun held status hdone => ?_, stands⟩,
      Nat.lt_succ_self _⟩
    cases hdone
    exact (ending?_pid_eq_some_iff frame).mp hending
  | read hdrain | drained hdrain | noRead hdrain | store hdrain | noStore hdrain | stored hdrain =>
    -- There is no file to put anything into.
    cases hdrain
    exact abandoned.elim

/-- A copier that has not ended takes a step that writes nothing. -/
theorem advance (h : t.Abandons cause s n) {m : Machine} {copier : Copier} {n' : Nat}
    (hrunning : ∀ failure rest, s.copier ≠ .ended failure rest)
    (hframe : t.Frame m (t.table s.drain.reads s.drain.writes) (t.process copier) s.sent)
    (hle : n' ≤ t.front.length) (hpassed : keptLines (t.front.take n') <+: s.sent)
    (hread : t.HasRead n' s.sent copier)
    (hstands : ∀ file target script pos, t.initial.InputAt file target script pos →
      m.InputAt file target script pos) :
    t.Abandons cause { s with machine := m, copier } n' where
  frame := hframe
  abandoned := h.abandoned
  le := hle
  passed := hpassed
  room := h.room
  read := hread
  known held status hdone := by
    obtain ⟨failure, rest, hended, -⟩ := h.known held status hdone
    exact absurd hended (hrunning failure rest)
  stands := hstands

/-- The end of the pipe that the copier writes to, and what writing there comes to: as long as the
shell reads, as much is written as there is room for, and then nothing. -/
theorem writeChunk_cases (ht : t.IsLaidOut) (h : t.Abandons cause s n) {left : Bytes} {i : Input}
    {p : Process} {sink count : Nat} (hcopier : s.copier = .passing left i) (hleft : left ≠ [])
    (hprocess : s.machine.processes[t.pid]? = some p)
    (hsink : p.descriptors.get? t.writer = some sink) (hcount : 0 < count) :
    sink = t.writerFile ∧
      (s.drain.reads = true ∧ t.WritesChunk s.machine sink s.sent (left.take count) ∨
        s.drain.reads = false ∧
          s.machine.writeChunk sink (left.take count) = (.broken, s.machine)) := by
  have hbytes : left.take count ≠ [] := by
    simpa [List.take_eq_nil_iff, hleft] using Nat.ne_of_gt hcount
  cases h.frame.getElem?_processes.symm.trans hprocess
  have hheld := isHeld_reader_iff ht h.frame
  rw [hcopier] at hsink hheld
  obtain rfl : t.writerFile = sink :=
    Option.some.inj ((get?_writer_table false).symm.trans hsink)
  refine ⟨rfl, ?_⟩
  cases hreads : s.drain.reads with
  | true => exact .inl ⟨rfl, h.frame.writesChunk (hheld.mpr (.inl hreads)) hbytes⟩
  | false =>
    refine .inr ⟨rfl, h.frame.writeChunk_of_unheld ?_ _⟩
    rw [Bool.eq_false_iff, ne_eq, hheld, hreads]
    exact fun h => h.elim nofun nofun

/-- The copier writes to the pipe. -/
theorem pass (ht : t.IsLaidOut) (h : t.Abandons cause s n) {left taken later : Bytes} {i : Input}
    (hcopier : s.copier = .passing left i) (hleft : left = taken ++ later)
    (hroom : s.sent.length + taken.length ≤ t.initial.pipeCapacity) {f : Array UInt8 → Array UInt8}
    (hf : f s.sent.toArray = (s.sent ++ taken).toArray) :
    t.Abandons cause ⟨{ s.machine with pipes := s.machine.pipes.modify t.pipe f }, s.drain,
      .passing later i, s.sent ++ taken⟩ n := by
  obtain ⟨m, drain, copier, sent⟩ := s
  cases hcopier
  obtain ⟨frame, abandoned, le, passed, room, ⟨hlt, hbehind, hline⟩, known, stands⟩ := h
  have hframe := frame.modifyPipe f
  rw [hf] at hframe
  refine ⟨hframe, abandoned, le, passed.trans (List.prefix_append _ _), ?_, ⟨hlt, hbehind, ?_⟩, ?_,
    fun file target script pos hinitial => ?_⟩
  · rwa [List.length_append]
  · rw [List.append_assoc, ← hleft, hline]
  · intro held status hdone
    obtain ⟨_, _, hended, -⟩ := known held status hdone
    cases hended
  · refine hframe.inputAt ht hinitial ?_
    obtain ⟨f', hfile, hread, htarget, hsupplies⟩ := (stands _ _ _ _ hinitial).opened
    refine ⟨f', hfile, hread, htarget, ?_⟩
    cases target with
    | node id => exact hsupplies
    | reader pipe =>
      have hne : t.pipe ≠ pipe := fun heq => Nat.lt_irrefl t.pipe
        (ht.wellFormed.led file _ t.pipe hinitial.target?_eq (congrArg some heq.symm))
      have hwaiting : m.pipes[pipe]? = some (script.drop pos).toArray := hsupplies
      rw [Supplies, Array.getElem?_modify, if_neg hne, hwaiting]
    | writer pipe => exact hsupplies

/-- **A step of the copier** passes a line on, or it does not. -/
theorem copyStep (ht : t.IsLaidOut) (hfailure : t.input.failure = none) (h : t.Abandons cause s n)
    (hstep : CopyStep t s s') : t.Abandons cause s' (n + s.copier.passes) := by
  obtain ⟨m, drain, copier, sent⟩ := s
  obtain ⟨frame, abandoned, le, passed, room, read, known, stands⟩ := id h
  cases hstep with
  | @close i p hcopier hprocess =>
    cases hcopier
    cases frame.getElem?_processes.symm.trans hprocess
    have hdrop : (t.process (.closing i)).descriptors.drop t.reader = t.table false true :=
      drop_reader_table ht true true
    have hframe : t.Frame _ _ (t.process (.prompting i)) sent :=
      frame.modifyProcess fun p => { p with descriptors := t.table false true }
    rw [hdrop]
    exact h.advance nofun hframe le passed read fun _ _ _ _ hinitial =>
      hframe.inputAt ht hinitial (stands _ _ _ _ hinitial).opened
  | prompt hcopier =>
    cases hcopier
    exact h.advance nofun (frame.complain ht _) le passed read fun _ _ _ _ hinitial =>
      (stands _ _ _ _ hinitial).complain _
  | line hcopier hline hother =>
    cases hcopier
    obtain ⟨rfl, rfl⟩ := read
    -- What is read behind `n` lines tells which of the three this step is.
    rcases t.readLine_behind hfailure le with
      ⟨line, hread, ⟨hlt, -, hkept⟩ | ⟨-, hcloses⟩⟩ | ⟨-, hread⟩ <;> cases hread.symm.trans hline
    · exact h.advance nofun frame le passed ⟨hlt, rfl, hkept.symm⟩ stands
    · exact absurd hcloses hother
  | delimiter hcopier hline hlast =>
    cases hcopier
    obtain ⟨rfl, rfl⟩ := read
    rcases t.readLine_behind hfailure le with
      ⟨line, hread, ⟨-, hother, -⟩ | ⟨rfl, -⟩⟩ | ⟨-, hread⟩ <;> cases hread.symm.trans hline
    · exact absurd hlast hother
    · exact h.advance nofun frame le passed ⟨(if_neg (Nat.lt_irrefl _)).symm, rfl⟩ stands
  | ending hcopier hline hlast =>
    cases hcopier
    obtain ⟨rfl, rfl⟩ := read
    rcases t.readLine_behind hfailure le with ⟨line, hread, -⟩ | ⟨rfl, hread⟩ <;>
      cases hread.symm.trans hline
    · rcases hlast with hlast | hlast <;> cases hlast
    · exact h.advance nofun frame le passed ⟨(if_neg (Nat.lt_irrefl _)).symm, rfl⟩ stands
  | noLine hcopier hline =>
    cases hcopier
    obtain ⟨rfl, rfl⟩ := read
    rcases t.readLine_behind hfailure le with ⟨line, hread, -⟩ | ⟨-, hread⟩ <;>
      cases hread.symm.trans hline
  | pass hcopier hleft hprocess hsink hcount hwrite =>
    rw [hcopier, Copier.passes_of_ne_nil hleft]
    obtain ⟨-, ⟨-, hwrites⟩ | ⟨-, hbroken⟩⟩ :=
      h.writeChunk_cases ht hcopier hleft hprocess hsink hcount
    · obtain ⟨f, hroom, hf, rfl⟩ := hwrites.of_all hwrite
      exact h.pass ht hcopier (List.take_append_drop _ _).symm hroom hf
    · cases hbroken.symm.trans hwrite
  | passPart hcopier hleft hprocess hsink hcount hwrite =>
    rw [hcopier, Copier.passes_of_ne_nil hleft]
    obtain ⟨-, ⟨-, hwrites⟩ | ⟨-, hbroken⟩⟩ :=
      h.writeChunk_cases ht hcopier hleft hprocess hsink hcount
    · obtain ⟨f, htake, hroom, hf, rfl⟩ := hwrites.of_part hwrite
      refine h.pass ht hcopier ?_ hroom hf
      rw [← List.append_assoc, ← htake, List.take_append_drop]
    · cases hbroken.symm.trans hwrite
  | broken hcopier hleft hprocess hsink hcount hwrite =>
    rw [hcopier, Copier.passes_of_ne_nil hleft]
    obtain ⟨-, ⟨-, hwrites⟩ | ⟨-, hbroken⟩⟩ :=
      h.writeChunk_cases ht hcopier hleft hprocess hsink hcount
    · exact absurd (congrArg Prod.fst hwrite) hwrites.not_lost.1
    cases hbroken.symm.trans hwrite
    -- The line that has been read for nobody is not among those passed on.
    cases hcopier
    obtain ⟨hlt, hbehind, -⟩ := read
    exact h.advance nofun frame le passed ⟨hlt, rfl, hbehind⟩ stands
  | noPass hcopier hleft hprocess hsink hcount hwrite =>
    -- Writing to a pipe does not fail otherwise.
    obtain ⟨-, ⟨-, hwrites⟩ | ⟨-, hbroken⟩⟩ :=
      h.writeChunk_cases ht hcopier hleft hprocess hsink hcount
    · exact absurd (congrArg Prod.fst hwrite) (hwrites.not_lost.2 _)
    · cases hbroken.symm.trans hwrite
  | passed hcopier =>
    cases hcopier
    obtain ⟨hlt, rfl, hline⟩ := read
    rw [List.append_nil] at hline
    subst hline
    exact h.advance nofun frame hlt (List.prefix_refl _) ⟨rfl, rfl⟩ stands
  | complain hcopier =>
    cases hcopier
    obtain ⟨hlt, rfl, rfl⟩ := read
    exact h.advance nofun (frame.complain ht _) le passed ⟨(if_pos hlt).symm, rfl⟩
      fun _ _ _ _ hinitial => (stands _ _ _ _ hinitial).complain _
  | @release failure rest p hcopier hprocess =>
    cases hcopier
    cases frame.getElem?_processes.symm.trans hprocess
    have hdrop : (t.process (.releasing failure rest)).descriptors.drop t.writer =
        t.table false false :=
      drop_writer_table ht false true
    have hframe : t.Frame _ _ (t.process (.leaving failure rest)) sent :=
      frame.modifyProcess fun p => { p with descriptors := t.table false false }
    rw [hdrop]
    exact h.advance nofun hframe le passed read fun _ _ _ _ hinitial =>
      hframe.inputAt ht hinitial (stands _ _ _ _ hinitial).opened
  | @leave failure rest hcopier =>
    cases hcopier
    have hframe : t.Frame _ _ (t.process (.ended failure rest)) sent := frame.modifyProcess fun p =>
      { p with descriptors := .none, image := .ended (exitOf failure) }
    exact h.advance nofun hframe le passed read fun _ _ _ _ hinitial =>
      hframe.inputAt ht hinitial (stands _ _ _ _ hinitial).opened

/-! ### Going on -/

/-- **Somebody can go on** as long as the capture is not over: the copier never waits for a shell
that waits for it. -/
theorem exists_step (ht : t.IsLaidOut) (hfault : t.initial.temporaryFault? t.cwd = some cause)
    (h : t.Abandons cause s n) :
    (∃ held status, s.drain = .done held status) ∨ ∃ s', Step t s s' := by
  have habandoned := h.abandoned
  cases hdrain : s.drain with
  | closing => exact .inr ⟨_, .inl (.close hdrain)⟩
  | making =>
    have hfault' : s.machine.temporaryFault? t.cwd = some cause :=
      (h.frame.shape.temporaryFault?_eq t.cwd).trans hfault
    exact .inr ⟨_, .inl (.noFile hdrain hfault')⟩
  | draining | storing =>
    rw [hdrain] at habandoned
    exact habandoned.elim
  | dropping held => exact .inr ⟨_, .inl (.drop hdrain)⟩
  | rewinding held =>
    rw [hdrain] at habandoned
    cases habandoned
    exact .inr ⟨_, .inl (.noRewind hdrain)⟩
  | awaiting held =>
    by_cases hended : ∃ failure rest, s.copier = .ended failure rest
    · obtain ⟨failure, rest, hcopier⟩ := hended
      have hending := (ending?_pid_eq_some_iff h.frame).mpr ⟨failure, rest, hcopier, rfl⟩
      exact .inr ⟨_, .inl (.await hdrain hending)⟩
    · -- The shell has let go of the pipe, so the copier does not wait for room.
      obtain ⟨s', hstep⟩ := h.frame.exists_copyStep (by simpa using hended)
        fun ⟨_, _, hpassing⟩ => by
        refine .inr ?_
        rw [Bool.eq_false_iff, ne_eq, isHeld_reader_iff ht h.frame, hdrain, hpassing]
        exact fun hreads => hreads.elim nofun nofun
      exact .inr ⟨s', .inr hstep⟩
  | done held status => exact .inl ⟨held, status, rfl⟩

/-- **A capture that is given up terminates**, whichever of the two takes the next step. -/
theorem acc (ht : t.IsLaidOut) (hfault : t.initial.temporaryFault? t.cwd = some cause)
    (hfailure : t.input.failure = none) (h : t.Abandons cause s n) :
    Acc (fun after before => Step t before after) s := by
  refine Handover.acc_of_invariant
    (fun s k => ∃ n, t.Abandons cause s n ∧ s.drain.phase = k) ?_ ?_ ⟨n, h, rfl⟩
  · rintro s s' k ⟨n, habandons, rfl⟩ hstep
    obtain ⟨habandons', hlt⟩ := habandons.drainStep ht hfault hstep
    exact ⟨_, hlt, n, habandons', rfl⟩
  · rintro s s' k ⟨n, habandons, rfl⟩ hstep
    exact ⟨_, _, habandons.copyStep ht hfailure hstep, rfl⟩

end Abandons

/-- Whatever a capture comes to that is given up, some lines have been passed on. -/
theorem exists_abandons (ht : t.IsLaidOut) (hfault : t.initial.temporaryFault? t.cwd = some cause)
    (hfailure : t.input.failure = none) (h : Reaches t s) : ∃ n, t.Abandons cause s n := by
  induction h with
  | refl => exact ⟨0, abandons_start ht⟩
  | tail _ hstep ih =>
    obtain ⟨n, habandons⟩ := ih
    rcases hstep with hdrain | hcopy
    · exact ⟨n, (habandons.drainStep ht hfault hdrain).1⟩
    · exact ⟨_, habandons.copyStep ht hfailure hcopy⟩

end CaptureTask

/-! ## Where it stops -/

/-- No more lines will be passed on: the copier has a line, or what is left of it, for which there
is nobody any more, or it writes no more. -/
def Handover.IsSettled (s : Handover) : Prop :=
  match s.copier with
  | .passing left _ => left ≠ [] ∧ s.drain.reads = false
  | .complaining _ _ | .releasing _ _ | .leaving _ _ | .ended _ _ => True
  | .closing _ | .prompting _ | .reading _ => False

theorem Handover.DrainStep.reads_eq_false {t : CaptureTask} {s s' : Handover}
    (hstep : DrainStep t s s') (h : s.drain.reads = false) : s'.drain.reads = false := by
  cases hstep with
  | drop | rewind | noRewind | await => rfl
  | close hdrain | make hdrain | noFile hdrain | read hdrain | drained hdrain | noRead hdrain
  | store hdrain | noStore hdrain | stored hdrain =>
    rw [hdrain] at h
    cases h

namespace CaptureTask

variable {t : CaptureTask} {cause : Errno} {s s' : Handover} {n : Nat}

namespace Abandons

/-- What is settled stays so. -/
theorem step_of_isSettled (ht : t.IsLaidOut)
    (hfault : t.initial.temporaryFault? t.cwd = some cause) (hfailure : t.input.failure = none)
    (h : t.Abandons cause s n) (hsettled : s.IsSettled) (hstep : Step t s s') :
    t.Abandons cause s' n ∧ s'.IsSettled := by
  -- The shell's steps leave the copier where it is, and the copier cannot come back to reading
  -- without having passed its line on.
  rcases hstep with hdrain | hcopy
  · refine ⟨(h.drainStep ht hfault hdrain).1, ?_⟩
    unfold Handover.IsSettled at hsettled ⊢
    rw [hdrain.copier_eq]
    split at hsettled
    · exact ⟨hsettled.1, hdrain.reads_eq_false hsettled.2⟩
    all_goals exact hsettled
  · have habandons := h.copyStep ht hfailure hcopy
    unfold Handover.IsSettled at hsettled ⊢
    cases hcopy with
    | close hcopier | prompt hcopier | line hcopier | delimiter hcopier | ending hcopier
    | noLine hcopier =>
      rw [hcopier] at hsettled
      exact hsettled.elim
    | pass hcopier hleft hprocess hsink hcount hwrite
    | passPart hcopier hleft hprocess hsink hcount hwrite =>
      rw [hcopier] at hsettled
      obtain ⟨-, ⟨hreads, -⟩ | ⟨-, heq⟩⟩ := h.writeChunk_cases ht hcopier hleft hprocess
        hsink hcount
      · cases hreads.symm.trans hsettled.2
      · cases heq.symm.trans hwrite
    | broken hcopier hleft | noPass hcopier hleft =>
      rw [hcopier, Copier.passes_of_ne_nil hleft] at habandons
      exact ⟨habandons, trivial⟩
    | passed hcopier =>
      rw [hcopier] at hsettled
      exact absurd rfl hsettled.1
    | complain hcopier | release hcopier | leave hcopier =>
      rw [hcopier] at habandons
      exact ⟨habandons, trivial⟩

/-- So the number of lines that have been passed on is that of the end. -/
theorem exists_done_of_isSettled (ht : t.IsLaidOut)
    (hfault : t.initial.temporaryFault? t.cwd = some cause) (hfailure : t.input.failure = none)
    (h : t.Abandons cause s n) (hsettled : s.IsSettled) :
    ∃ s', Relation.ReflTransGen (Step t) s s' ∧ t.Abandons cause s' n ∧
      ∃ held status, s'.drain = .done held status := by
  obtain ⟨s', hreach, ⟨habandons, -⟩, hdone⟩ := Handover.exists_done_of_acc
    (fun s => t.Abandons cause s n ∧ s.IsSettled)
    (fun _ _ ⟨habandons, hsettled⟩ hstep =>
      habandons.step_of_isSettled ht hfault hfailure hsettled hstep)
    (fun _ ⟨habandons, _⟩ => habandons.exists_step ht hfault) (h.acc ht hfault hfailure)
    ⟨h, hsettled⟩
  exact ⟨s', hreach, habandons, hdone⟩

end Abandons

end CaptureTask

/-- Of the lines in front of a delimiter, so many can be passed on to one who takes none of them. -/
def CanPass (front : List Bytes) (room n : Nat) : Prop :=
  n ≤ front.length ∧ (keptLines (front.take n)).length ≤ room

instance (front : List Bytes) (room n : Nat) : Decidable (CanPass front room n) :=
  inferInstanceAs (Decidable (_ ∧ _))

theorem CanPass.of_succ {front : List Bytes} {room n : Nat} (h : CanPass front room (n + 1)) :
    CanPass front room n := by
  refine ⟨Nat.le_of_succ_le h.1, Nat.le_trans ?_ h.2⟩
  rw [List.take_add_one, keptLines, keptLines, List.flatMap_append, List.length_append]
  exact Nat.le_add_right _ _

namespace CaptureTask

variable {t : CaptureTask} {cause : Errno} {s s' : Handover} {n : Nat}

/-- A run goes on with a step of the copier. -/
theorem Abandons.followed (ht : t.IsLaidOut) (hfailure : t.input.failure = none) {s₁ s₂ : Handover}
    {passed : Nat} (h : Relation.ReflTransGen (Step t) s s₁ ∧ t.Abandons cause s₁ n)
    (hstep : CopyStep t s₁ s₂) (hpassed : s₁.copier.passes = passed) :
    Relation.ReflTransGen (Step t) s s₂ ∧ t.Abandons cause s₂ (n + passed) :=
  ⟨h.1.tail (.inr hstep), hpassed ▸ h.2.copyStep ht hfailure hstep⟩

/-- The line that comes next can be passed on as a whole, as long as the shell holds the pipe. -/
theorem Abandons.exists_next (ht : t.IsLaidOut) (hfailure : t.input.failure = none)
    (h : t.Abandons cause s n) (hreads : s.drain.reads = true)
    (hcopier : s.copier = .prompting (t.behind n))
    (hpass : CanPass t.front t.initial.pipeCapacity (n + 1)) :
    ∃ s', Relation.ReflTransGen (Step t) s s' ∧ t.Abandons cause s' (n + 1) ∧ s'.drain = s.drain ∧
      s'.copier = .prompting (t.behind (n + 1)) := by
  obtain ⟨m, drain, copier, sent⟩ := s
  cases hcopier
  obtain ⟨hlt, hroom⟩ := hpass
  obtain ⟨line, hread, ⟨-, hother, hkept⟩ | ⟨hend, -⟩⟩ | ⟨hend, -⟩ :=
    t.readLine_behind hfailure h.le
  case inl.inr | inr => exact absurd hend (Nat.ne_of_lt hlt)
  obtain rfl : sent = keptLines (t.front.take n) := h.read.2
  rw [hkept, List.length_append] at hroom
  have hbytes : kept line ≠ [] := by simp [kept]
  -- The prompt is written, the line is read, and all of it is written.
  have h₁ := followed ht hfailure ⟨.refl, h⟩ (.prompt rfl) rfl
  have h₂ := followed ht hfailure h₁ (.line rfl hread hother) rfl
  obtain ⟨f, hwrite, -⟩ := h₂.2.frame.writeChunk_of_room
    ((isHeld_reader_iff ht h₂.2.frame).mpr (.inl hreads)) hbytes hroom
  rw [← List.take_length (l := kept line)] at hwrite
  have h₃ := followed ht hfailure h₂ (.pass rfl hbytes h₂.2.frame.getElem?_processes
    (get?_writer_table false) (List.length_pos_iff.mpr hbytes) hwrite)
    (Copier.passes_of_ne_nil hbytes _)
  have hcopied := congrArg (Copier.passing · (t.behind (n + 1))) (List.drop_length (l := kept line))
  obtain ⟨hreach, habandons⟩ := followed ht hfailure h₃ (.passed hcopied)
    (congrArg Copier.passes hcopied)
  exact ⟨_, hreach, habandons, rfl, rfl⟩

/-- **As many lines as there is room for** can be passed on before the shell gives up. -/
theorem exists_ahead (ht : t.IsLaidOut) (hfailure : t.input.failure = none)
    (hfault : t.initial.temporaryFault? t.cwd = some cause)
    (hpass : CanPass t.front t.initial.pipeCapacity n) :
    ∃ s, Reaches t s ∧ t.Abandons cause s n ∧ s.drain = .making ∧
      s.copier = .prompting (t.behind n) := by
  induction n with
  | zero =>
    have hclose : DrainStep t (start t) _ := .close rfl
    have hmaking := (abandons_start ht).drainStep ht hfault hclose
    obtain ⟨hreach, habandons⟩ := Abandons.followed ht hfailure ⟨.single (.inl hclose), hmaking.1⟩
      (.close rfl hmaking.1.frame.getElem?_processes) rfl
    exact ⟨_, hreach, habandons, rfl, rfl⟩
  | succ n ih =>
    obtain ⟨s, hreach, habandons, hdrain, hcopier⟩ := ih hpass.of_succ
    have hreads : s.drain.reads = true := by rw [hdrain]; rfl
    obtain ⟨s', hlater, habandons', hsame, hcopier'⟩ :=
      habandons.exists_next ht hfailure hreads hcopier hpass
    exact ⟨s', hreach.trans hlater, habandons', hsame.trans hdrain, hcopier'⟩

/-- The capture of a script from the position `pos` on is over, and it has failed with `cause`: of
the lines in front of the delimiter, `n` have been passed on, and standard input is left behind
these and one more. The copier has failed as well, unless that one is the delimiter's. -/
structure GivenUp (t : CaptureTask) (cause : Errno) (script : Bytes) (pos n : Nat) (s : Handover) :
    Prop where
  canPass : CanPass t.front t.initial.pipeCapacity n
  done : s.drain = .done (.error cause) (exitOf (t.failureBehind n))
  ended : s.copier = .ended (t.failureBehind n) (t.behind (n + 1))
  stands : (s.machine.setInput (t.behind (n + 1))).StandsAt script
    (pos + (t.lines.take (n + 1)).flatten.length)

variable {script : Bytes} {pos : Nat}

/-- At its end a capture has been given up. -/
theorem Abandons.givenUp (h : t.Abandons cause s n) (hstands : t.initial.StandsAt script pos)
    (hinput : t.input = t.initial.input) {held : Except Errno Nat} {status : ExitStatus}
    (hdone : s.drain = .done held status) : t.GivenUp cause script pos n s := by
  have habandoned := h.abandoned
  have hread := h.read
  obtain ⟨failure, rest, hended, rfl⟩ := h.known held status hdone
  rw [hdone] at habandoned
  rw [hended] at hread
  cases habandoned
  obtain ⟨rfl, rfl⟩ := hread
  refine ⟨⟨h.le, Nat.le_trans h.passed.length_le h.room⟩, hdone, hended, ?_⟩
  obtain ⟨file, target, hinitial⟩ := hstands
  have hafter := (h.stands _ _ _ _ hinitial).setInput (t.lines.take (n + 1)).flatten.length
  rw [← hinitial.input_eq, ← hinput] at hafter
  exact ⟨file, target, hafter⟩

/-- **Each number of lines that there is room for** is what some capture has passed on that is given
up. -/
theorem exists_givenUp (ht : t.IsLaidOut) (hfault : t.initial.temporaryFault? t.cwd = some cause)
    (hstands : t.initial.StandsAt script pos) (hinput : t.input = t.initial.input)
    (hpass : CanPass t.front t.initial.pipeCapacity n) :
    ∃ s, Reaches t s ∧ t.GivenUp cause script pos n s := by
  have hfailure : t.input.failure = none := by rw [hinput, hstands.failure_input]
  obtain ⟨⟨m, drain, copier, sent⟩, hreach, h, hdrain, hcopier⟩ :=
    exists_ahead ht hfailure hfault hpass
  cases hdrain
  cases hcopier
  have hfault' : m.temporaryFault? t.cwd = some cause :=
    (h.frame.shape.temporaryFault?_eq t.cwd).trans hfault
  -- The shell gives up while the copier is about to ask for a line.
  have hnone : DrainStep t ⟨m, .making, .prompting (t.behind n), sent⟩ _ := .noFile rfl hfault'
  have h₁ := (h.drainStep ht hfault hnone).1
  have hdrop :
      DrainStep t ⟨m, .dropping (.error cause), .prompting (t.behind n), sent⟩ _ := .drop rfl
  have h₂ := (h₁.drainStep ht hfault hdrop).1
  have h₃ := Abandons.followed ht hfailure ⟨.tail (.single (.inl hnone)) (.inl hdrop), h₂⟩
    (.prompt rfl) rfl
  have hlast : ∃ s', Reaches t s' ∧ t.Abandons cause s' n ∧ s'.IsSettled := by
    obtain ⟨line, hread, ⟨-, hother, -⟩ | ⟨-, hcloses⟩⟩ | ⟨-, hread⟩ :=
      t.readLine_behind hfailure hpass.1
    · obtain ⟨hlater, h₄⟩ := Abandons.followed ht hfailure h₃ (.line rfl hread hother) rfl
      exact ⟨_, hreach.trans hlater, h₄, by simp, rfl⟩
    · obtain ⟨hlater, h₄⟩ := Abandons.followed ht hfailure h₃ (.delimiter rfl hread hcloses) rfl
      exact ⟨_, hreach.trans hlater, h₄, trivial⟩
    · obtain ⟨hlater, h₄⟩ := Abandons.followed ht hfailure h₃ (.ending rfl hread (.inl rfl)) rfl
      exact ⟨_, hreach.trans hlater, h₄, trivial⟩
  obtain ⟨s', hreach', habandons, hsettled⟩ := hlast
  obtain ⟨s'', hlater, hend, held, status, hdone⟩ :=
    habandons.exists_done_of_isSettled ht hfault hfailure hsettled
  exact ⟨s'', hreach'.trans hlater, hend.givenUp hstands hinput hdone⟩

/-- What a capture comes to that is given up, as it is carried out, is what some handover comes
to. -/
theorem exists_givenUp_capture (ht : t.IsLaidOut)
    (hfault : t.initial.temporaryFault? t.cwd = some cause)
    (hstands : t.initial.StandsAt script pos) (hinput : t.input = t.initial.input) :
    ∃ n s after, Reaches t s ∧ t.GivenUp cause script pos n s ∧
      capture t.cwd t.promptText t.delimiter t.initial = (.error cause, after) ∧
      after.StandsAt script (pos + (t.lines.take (n + 1)).flatten.length) := by
  have hlines : t.lines = splitLines (script.drop pos) := by
    rw [lines, hinput, hstands.rest_input]
  obtain ⟨hle, hroom⟩ :=
    Heredoc.passedOn_le t.front (t.initial.delays.headD 0) t.initial.pipeCapacity
  obtain ⟨s, hreach, hgiven⟩ := exists_givenUp ht hfault hstands hinput ⟨hle, hroom⟩
  obtain ⟨after, hcapture, hafter, -⟩ :=
    capture_eq_error hstands hfault t.promptText t.delimiter rfl rfl
  rw [← hlines] at hafter
  exact ⟨_, s, after, hreach, hgiven, hcapture, hafter⟩

/-- The other way round, what some handover comes to that is given up is what the capture comes to
where the shell is so much later than the copier. -/
theorem GivenUp.exists_capture (h : t.GivenUp cause script pos n s)
    (hfault : t.initial.temporaryFault? t.cwd = some cause)
    (hstands : t.initial.StandsAt script pos) (hinput : t.input = t.initial.input) :
    ∃ after,
      capture t.cwd t.promptText t.delimiter { t.initial with delays := [n] } =
        (.error cause, after) ∧
      after.StandsAt script (pos + (t.lines.take (n + 1)).flatten.length) := by
  have hlines : t.lines = splitLines (script.drop pos) := by
    rw [lines, hinput, hstands.rest_input]
  obtain ⟨file, target, hat⟩ := hstands
  have hlate : ({ t.initial with delays := [n] } : Machine).StandsAt script pos :=
    ⟨file, target, hat.withDelays [n]⟩
  have hpassed : Heredoc.passedOn t.front n t.initial.pipeCapacity = n :=
    Heredoc.passedOn_of_le h.canPass.1 h.canPass.2
  have hfront : inFront t.delimiter (splitLines (script.drop pos)) = t.front := by
    rw [front, hlines]
  obtain ⟨after, hcapture, hafter, -⟩ :=
    capture_eq_error hlate hfault t.promptText t.delimiter hfront hpassed
  exact ⟨after, hcapture, hlines ▸ hafter⟩

end CaptureTask

/-! ## What is left to be read -/

/-- **A capture that is given up stops short.** Let there be no temporary file to be had, for the
reason `cause`, when a text is captured from a script. However the shell and the copier take turns,
the two do not wait for each other for ever, and the capture comes to its end. It has failed for
this reason, and the script is left behind the lines that the copier has passed on and one more: the
lines behind these are read as commands. Each number of lines that there is room for is possible. A
capture that succeeds leaves the script behind the delimiter's line, and that is the same only where
all lines in front of it have been passed on, or there are no more lines. -/
theorem abandoned_capture_stops {t : CaptureTask} {cause : Errno} {script : Bytes} {pos : Nat}
    {lines front : List Bytes} (ht : t.IsLaidOut)
    (hfault : t.initial.temporaryFault? t.cwd = some cause)
    (hstands : t.initial.StandsAt script pos) (hinput : t.input = t.initial.input)
    (hlines : splitLines (script.drop pos) = lines) (hfront : inFront t.delimiter lines = front) :
    (∀ s, Reaches t s →
      Acc (fun after before => Step t before after) s ∧
      ((∃ held status, s.drain = .done held status) ∨ ∃ s', Step t s s') ∧
      ∀ held status, s.drain = .done held status →
        ∃ n, t.GivenUp cause script pos n s) ∧
    (∀ n, CanPass front t.initial.pipeCapacity n →
      ∃ s, Reaches t s ∧ t.GivenUp cause script pos n s) ∧
    (∀ m cwd, m.StandsAt script pos → m.temporaryFault? cwd = none →
      ∃ file after, capture cwd t.promptText t.delimiter m = (.ok file, after) ∧
        after.StandsAt script (pos + (lines.take (front.length + 1)).flatten.length)) ∧
    ∀ n ≤ front.length,
      splitLines (script.drop (pos + (lines.take (n + 1)).flatten.length)) = lines.drop (n + 1) ∧
      ((lines.take (n + 1)).flatten.length = (lines.take (front.length + 1)).flatten.length ↔
        n = front.length ∨ lines.length ≤ n + 1) := by
  have hfailure : t.input.failure = none := by rw [hinput, hstands.failure_input]
  have hsame : t.lines = lines := by rw [CaptureTask.lines, hinput, hstands.rest_input, hlines]
  obtain rfl : t.front = front := by rw [CaptureTask.front, hsame, hfront]
  subst hlines
  refine ⟨fun s hreach => ?_, fun n hpass => t.exists_givenUp ht hfault hstands hinput hpass,
    fun m cwd hm hroom => ?_, fun n hn => ⟨?_, ?_⟩⟩
  · obtain ⟨n, habandons⟩ := t.exists_abandons ht hfault hfailure hreach
    exact ⟨habandons.acc ht hfault hfailure, habandons.exists_step ht hfault,
      fun held status hdone => ⟨n, habandons.givenUp hstands hinput hdone⟩⟩
  · obtain ⟨file, after, hcapture, -, hasked⟩ :=
      capture_eq_ok hm hroom t.promptText t.delimiter hfront
    exact ⟨file, after, hcapture, hasked.stands⟩
  · rw [← List.drop_drop, splitLines_drop_take]
  · rw [length_take_eq_iff (Nat.succ_le_succ hn), Nat.succ_inj]

/-- A text of two lines, captured through a pipe that has room for five bytes, where no temporary
file can be made. -/
def lostTask : CaptureTask where
  initial := { textMachine 0o555 with pipeCapacity := 5 }
  cwd := FileTree.root
  promptText := "> "
  delimiter := "EOF"
  input := (textMachine 0o555).input
  reader := 3
  writer := 4

theorem isLaidOut_lostTask : lostTask.IsLaidOut :=
  CaptureTask.isLaidOut_of_nodes (by decide) (by decide) (by decide) rfl rfl (by decide) (by decide)

/-- There is room for the first line, and not for both. So the script is left behind the first line
or behind the second, either is possible, and the delimiter's line is read as a command. -/
theorem abandoned_capture_stops_lost :
    lostTask.IsLaidOut ∧ lostTask.initial.temporaryFault? lostTask.cwd = some .noAccess ∧
      lostTask.initial.StandsAt textScript 0 ∧ lostTask.input = lostTask.initial.input ∧
      (∀ n ∈ [0, 1], ∃ s rest, Reaches lostTask s ∧
        s.drain = .done (.error .noAccess) (.exited 1) ∧
        s.copier = .ended (some .brokenPipe) rest ∧
        (s.machine.setInput rest).StandsAt textScript (4 * (n + 1))) ∧
      ∀ s held status, Reaches lostTask s → s.drain = .done held status →
        ∃ n ∈ [0, 1], ∃ rest, held = .error .noAccess ∧ status = .exited 1 ∧
          s.copier = .ended (some .brokenPipe) rest ∧
          (s.machine.setInput rest).StandsAt textScript (4 * (n + 1)) := by
  have hfault : lostTask.initial.temporaryFault? lostTask.cwd = some .noAccess := by decide +kernel
  have hstands : lostTask.initial.StandsAt textScript 0 := by
    obtain ⟨file, target, hinput⟩ := standsAt_openStream
      (onTree ⟨#[⟨.directory FileTree.root [], 0o555⟩]⟩ [("TMPDIR", "")]) textScript #[] #[]
    exact ⟨file, target, hinput.descriptor, hinput.opened, hinput.apart, hinput.closed⟩
  have hfront : ∀ n, CanPass lostTask.front 5 n → n ∈ [0, 1] := by
    have hlength : lostTask.front.length = 2 := by decide +kernel
    have hboth : ¬ CanPass lostTask.front 5 2 := by decide +kernel
    intro n hpass
    have hle := hlength ▸ hpass.1
    match n with
    | 0 | 1 => simp
    | 2 => exact absurd hpass hboth
    | n + 3 => omega
  have hstops : ∀ n ∈ [0, 1], CanPass lostTask.front 5 n ∧
      lostTask.failureBehind n = some .brokenPipe ∧
      0 + (lostTask.lines.take (n + 1)).flatten.length = 4 * (n + 1) := by
    decide +kernel
  obtain ⟨hends, hreached, -⟩ :=
    abandoned_capture_stops isLaidOut_lostTask hfault hstands rfl rfl rfl
  refine ⟨isLaidOut_lostTask, hfault, hstands, rfl, fun n hn => ?_,
    fun s held status hreach hdone => ?_⟩
  · obtain ⟨hpass, hfailure, hstop⟩ := hstops n hn
    obtain ⟨s, hreach, -, hdone, hended, hafter⟩ := hreached n hpass
    rw [hfailure] at hdone hended
    exact ⟨s, _, hreach, hdone, hended, hstop ▸ hafter⟩
  · obtain ⟨n, hgiven⟩ := (hends s hreach).2.2 held status hdone
    have hn := hfront n hgiven.canPass
    obtain ⟨-, hfailure, hstop⟩ := hstops n hn
    have hover := hdone.symm.trans hgiven.done
    have hended := hgiven.ended
    rw [hfailure] at hover hended
    cases hover
    exact ⟨n, hn, _, rfl, rfl, hended, hstop ▸ hgiven.stands⟩

/-- **A capture that fails stops short** of where one that succeeds comes to a stop. -/
theorem failed_capture_stops_short :
    ¬ ∀ (m m' : Machine) (cwd : NodeId) (promptText delimiter : String) (script : Bytes)
      (pos : Nat),
      m.StandsAt script pos → m'.StandsAt script pos → m.temporaryFault? cwd ≠ none →
        m'.temporaryFault? cwd = none →
          (capture cwd promptText delimiter m).2.streamOffset 0 =
            (capture cwd promptText delimiter m').2.streamOffset 0 := by
  intro h
  have hsame := h (textMachine 0o555) (textMachine 0o755) FileTree.root "" "EOF" textScript 0
    (standsAt_openStream _ _ _ _) (standsAt_openStream _ _ _ _) (by decide +kernel)
    (by decide +kernel)
  exact absurd hsame (by decide +kernel)

end PipeShell.Machine
