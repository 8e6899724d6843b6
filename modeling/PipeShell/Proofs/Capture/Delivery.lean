import PipeShell.Proofs.Capture.Accounting
import PipeShell.Proofs.Capture.Failures

/-!
# What a handover comes to

However the shell and the copier take turns, and however much they read and write at once, neither
waits for the other for ever. The shell does not wait for the copier's end before it has met the end
of the pipe, and by then the copier has nothing to write any more. So a handover comes to its end,
and there the shell has the file at its beginning, with all that the copier has written.

## Main results

* `Frame.exists_copyStep`, `Accounts.exists_step`: where the capture is not over, one of the two can
  go on
* `Handover.acc_of_invariant`, `Accounts.acc`, `Accounts.exists_done`: every handover comes to its
  end
* `handover_delivers`: nobody waits for ever, and what the capture gives at the end
-/

namespace PipeShell.Machine

open Handover (DrainStep CopyStep Step Reaches WaitsForRoom WaitsForBytes WaitsForEnd start)
open CaptureTask (ending?_pid_eq_some_iff exists_accounts)

variable {t : CaptureTask} {s s' : Handover} {stored buffer : Bytes}

/-! ## Somebody can go on -/

/-- A copier that has not ended can go on, but where it has something to write, the pipe is full and
somebody still reads. -/
theorem CaptureTask.Frame.exists_copyStep {d : Descriptors}
    (h : t.Frame s.machine d (t.process s.copier) buffer)
    (hrunning : ∀ failure rest, s.copier ≠ .ended failure rest)
    (hroom : (∃ left i, s.copier = .passing left i) → buffer.length < t.initial.pipeCapacity ∨
      s.machine.isHeld (.reader t.pipe) = false) :
    ∃ s', CopyStep t s s' := by
  have hprocess := h.getElem?_processes
  cases hcopier : s.copier with
  | closing i => exact ⟨_, .close hcopier hprocess⟩
  | prompting i => exact ⟨_, .prompt hcopier⟩
  | reading i =>
    rcases hline : i.readLine none with ⟨cause | (line | _ | _), rest⟩
    · exact ⟨_, .noLine hcopier hline⟩
    · by_cases hlast : Text.trim line = t.delimiter
      · exact ⟨_, .delimiter hcopier hline hlast⟩
      · exact ⟨_, .line hcopier hline hlast⟩
    · exact ⟨_, .ending hcopier hline (.inr rfl)⟩
    · exact ⟨_, .ending hcopier hline (.inl rfl)⟩
  | passing left i =>
    by_cases hleft : left = []
    · subst hleft
      exact ⟨_, .passed hcopier⟩
    have hsink : (t.process s.copier).descriptors.get? t.writer = some t.writerFile := by
      rw [hcopier]
      exact get?_writer_table false
    have hbytes : left.take 1 ≠ [] := by simpa [List.take_eq_nil_iff] using hleft
    cases hheld : s.machine.isHeld (.reader t.pipe) with
    | false =>
      exact ⟨_, .broken hcopier hleft hprocess hsink Nat.one_pos (h.writeChunk_of_unheld hheld _)⟩
    | true =>
      rcases h.writesChunk hheld hbytes with
        ⟨hfull, -⟩ | ⟨f, taken, -, -, -, ⟨-, hwrite⟩ | ⟨more, -, hwrite⟩⟩
      · have hlt := (hroom ⟨left, i, hcopier⟩).resolve_right (by rw [hheld]; nofun)
        exact absurd hlt (Nat.not_lt.mpr hfull)
      · exact ⟨_, .pass hcopier hleft hprocess hsink Nat.one_pos hwrite⟩
      · exact ⟨_, .passPart hcopier hleft hprocess hsink Nat.one_pos hwrite⟩
  | complaining cause rest => exact ⟨_, .complain hcopier⟩
  | releasing failure rest => exact ⟨_, .release hcopier hprocess⟩
  | leaving failure rest => exact ⟨_, .leave hcopier⟩
  | ended failure rest => exact absurd hcopier (hrunning failure rest)

namespace CaptureTask.Accounts

/-- **Somebody can go on** as long as the capture is not over. -/
theorem exists_step (ht : t.IsReady) (h : t.Accounts s stored buffer) :
    (∃ held status, s.drain = .done held status) ∨ ∃ s', Step t s s' := by
  cases hdrain : s.drain with
  | closing => exact .inr ⟨_, .inl (.close hdrain)⟩
  | making =>
    have hroom : s.machine.temporaryFault? t.cwd = none :=
      (h.frame.shape.temporaryFault?_eq t.cwd).trans ht.room
    exact .inr ⟨_, .inl (.make hdrain hroom)⟩
  | draining file =>
    have hsource : s.machine.descriptors.get? t.reader = some t.readerFile := by
      rw [h.frame.descriptors_eq, hdrain]
      exact get?_reader_table ht.toIsLaidOut false
    rcases h.readChunk_cases ht.toIsLaidOut hdrain hsource Nat.one_pos with
      ⟨rfl, hwrites, -⟩ | ⟨-, -, hread⟩ | ⟨f, -, -, hread⟩
    · -- There is nothing to be read yet, so there is room to write.
      have hrunning : ∀ failure rest, s.copier ≠ .ended failure rest := by
        intro failure rest hended
        rw [hended] at hwrites
        cases hwrites
      obtain ⟨s', hstep⟩ := h.frame.exists_copyStep hrunning fun _ => .inl ht.capacity_pos
      exact .inr ⟨s', .inr hstep⟩
    · exact .inr ⟨_, .inl (.drained hdrain hsource Nat.one_pos hread)⟩
    · exact .inr ⟨_, .inl (.read hdrain hsource Nat.one_pos hread)⟩
  | storing file bytes =>
    by_cases hbytes : bytes = []
    · subst hbytes
      exact .inr ⟨_, .inl (.stored hdrain)⟩
    · have hwrite := (h.store hdrain 1).1
      exact .inr ⟨_, .inl (.store hdrain hbytes Nat.one_pos (Prod.ext hwrite rfl))⟩
  | dropping held => exact .inr ⟨_, .inl (.drop hdrain)⟩
  | rewinding held =>
    cases held with
    | error cause => exact .inr ⟨_, .inl (.noRewind hdrain)⟩
    | ok file => exact .inr ⟨_, .inl (.rewind hdrain)⟩
  | awaiting held =>
    by_cases hended : ∃ failure rest, s.copier = .ended failure rest
    · obtain ⟨failure, rest, hcopier⟩ := hended
      have hending := (ending?_pid_eq_some_iff h.frame).mpr ⟨failure, rest, hcopier, rfl⟩
      exact .inr ⟨_, .inl (.await hdrain hending)⟩
    · -- The copier has let go of the pipe, so it does not wait for room.
      have hwrites : s.copier.writes = false := (h.isOver (by rw [hdrain]; trivial)).2
      obtain ⟨s', hstep⟩ := h.frame.exists_copyStep (by simpa using hended)
        fun ⟨_, _, hpassing⟩ => by
        rw [hpassing] at hwrites
        cases hwrites
      exact .inr ⟨s', .inr hstep⟩
  | done held status => exact .inl ⟨held, status, rfl⟩

/-! ## Waiting -/

/-- Where the copier waits, the pipe is full. -/
theorem le_length_of_waitsForRoom (ht : t.IsLaidOut) (h : t.Accounts s stored buffer)
    (hwaits : WaitsForRoom t s) :
    s.copier.writes = true ∧ t.initial.pipeCapacity ≤ buffer.length := by
  obtain ⟨left, i, p, sink, hcopier, hleft, hprocess, hsink, hwaits⟩ := hwaits
  refine ⟨by rw [hcopier]; rfl, ?_⟩
  exact (h.writesChunk ht hcopier hleft hprocess hsink Nat.one_pos).of_waiting
    (hwaits 1 Nat.one_pos)

/-- Where the shell waits for bytes, the pipe is empty. -/
theorem eq_nil_of_waitsForBytes (ht : t.IsLaidOut) (h : t.Accounts s stored buffer)
    (hwaits : WaitsForBytes t s) : buffer = [] := by
  obtain ⟨file, source, hdrain, hsource, hwaits⟩ := hwaits
  have hwaiting := hwaits 1 Nat.one_pos
  rcases h.readChunk_cases ht hdrain hsource Nat.one_pos with
    ⟨hbuffer, -⟩ | ⟨hbuffer, -⟩ | ⟨f, -, -, hread⟩
  · exact hbuffer
  · exact hbuffer
  · rw [hread] at hwaiting
    cases hwaiting

end CaptureTask.Accounts

/-! ## The end -/

namespace Copier

/-- The bytes of the input that the copier may still read. -/
def unread : Copier → Nat
  | .closing i | .prompting i | .reading i | .passing _ i => i.unread
  | _ => 0

/-- How many things the copier has still to do, up to the next line. -/
def phase : Copier → Nat
  | .closing _ => 7
  | .passing left _ => 6 + left.length
  | .prompting _ => 5
  | .reading _ => 4
  | .complaining _ _ => 3
  | .releasing _ _ => 2
  | .leaving _ _ => 1
  | .ended _ _ => 0

end Copier

/-- Where some of the bytes are written, some are not left any more. -/
theorem exists_of_writeChunk_eq_part {m m' : Machine} {file : Nat} {bytes more : Bytes}
    (h : m.writeChunk file bytes = (.part more, m')) :
    ∃ taken, taken ≠ [] ∧ bytes = taken ++ more := by
  unfold writeChunk at h
  -- A pipe that somebody reads is the only place where a part is written.
  split at h
  · cases h
  split at h
  · cases h
  split at h
  · split at h
    · cases h
    · cases h
    · split at h <;> cases h
    · cases h
  · split at h
    · cases h
    split at h
    · cases h
    dsimp only at h
    split at h
    · cases h
    rename_i waiting _ hroom
    split at h
    · cases h
    · rename_i rest hrest
      cases h
      refine ⟨_, ?_, (List.take_append_drop (m.pipeCapacity - waiting.size) bytes).symm⟩
      rw [ne_eq, List.take_eq_nil_iff]
      rintro (hzero | rfl)
      · exact hroom hzero
      · exact hrest List.drop_nil
  · cases h

/-- A step of the copier takes something from its input, or brings it nearer to the next line. -/
theorem Handover.CopyStep.nearer (hstep : CopyStep t s s') :
    s'.copier.unread < s.copier.unread ∨
      s'.copier.unread ≤ s.copier.unread ∧ s'.copier.phase < s.copier.phase := by
  -- A line that is read makes the phase start anew. Every other step comes nearer to its end.
  cases hstep with
  | line hcopier hline hother =>
    rw [hcopier]
    exact .inl (Input.unread_readLine_lt hline nofun)
  | passPart hcopier hleft hprocess hsink hcount hwrite =>
    obtain ⟨taken, htaken, htake⟩ := exists_of_writeChunk_eq_part hwrite
    have hlength := congrArg List.length htake
    have hpos : 0 < taken.length := List.length_pos_iff.mpr htaken
    rw [hcopier]
    refine .inr ⟨Nat.le_refl _, ?_⟩
    simp only [Copier.phase, List.length_append, List.length_take, List.length_drop] at hlength ⊢
    omega
  | pass hcopier hleft _ _ hcount _ =>
    have hpos := List.length_pos_iff.mpr hleft
    rw [hcopier]
    refine .inr ⟨Nat.le_refl _, ?_⟩
    simp only [Copier.phase, List.length_drop]
    omega
  | broken hcopier | noPass hcopier =>
    rw [hcopier]
    refine .inr ⟨Nat.zero_le _, ?_⟩
    simp only [Copier.phase]
    omega
  | close hcopier | prompt hcopier | passed hcopier | delimiter hcopier | ending hcopier
  | noLine hcopier | complain hcopier | release hcopier | leave hcopier =>
    rw [hcopier]
    exact .inr ⟨by simp [Copier.unread], by simp [Copier.phase]⟩

theorem Handover.DrainStep.copier_eq (hstep : DrainStep t s s') : s'.copier = s.copier := by
  cases hstep <;> rfl

/-- Where each step keeps something, and with it the shell comes nearer to the end by its own steps,
the two do not go on for ever. -/
theorem Handover.acc_of_invariant (Invariant : Handover → Nat → Prop)
    (hdrain : ∀ s s' n, Invariant s n → DrainStep t s s' → ∃ n' < n, Invariant s' n')
    (hcopy : ∀ s s' n, Invariant s n → CopyStep t s s' → ∃ n', Invariant s' n')
    {s : Handover} {distance : Nat} (h : Invariant s distance) :
    Acc (fun after before => Step t before after) s := by
  refine Acc.intro s fun s' hstep => ?_
  rcases hstep with hown | hcopied
  · obtain ⟨distance', hlt, hkept⟩ := hdrain s s' distance h hown
    have hcopier := hown.copier_eq
    exact acc_of_invariant Invariant hdrain hcopy hkept
  · obtain ⟨distance', hkept⟩ := hcopy s s' distance h hcopied
    have hnearer := hcopied.nearer
    exact acc_of_invariant Invariant hdrain hcopy hkept
termination_by (s.copier.unread, s.copier.phase, distance)
decreasing_by
  · rw [hcopier]
    exact .right _ (.right _ hlt)
  · rcases hnearer with hless | ⟨hle, hless⟩
    · exact .left _ _ hless
    · rcases Nat.lt_or_eq_of_le hle with hlt | heq
      · exact .left _ _ hlt
      · rw [heq]
        exact .right _ (.left _ _ hless)

/-- Where one of the two can always go on besides, the capture is over some time. -/
theorem Handover.exists_done_of_acc (Kept : Handover → Prop)
    (hkeeps : ∀ s s', Kept s → Step t s s' → Kept s')
    (hgoes : ∀ s, Kept s → (∃ held status, s.drain = .done held status) ∨ ∃ s', Step t s s')
    (hacc : Acc (fun after before => Step t before after) s) (h : Kept s) :
    ∃ s', Relation.ReflTransGen (Step t) s s' ∧ Kept s' ∧
      ∃ held status, s'.drain = .done held status := by
  induction hacc with
  | intro s _ ih =>
    rcases hgoes s h with hdone | ⟨s', hstep⟩
    · exact ⟨s, .refl, h, hdone⟩
    · obtain ⟨s'', hreach, hkept, hdone⟩ := ih s' hstep (hkeeps s s' h hstep)
      exact ⟨s'', .head hstep hreach, hkept, hdone⟩

/-- **Every handover terminates**, whichever of the two takes the next step and however much it
reads or writes. -/
theorem CaptureTask.Accounts.acc (ht : t.IsReady) (h : t.Accounts s stored buffer) :
    Acc (fun after before => Step t before after) s := by
  refine Handover.acc_of_invariant
    (fun s n => ∃ stored buffer, t.Accounts s stored buffer ∧ s.drain.distance buffer = n)
    ?_ ?_ ⟨stored, buffer, h, rfl⟩
  · rintro s s' n ⟨stored, buffer, haccounts, rfl⟩ hstep
    obtain ⟨stored', buffer', haccounts', hlt⟩ := haccounts.drainStep ht hstep
    exact ⟨_, hlt, stored', buffer', haccounts', rfl⟩
  · rintro s s' n ⟨stored, buffer, haccounts, rfl⟩ hstep
    obtain ⟨buffer', haccounts'⟩ := haccounts.copyStep ht.toIsLaidOut hstep
    exact ⟨_, stored, buffer', haccounts', rfl⟩

/-- So from whatever a handover has come to, the capture is over some time. -/
theorem CaptureTask.Accounts.exists_done (ht : t.IsReady) (h : t.Accounts s stored buffer) :
    ∃ s', Relation.ReflTransGen (Step t) s s' ∧ ∃ held status, s'.drain = .done held status := by
  obtain ⟨s', hreach, -, hdone⟩ := Handover.exists_done_of_acc
    (fun s => ∃ stored buffer, t.Accounts s stored buffer)
    (fun _ _ ⟨_, _, haccounts⟩ hstep => haccounts.step ht hstep)
    (fun _ ⟨_, _, haccounts⟩ => haccounts.exists_step ht) (h.acc ht) ⟨stored, buffer, h⟩
  exact ⟨s', hreach, hdone⟩

/-- **A text is handed over whole.** Let a temporary file be available, the pipe have room for at
least one byte, and a handover have come to `s`, however the two have taken turns, and however much
they have read and written at once. Then the copier does not wait for room in the pipe while the
shell waits for bytes or for the copier; and somebody can go on, or the capture is over. If it is
over, the copier has ended, and how it has ended is known; and what the capture gives is an open
file at the beginning of exactly the bytes that the copier has written, in their order. These are
the lines of the input up to the delimiter, or to the failure to read that the copier has ended
with, and so the file holds what `hold` keeps. -/
theorem handover_delivers (ht : t.IsReady) (h : Reaches t s) :
    ¬ (WaitsForRoom t s ∧ (WaitsForBytes t s ∨ WaitsForEnd t s)) ∧
    ((∃ held status, s.drain = .done held status) ∨ ∃ s', Step t s s') ∧
    ∀ held status, s.drain = .done held status →
      ∃ file failure rest prompts, held = .ok file ∧ s.copier = .ended failure rest ∧
        s.machine.ending? t.pid = some status ∧ status = exitOf failure ∧
        s.machine.HoldsText file s.sent ∧
        Heredoc.copy t.delimiter t.input = ⟨s.sent.toArray, prompts, failure, rest⟩ ∧
        ∃ kept m, t.initial.hold t.cwd t.promptText t.delimiter t.input = (.ok kept, rest, m) ∧
          m.HoldsText kept s.sent := by
  obtain ⟨stored, buffer, haccounts⟩ := exists_accounts ht h
  refine ⟨?_, haccounts.exists_step ht, fun held status hdone => ?_⟩
  · rintro ⟨hroom, hbytes | ⟨held, hawaiting, -⟩⟩
    · -- The pipe would be full and empty.
      have hfull := (haccounts.le_length_of_waitsForRoom ht.toIsLaidOut hroom).2
      rw [haccounts.eq_nil_of_waitsForBytes ht.toIsLaidOut hbytes] at hfull
      exact absurd ht.capacity_pos (Nat.not_lt.mpr hfull)
    · -- The shell waits for the copier only when this has let go of the pipe.
      have hwrites := (haccounts.le_length_of_waitsForRoom ht.toIsLaidOut hroom).1
      exact haccounts.not_isOver hwrites (by rw [hawaiting]; trivial)
  · obtain ⟨failure, rest, hended, hstatus⟩ := haccounts.known held status hdone
    obtain ⟨hbuffer, -⟩ := haccounts.isOver (by rw [hdone]; trivial)
    have hkeeps := haccounts.keeps
    have hsent := haccounts.sent_eq
    have hcopied := haccounts.copied
    rw [hdone] at hkeeps hsent
    rw [hended] at hcopied
    obtain ⟨file, rfl, hstored⟩ := hkeeps
    obtain ⟨prompts, hcopy⟩ := hcopied
    obtain rfl : s.sent = stored := by simpa [hbuffer, Drain.pending] using hsent
    have hheld : t.initial.hold t.cwd t.promptText t.delimiter t.input =
        (.ok (t.initial.complainOf t.promptText
          (Heredoc.copy t.delimiter t.input)).files.size, rest,
          ((t.initial.complainOf t.promptText (Heredoc.copy t.delimiter t.input)).openNameless
            s.sent.toArray).2) := by
      simp only [hold, ht.room, hcopy]
      rfl
    exact ⟨file, failure, rest, prompts, rfl, hended,
      (ending?_pid_eq_some_iff haccounts.frame).mpr ⟨failure, rest, hended, hstatus⟩, hstatus,
      hstored.holdsText, hcopy, _, _, hheld, holdsText_openNameless _ _⟩

/-- A text of two lines, captured through a pipe that has room for one byte. -/
def narrowTask : CaptureTask where
  initial := { textMachine 0o755 with pipeCapacity := 1 }
  cwd := FileTree.root
  promptText := "> "
  delimiter := "EOF"
  input := (textMachine 0o755).input
  reader := 3
  writer := 4

/-- Where all open files lead to nodes, no pipe is in the way. -/
theorem CaptureTask.isLaidOut_of_nodes {t : CaptureTask}
    (hnode : ∀ f ∈ t.initial.files.toList, ∃ id < t.initial.tree.nodes.size, f.target = .node id)
    (held : ∀ d ∈ t.initial.tables, ∀ file ∈ d.files, file < t.initial.files.size)
    (standardError : (t.initial.descriptors.get? 2).isSome = true)
    (reader_unused : t.initial.descriptors.get? t.reader = none)
    (writer_unused : t.initial.descriptors.get? t.writer = none)
    (reader_ne_writer : t.reader ≠ t.writer) (capacity_pos : 0 < t.initial.pipeCapacity) :
    t.IsLaidOut := by
  refine ⟨.of_files held fun f hf => ?_, standardError, fun file id htarget => ?_, reader_unused,
    writer_unused, reader_ne_writer, capacity_pos⟩
  · obtain ⟨id, -, htarget⟩ := hnode f hf
    rw [htarget]
    rfl
  · obtain ⟨f, hf, htarget⟩ := Option.map_eq_some_iff.mp htarget
    obtain ⟨_, hid, heq⟩ := hnode f (Array.mem_toList_iff.mpr (Array.mem_of_getElem? hf))
    cases htarget.symm.trans heq
    exact hid

theorem isReady_narrowTask : narrowTask.IsReady :=
  ⟨CaptureTask.isLaidOut_of_nodes (by decide) (by decide) (by decide) rfl rfl (by decide)
    (by decide),
    by decide +kernel⟩

/-- When the copier has passed on the first byte of the first line, it has to wait for room. -/
theorem exists_waitsForRoom_narrowTask :
    ∃ s, Reaches narrowTask s ∧ WaitsForRoom narrowTask s := by
  have hline : (narrowTask.input.readLine none).1 = .ok (.text "one") := by decide +kernel
  have hleft : Text.Utf8.encode "one" ++ [Input.lineFeed] = [111, 110, 101, 10] := by
    decide +kernel
  have h : Reaches narrowTask (start narrowTask) := .refl
  replace h := h.tail (.inr (.close rfl rfl))
  replace h := h.tail (.inr (.prompt rfl))
  replace h := h.tail (.inr (.line rfl (Prod.ext hline rfl) (by decide)))
  rw [hleft] at h
  replace h := h.tail (.inr (@CopyStep.passPart _ _ _ _ [110] _ 4 2 _ rfl (by decide) rfl rfl
    (by decide) rfl))
  exact ⟨_, h, [110, 101, 10], _, _, 4, rfl, by decide, rfl, rfl, fun _ _ => rfl⟩

/-- There the shell does not wait, whatever it has done. However the two go on, the text is handed
over. -/
theorem handover_delivers_narrow :
    narrowTask.IsReady ∧
      ∃ s, Reaches narrowTask s ∧ WaitsForRoom narrowTask s ∧
        ¬ WaitsForBytes narrowTask s ∧ ¬ WaitsForEnd narrowTask s ∧
        ∃ s' file, Relation.ReflTransGen (Step narrowTask) s s' ∧
          s'.drain = .done (.ok file) (.exited 0) ∧
          s'.machine.HoldsText file (Text.Utf8.encode "one\ntwo\n") := by
  obtain ⟨s, h, hwaits⟩ := exists_waitsForRoom_narrowTask
  have hnever := (handover_delivers isReady_narrowTask h).1
  obtain ⟨stored, buffer, haccounts⟩ := exists_accounts isReady_narrowTask h
  obtain ⟨s', hlater, held, status, hdone⟩ := haccounts.exists_done isReady_narrowTask
  obtain ⟨file, failure, rest, prompts, rfl, -, -, rfl, htext, hcopy, -⟩ :=
    (handover_delivers isReady_narrowTask (h.trans hlater)).2.2 held status hdone
  have hbody : (Heredoc.copy narrowTask.delimiter narrowTask.input).body =
      (Text.Utf8.encode "one\ntwo\n").toArray := by
    decide +kernel
  have hfailure : (Heredoc.copy narrowTask.delimiter narrowTask.input).failure = none := by
    decide +kernel
  rw [hcopy] at hbody hfailure
  obtain rfl : failure = none := hfailure
  have hsent : s'.sent = Text.Utf8.encode "one\ntwo\n" := congrArg Array.toList hbody
  exact ⟨isReady_narrowTask, s, h, hwaits, fun hbytes => hnever ⟨hwaits, .inl hbytes⟩,
    fun hend => hnever ⟨hwaits, .inr hend⟩, s', file, hlater, hdone, hsent ▸ htext⟩

end PipeShell.Machine
