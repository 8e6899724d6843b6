import PipeShell.Proofs.Capture.Exactness

/-!
# Captures that fail, and captures that should

Where no temporary file can be made the capture fails, and before long whoever reads the lines for
it has nobody to pass them to. So some of the lines are read, and the rest of the text is left to be
read as commands.

A failure to read, on the other hand, does not fail the capture. The text ends with the last whole
line in front of the failure and is handed on like one that is complete; only standard error tells
that it is not.

## Main results

* `capture_eq_error`: what a capture that fails takes
* `truncated_text_is_held`: a text that is cut short is captured
* `truncated_text_succeeds`: there is one
-/

namespace PipeShell

open Heredoc (inFront keptLines passedOn)

/-! ## Lengths of lines -/

theorem ne_nil_of_mem_splitLines {bytes line : Bytes} (h : line ∈ splitLines bytes) :
    line ≠ [] := by
  fun_induction splitLines bytes with
  | case1 => cases h
  | case2 rest ih =>
    rcases List.mem_cons.mp h with rfl | h
    · simp
    · exact ih h
  | case3 byte rest hbyte hlines ih =>
    obtain rfl := List.mem_singleton.mp h
    simp
  | case4 byte rest hbyte first lines hlines ih =>
    rcases List.mem_cons.mp h with rfl | h
    · simp
    · exact ih (hlines ▸ List.mem_cons_of_mem _ h)

/-- Fewer lines are shorter, unless there are no more. -/
theorem length_take_eq_iff {bytes : Bytes} {k n : Nat} (hk : k ≤ n) :
    ((splitLines bytes).take k).flatten.length = ((splitLines bytes).take n).flatten.length ↔
      k = n ∨ (splitLines bytes).length ≤ k := by
  obtain ⟨more, rfl⟩ := Nat.exists_eq_add_of_le hk
  have hempty : (((splitLines bytes).drop k).take more).flatten = [] ↔
      ((splitLines bytes).drop k).take more = [] := by
    refine ⟨fun hflatten => List.eq_nil_iff_forall_not_mem.mpr fun line hline => ?_,
      fun hnil => by rw [hnil, List.flatten_nil]⟩
    refine ne_nil_of_mem_splitLines (List.mem_of_mem_drop (List.mem_of_mem_take hline)) ?_
    exact List.flatten_eq_nil_iff.mp hflatten line hline
  rw [List.take_add, List.flatten_append, List.length_append, Nat.left_eq_add,
    List.length_eq_zero_iff, hempty, List.take_eq_nil_iff, List.drop_eq_nil_iff]
  omega

namespace Machine

variable {m : Machine} {cwd : NodeId} {cause : Errno} {script : Bytes} {pos : Nat}

/-! ## No temporary file -/

/-- **A capture that fails** does so with the reason for which no temporary file can be made. It
takes the lines that are passed on, and one more, and the failure to pass that one on is told on
standard error. -/
theorem capture_eq_error (h : m.StandsAt script pos) (hfault : m.temporaryFault? cwd = some cause)
    (promptText delimiter : String) {front : List Bytes} {passed : Nat}
    (hfront : inFront delimiter (splitLines (script.drop pos)) = front)
    (hpassed : passedOn front (m.delays.headD 0) m.pipeCapacity = passed) :
    ∃ after, capture cwd promptText delimiter m = (.error cause, after) ∧
      after.StandsAt script
        (pos + ((splitLines (script.drop pos)).take (passed + 1)).flatten.length) ∧
      ∀ file id log, m.CollectsErrors file id log → after.CollectsErrors file id
        (log ++ Text.Utf8.encode (String.join (List.replicate (passed + 1) promptText)) ++
          complaintOf (if passed < front.length then some .brokenPipe else none)) := by
  have hrest := h.rest_input
  have hcopy := Heredoc.copyAhead_eq_of_lines delimiter (m.delays.headD 0) m.pipeCapacity m.input
    h.failure_input (hrest ▸ hfront)
  rw [hrest, hpassed] at hcopy
  obtain ⟨source, target, h⟩ := h
  have hasked := h.nextDelay.complainOf promptText
    (Heredoc.copyAhead delimiter (m.delays.headD 0) m.pipeCapacity m.input)
  have hcapture : capture cwd promptText delimiter m = (.error cause,
      (m.nextDelay.complainOf promptText
        (Heredoc.copyAhead delimiter (m.delays.headD 0) m.pipeCapacity m.input)).setInput
          (Heredoc.copyAhead delimiter (m.delays.headD 0) m.pipeCapacity m.input).rest) := by
    simp only [capture, hold, hfault]
  -- Standard input and standard error are told apart: what is written to the one leaves the other
  -- alone, and so does what is read.
  refine ⟨_, hcapture, ⟨source, target, ?_⟩, fun file id log hlog => ?_⟩
  · have hstands := hasked.setInput
      ((splitLines (script.drop pos)).take (passed + 1)).flatten.length
    rw [← h.input_eq] at hstands
    rw [hcopy] at hstands ⊢
    exact hstands
  · have hcollected := hlog.nextDelay.complainOf promptText
      (Heredoc.copyAhead delimiter (m.delays.headD 0) m.pipeCapacity m.input)
    have hcollected := hcollected.setInput (hcollected.descriptor_ne hasked)
      (Heredoc.copyAhead delimiter (m.delays.headD 0) m.pipeCapacity m.input).rest
    rw [hcopy] at hcollected ⊢
    exact hcollected

/-- A script in which a text of two lines is captured, with a command behind it. -/
def textScript : Bytes := Text.Utf8.encode "one\ntwo\nEOF\nafter\n"

/-- A machine that reads this script and makes its temporary files in the directory it stands in,
which has the given permission bits. -/
def textMachine (mode : Nat) : Machine :=
  (((onTree ⟨#[⟨.directory FileTree.root [], mode⟩]⟩ [("TMPDIR", "")]).openStream 0
    textScript.toArray).openStream 1 #[]).openStream 2 #[]

/-! ## Input that fails -/

/-- **A text that is cut short is held** like one that is complete. Where reading fails before the
delimiter has been met, the capture succeeds nevertheless if a temporary file can be made, and gives
the whole lines in front of the failure. All of the input has been taken, and standard error alone
tells of the failure. Nothing but the temporary file decides on whether a capture succeeds. -/
theorem truncated_text_is_held {i : Input} (hfailure : i.failure = some cause) {delimiter : String}
    (hopen : ∀ line ∈ wholeLines i.rest, Text.trim (textOfLine line) ≠ delimiter) (m : Machine)
    (cwd : NodeId) (promptText : String) :
    (∀ fault, m.temporaryFault? cwd = some fault →
      (m.hold cwd promptText delimiter i).1 = .error fault) ∧
    (m.temporaryFault? cwd = none →
      ∃ file after,
        m.hold cwd promptText delimiter i = (.ok file, i.advance i.rest.length, after) ∧
        after.HoldsText file (keptLines (wholeLines i.rest)) ∧
        ∀ errors id log, m.CollectsErrors errors id log → after.CollectsErrors errors id
          (log ++ Text.Utf8.encode (String.join (List.replicate ((wholeLines i.rest).length + 1)
            promptText)) ++ complaintOf (some cause))) := by
  refine ⟨fun fault hfault => by simp only [hold, hfault], fun hroom => ?_⟩
  have hcopy := Heredoc.copy_eq_of_failure hfailure hopen
  have hheld : m.hold cwd promptText delimiter i =
      (.ok (m.complainOf promptText (Heredoc.copy delimiter i)).files.size,
        i.advance i.rest.length, ((m.complainOf promptText (Heredoc.copy delimiter i)).openNameless
          (keptLines (wholeLines i.rest)).toArray).2) := by
    simp only [hold, hroom, hcopy]
    rfl
  refine ⟨_, _, hheld, holdsText_openNameless _ _, fun errors id log hlog => ?_⟩
  have hcollected := (hlog.complainOf promptText (Heredoc.copy delimiter i)).openNameless
    (keptLines (wholeLines i.rest)).toArray
  rw [hcopy] at hcollected ⊢
  exact hcollected

/-- An input that fails within its second line. -/
def cutInput : Input := ⟨(Text.Utf8.encode "one\ntwo").toArray, 0, some .inputOutput⟩

theorem forall_wholeLines_cutInput :
    ∀ line ∈ wholeLines cutInput.rest, Text.trim (textOfLine line) ≠ "EOF" := by
  decide +kernel

/-- What is held of it is the first line. -/
theorem truncated_text_is_held_cut :
    cutInput.failure = some .inputOutput ∧
      (∀ line ∈ wholeLines cutInput.rest, Text.trim (textOfLine line) ≠ "EOF") ∧
      ∃ file after,
        (textMachine 0o755).hold FileTree.root "" "EOF" cutInput =
          (.ok file, cutInput.advance 7, after) ∧
        after.HoldsText file (Text.Utf8.encode "one\n") := by
  have hroom : (textMachine 0o755).temporaryFault? FileTree.root = none := by decide +kernel
  have hkept : keptLines (wholeLines cutInput.rest) = Text.Utf8.encode "one\n" := by decide +kernel
  have hlength : cutInput.rest.length = 7 := by decide +kernel
  obtain ⟨file, after, hheld, htext, -⟩ :=
    (truncated_text_is_held (i := cutInput) rfl forall_wholeLines_cutInput (textMachine 0o755)
      FileTree.root "").2 hroom
  rw [hlength] at hheld
  rw [hkept] at htext
  exact ⟨rfl, forall_wholeLines_cutInput, file, after, hheld, htext⟩

/-- **A failure to read does not fail the capture.** -/
theorem truncated_text_succeeds :
    ¬ ∀ (m : Machine) (cwd : NodeId) (promptText delimiter : String) (i : Input) (cause : Errno),
      i.failure = some cause →
      (∀ line ∈ wholeLines i.rest, Text.trim (textOfLine line) ≠ delimiter) →
        ∃ e, (m.hold cwd promptText delimiter i).1 = .error e := by
  intro h
  obtain ⟨e, he⟩ := h (textMachine 0o755) FileTree.root "" "EOF" cutInput .inputOutput rfl
    forall_wholeLines_cutInput
  have hok : ((textMachine 0o755).hold FileTree.root "" "EOF" cutInput).1.isOk = true := by
    decide +kernel
  rw [he] at hok
  cases hok

end Machine

end PipeShell
