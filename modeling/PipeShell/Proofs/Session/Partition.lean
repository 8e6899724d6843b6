import PipeShell.Proofs.Execution.Transcript
import PipeShell.Proofs.Machine.StandardInput
import PipeShell.Proofs.Session.Readings

/-!
# A session takes its script apart

The readings of a session take the script on standard input apart from left to right: each begins
where the one before it ended. A line is one line of the script, however long; a text is what there
is up to its delimiter. So each line begins right behind the line before it or, where that one
captured texts, right behind the last of these, and no byte is lost or read twice.

Between two readings the shell writes to its standard output and standard error, carries out
built-in commands and waits for processes. None of this moves the position as long as the processes
leave standard input alone; that, and that nobody writes into the script, is assumed of a session. A
session that panics leaves the rest of the script unread.

## Main definitions

* `Takes`: some bytes are what is read for a purpose
* `Partition`: readings that take some bytes apart
* `LeavesScript`: carrying out plans leaves the script alone
* `TurnTakes`: what one turn does to the script

## Main results

* `turn_partition`: what one turn takes
* `readings_partition`: the readings of a session take its script apart
-/

namespace PipeShell

variable {β φ κ η : Type}

/-- The tools of a shell that captures texts from its own standard input. -/
def Tools.capturing (promptText : String)
    (builder : Machine.NodeId → Builder (World β) φ Nat η) : Tools β φ Nat η where
  capture cwd delimiter := World.onMachine (Machine.capture cwd promptText delimiter)
  builder := builder

/-- These tools capture texts from the shell's own standard input. -/
def Tools.CapturesInput (tools : Tools β φ Nat η) (promptText : String) : Prop :=
  ∀ cwd delimiter, tools.capture cwd delimiter =
    World.onMachine (Machine.capture cwd promptText delimiter)

theorem Tools.CapturesInput.recorded_eq {tools : Tools β φ Nat η} {promptText : String}
    (htools : tools.CapturesInput promptText) (total : Nat) (cwd : Machine.NodeId)
    (delimiter : String) (w : World β) (texts : List Session.Reading) :
    (tools.capture cwd).recorded total delimiter (w, texts) =
      ((Machine.capture cwd promptText delimiter w.machine).1,
        { w with machine := (Machine.capture cwd promptText delimiter w.machine).2 },
        texts ++ [⟨.text delimiter
            ((Machine.capture cwd promptText delimiter w.machine).1.map fun _ => ()),
          w.position total,
          World.position total
            { w with machine := (Machine.capture cwd promptText delimiter w.machine).2 }⟩]) := by
  rw [Capture.recorded, htools]
  rfl

namespace Session

/-- Some bytes are what is read for a purpose, with `rest` behind them. -/
inductive Takes (maxLine : Nat) : Purpose → (taken rest : Bytes) → Prop where
  | endOfInput : Takes maxLine (.line (.ok .endOfInput)) [] []
  | line {front line rest} (first : FirstLine front line rest) :
    Takes maxLine (.line (.ok (Input.lineOf (some maxLine) front))) line rest
  | text {delimiter lines taken rest} (upTo : Heredoc.UpTo delimiter lines taken rest) :
    Takes maxLine (.text delimiter (.ok ())) taken rest

/-- Readings that take bytes apart from left to right: they begin at position `pos` with `bytes`
ahead and end at position `stop` with `rest` ahead, and each begins where the one before ended. -/
inductive Partition (maxLine : Nat) :
    (pos : Nat) → (bytes : Bytes) → List Reading → (stop : Nat) → (rest : Bytes) → Prop where
  | nil (pos bytes) : Partition maxLine pos bytes [] pos bytes
  | cons {pos purpose taken left readings stop rest} (first : Takes maxLine purpose taken left)
    (later : Partition maxLine (pos + taken.length) left readings stop rest) :
    Partition maxLine pos (taken ++ left) (⟨purpose, pos, pos + taken.length⟩ :: readings) stop rest

/-- The bytes of a script that a reading takes. -/
def Reading.bytes (script : Bytes) (r : Reading) : Bytes :=
  (script.drop r.start).take (r.stop - r.start)

namespace Partition

variable {maxLine pos middle stop : Nat} {bytes left rest script : Bytes}
  {first later : List Reading}

theorem append (h : Partition maxLine pos bytes first middle left)
    (h' : Partition maxLine middle left later stop rest) :
    Partition maxLine pos bytes (first ++ later) stop rest := by
  induction h with
  | nil => exact h'
  | cons takes _ ih => exact .cons takes (ih h')

/-- One reading takes what lies between its positions. -/
theorem single {purpose : Purpose} {taken : Bytes} (hstop : stop = pos + taken.length)
    (hsplit : script.drop pos = taken ++ script.drop stop)
    (h : Takes maxLine purpose taken (script.drop stop)) :
    Partition maxLine pos (script.drop pos) [⟨purpose, pos, stop⟩] stop (script.drop stop) := by
  subst hstop
  rw [hsplit]
  exact .cons h (.nil _ _)

theorem le (h : Partition maxLine pos bytes first stop rest) : pos ≤ stop := by
  induction h with
  | nil => exact Nat.le_refl _
  | cons takes _ ih => exact Nat.le_trans (Nat.le_add_right _ _) ih

/-- No position is passed without its byte being taken. -/
theorem length_add (h : Partition maxLine pos bytes first stop rest) :
    bytes.length + pos = rest.length + stop := by
  induction h with
  | nil => rfl
  | cons takes _ ih =>
    rw [List.length_append]
    omega

/-- No byte is counted twice. -/
theorem total_eq {total : Nat} (h : Partition maxLine pos (script.drop pos) first stop
      (script.drop stop)) (htotal : total = pos + (script.length - pos)) :
    total = stop + (script.length - stop) := by
  have hlength := h.length_add
  rw [List.length_drop, List.length_drop] at hlength
  omega

/-- What the readings take, put together again, is what there was. -/
theorem flatMap_bytes (h : Partition maxLine pos (script.drop pos) first stop rest) :
    first.flatMap (Reading.bytes script) ++ rest = script.drop pos ∧ rest = script.drop stop := by
  generalize hbytes : script.drop pos = bytes at h
  induction h with
  | nil => exact ⟨rfl, hbytes.symm⟩
  | cons takes _ ih =>
    rename_i pos purpose taken left readings stop rest _
    have hleft : script.drop (pos + taken.length) = left := by
      rw [← List.drop_drop, hbytes, List.drop_left]
    obtain ⟨hflat, hrest⟩ := ih hleft
    refine ⟨?_, hrest⟩
    rw [List.flatMap_cons, List.append_assoc, hflat]
    simp [Reading.bytes, hbytes]

end Partition

/-- Carrying out plans leaves the script alone: a built-in command does not write into it, and
processes leave standard input as they found it. -/
def LeavesScript (tools : Tools β φ κ η) (script : Bytes) (shell : Shell)
    (plans : List (Except RedirectionError (Plan κ))) (w : World β) : Prop :=
  match Shell.builtinOf? plans with
  | some (b, plan) =>
    (Shell.runBuiltin b plan shell w).2.2.machine.input.data = w.machine.input.data
  | none => ∀ pos, w.machine.StandsAt script pos →
      (execute (tools.builder shell.cwd) plans w).2.machine.StandsAt script pos

/-! ## Between the readings -/

section Between

variable {w : World β} {script : Bytes} {pos : Nat}

theorem standsAt_record (journal : Journal) (message : Option LogMessage)
    (h : w.machine.StandsAt script pos) :
    (record journal message w).machine.StandsAt script pos := by
  unfold record
  split
  · exact h
  · exact h.complain _

theorem standsAt_showPrompt (journal : Journal) (shell : Shell)
    (h : w.machine.StandsAt script pos) :
    (showPrompt journal shell w).machine.StandsAt script pos :=
  (standsAt_record journal _ h).complain _

theorem standsAt_report (message : String) (h : w.machine.StandsAt script pos) :
    (report message w).2.machine.StandsAt script pos :=
  h.print (by simp) _

/-- Printing for a built-in command leaves the position alone. -/
theorem inputAt_printTo {file : Nat} {target : Machine.Target}
    (h : w.machine.InputAt file target script pos) {output : Option Nat}
    (houtput : ∀ o, output = some o → o ≠ file) (bytes : Bytes) :
    ∃ script', (Shell.printTo output bytes w).2.machine.InputAt file target script' pos := by
  cases output with
  | none => exact ⟨script, h.print (by simp) bytes⟩
  | some o => exact h.writeFile (houtput o rfl) bytes

/-- A built-in command leaves the position alone. -/
theorem inputAt_runBuiltin {file : Nat} {target : Machine.Target}
    (h : w.machine.InputAt file target script pos) (b : Builtin) (plan : Plan κ) (shell : Shell) :
    ∃ script', (Shell.runBuiltin b plan shell w).2.2.machine.InputAt file target script' pos := by
  obtain ⟨⟨script', hopened⟩, houtput⟩ := h.openForBuiltin shell.cwd plan.bindings
  unfold Shell.runBuiltin
  split
  · rename_i e after hopen
    cases congrArg Prod.snd hopen
    exact ⟨script', hopened⟩
  · rename_i output after hopen
    have hafter : after.machine.InputAt file target script' pos := by
      cases congrArg Prod.snd hopen
      exact hopened
    have hprint : ∀ o, output = some o → o ≠ file := by
      rintro o rfl
      exact houtput o (congrArg Prod.fst hopen)
    -- Only `help` prints anything.
    have hrun : ∃ script'', (b.run after.machine.tree (Shell.printTo output) plan.args.tail shell
        after).2.2.machine.InputAt file target script'' pos := by
      cases b with
      | changeDirectory => exact ⟨script', hafter⟩
      | leave => exact ⟨script', hafter⟩
      | help => exact inputAt_printTo hafter hprint _
    split <;> rename_i hb <;> rw [hb] at hrun <;> exact hrun

/-- Carrying out plans that leave the script alone leaves the position alone. -/
theorem standsAt_carryOut {tools : Tools β φ κ η} {shell : Shell}
    {plans : List (Except RedirectionError (Plan κ))} (h : w.machine.StandsAt script pos)
    (hleaves : LeavesScript tools script shell plans w) :
    (carryOut tools shell w plans).2.2.machine.StandsAt script pos := by
  unfold LeavesScript at hleaves
  unfold carryOut
  cases hbuiltin : Shell.builtinOf? plans with
  | some command =>
    obtain ⟨b, plan⟩ := command
    rw [hbuiltin] at hleaves
    obtain ⟨file, target, h⟩ := h
    obtain ⟨script', hafter⟩ := inputAt_runBuiltin h b plan shell
    dsimp only at hleaves
    rw [h.input_eq] at hleaves
    exact ⟨file, target, hafter.of_data_eq hleaves⟩
  | none =>
    rw [hbuiltin] at hleaves
    have hkeep := hleaves pos h
    dsimp only [Shell.runProcesses]
    split <;> rename_i hexecute <;> rw [hexecute] at hkeep <;> exact hkeep

theorem standsAt_settle {result : Except EvalError Flow × Shell × World β}
    (h : result.2.2.machine.StandsAt script pos) :
    (settle result).2.2.machine.StandsAt script pos := by
  obtain ⟨_ | _ | _, shell, w⟩ := result
  · rw [settle, snd_snd_orPanic]
    exact standsAt_report _ h
  · exact h
  · exact h

theorem settings_runBuiltin (b : Builtin) (plan : Plan κ) (shell : Shell) (w : World β) :
    (Shell.runBuiltin b plan shell w).2.1.settings = shell.settings := by
  unfold Shell.runBuiltin
  split
  · rfl
  · rename_i output after _
    have hrun : (b.run after.machine.tree (Shell.printTo output) plan.args.tail shell
        after).2.1.settings = shell.settings := by
      cases b with
      | changeDirectory =>
        simp only [Builtin.run, Builtin.runChangeDirectory]
        split
        · rfl
        · split <;> rfl
        · rfl
      | leave => rfl
      | help => rfl
    split <;> rename_i hb <;> rw [hb] at hrun <;> exact hrun

/-- Nothing that is carried out changes the settings. -/
theorem settings_carryOut (tools : Tools β φ κ η) (shell : Shell)
    (plans : List (Except RedirectionError (Plan κ))) (w : World β) :
    (carryOut tools shell w plans).2.1.settings = shell.settings := by
  unfold carryOut
  split
  · exact settings_runBuiltin _ _ shell w
  · unfold Shell.runProcesses
    split <;> rfl

end Between

/-! ## Reading -/

section Reading

variable {w : World β} {script : Bytes} {total pos : Nat} {journal : Journal} {shell : Shell}

/-- The position is where descriptor 0 stands, if as many bytes are counted as there were. -/
theorem position_eq (h : w.machine.StandsAt script pos)
    (htotal : total = pos + (script.length - pos)) : w.position total = pos := by
  rw [World.position, h.unread_input, htotal, Nat.add_sub_cancel]

/-- What is taken off the script is counted. -/
theorem total_of_split {taken : Bytes} (htotal : total = pos + (script.length - pos))
    (hsplit : script.drop pos = taken ++ script.drop (pos + taken.length)) :
    total = pos + taken.length + (script.length - (pos + taken.length)) := by
  have hlength := congrArg List.length hsplit
  rw [List.length_append, List.length_drop, List.length_drop] at hlength
  omega

theorem drop_eq_of_drop {taken rest : Bytes} (h : script.drop pos = taken ++ rest) :
    script.drop (pos + taken.length) = rest := by
  rw [← List.drop_drop, h, List.drop_left]

/-- The line of a turn is the next line of the script; at the end of the script there is none. -/
theorem partition_lineReading (journal : Journal) (shell : Shell)
    (h : w.machine.StandsAt script pos) (htotal : total = pos + (script.length - pos)) :
    ∃ line read stop, asked journal shell w = (.ok line, read) ∧ read.machine.StandsAt script stop ∧
      Partition shell.settings.maxLine pos (script.drop pos)
        [lineReading total journal shell w] stop
        (script.drop stop) ∧
      (line = .endOfInput ∧ script.drop stop = [] ∨ line ≠ .endOfInput ∧ pos < stop) := by
  have hprompt := standsAt_showPrompt journal shell h
  -- What reading gives on the machine is what it gives on the script.
  obtain ⟨i, hi⟩ : ∃ i, i = (showPrompt journal shell w).machine.input := ⟨_, rfl⟩
  have hrest : i.rest = script.drop pos := by rw [hi, hprompt.rest_input]
  have hasked : asked journal shell w = ((i.readLine (some shell.settings.maxLine)).1,
      (showPrompt journal shell w).modifyMachine
        (·.setInput (i.readLine (some shell.settings.maxLine)).2)) := by
    rw [hi]
    rfl
  have hreading : ∀ {line read stop}, asked journal shell w = (.ok line, read) →
      read.machine.StandsAt script stop → total = stop + (script.length - stop) →
        lineReading total journal shell w = ⟨.line (.ok line), pos, stop⟩ := by
    intro line read stop hasked hread hstop
    rw [lineReading, hasked, position_eq hprompt htotal, position_eq hread hstop]
  rcases i.readLine_eq (some shell.settings.maxLine) (by rw [hi, hprompt.failure_input]) with
    ⟨hnil, hread⟩ | ⟨front, taken, rest, hsplit, hfirst, hread⟩
  · have hstands := hprompt.setInput 0
    rw [hread] at hasked
    rw [← hi, Input.advance_zero] at hstands
    rw [hrest] at hnil
    refine ⟨_, _, pos, hasked, hstands, ?_, .inl ⟨rfl, hnil⟩⟩
    have htakes : Takes shell.settings.maxLine (.line (.ok .endOfInput)) [] (script.drop pos) := by
      rw [hnil]
      exact .endOfInput
    rw [hreading hasked hstands htotal]
    exact .single rfl rfl htakes
  · have hstands := hprompt.setInput taken.length
    rw [hread] at hasked
    rw [← hi] at hstands
    rw [hrest] at hsplit
    have hdrop := drop_eq_of_drop hsplit
    rw [← hdrop] at hsplit
    refine ⟨_, _, _, hasked, hstands, ?_, .inr ⟨?_, ?_⟩⟩
    · rw [hreading hasked hstands (total_of_split htotal hsplit)]
      refine .single rfl hsplit ?_
      rw [hdrop]
      exact .line hfirst
    · exact Input.lineOf_ne_endOfInput _ _
    · exact Nat.lt_add_of_pos_right (List.length_pos_iff.mpr hfirst.ne_nil)

/-- The texts captured while commands are resolved are what there is up to their delimiters, one
behind the other. -/
theorem partition_texts {tools : Tools β φ Nat η} {promptText : String}
    (htools : tools.CapturesInput promptText) (maxLine : Nat) (cwd : Machine.NodeId)
    (commands : List Command) (h : w.machine.StandsAt script pos)
    (htotal : total = pos + (script.length - pos)) :
    let resolved := Plan.resolveAll ((tools.capture cwd).recorded total) commands (w, [])
    (∀ r ∈ resolved.2.2, r.fault? = none) →
      ∃ stop, resolved.2.1.machine.StandsAt script stop ∧
        Partition maxLine pos (script.drop pos) resolved.2.2 stop (script.drop stop) := by
  -- The invariant of the captures: where all texts were kept, they are read one behind the other.
  refine @Plan.resolveAll_invariant _ _ (fun s => (∀ r ∈ s.2, r.fault? = none) →
    ∃ stop, s.1.machine.StandsAt script stop ∧
      Partition maxLine pos (script.drop pos) s.2 stop (script.drop stop)) _ ?_ commands (w, [])
    (fun _ => ⟨pos, h, .nil _ _⟩)
  rintro delimiter ⟨w, texts⟩ ih hkept
  rw [htools.recorded_eq] at hkept ⊢
  obtain ⟨middle, hstands, htexts⟩ := ih fun r hr => hkept r (List.mem_append_left _ hr)
  have hlast := hkept _ (List.mem_append_right _ (List.mem_singleton_self _))
  cases hbody : (Machine.capture cwd promptText delimiter w.machine).1 with
  | error cause =>
    rw [hbody] at hlast
    cases hlast
  | ok body =>
    obtain ⟨lines, taken, hsplit, hupTo, hafter⟩ := hstands.capture hbody
    have hmiddle := htexts.total_eq htotal
    refine ⟨middle + taken.length, hafter, htexts.append ?_⟩
    rw [position_eq hstands hmiddle]
    rw [position_eq (w := { w with machine := _ }) hafter (total_of_split hmiddle hsplit)]
    exact .single rfl hsplit (.text hupTo)

/-- The texts of a turn are what there is behind its line. -/
theorem partition_textReadings {tools : Tools β φ Nat η} {promptText : String}
    (htools : tools.CapturesInput promptText) (maxLine : Nat) {commands : List Command}
    {read : World β} (hcommands : commands? journal shell w = some (commands, read))
    (h : read.machine.StandsAt script pos) (htotal : total = pos + (script.length - pos))
    (hkept : ∀ r ∈ textReadings total tools journal shell w, r.fault? = none) :
    ∃ stop,
      (Plan.resolveAll (tools.capture shell.cwd) commands read).2.machine.StandsAt script stop ∧
      Partition maxLine pos (script.drop pos) (textReadings total tools journal shell w) stop
        (script.drop stop) := by
  have hreadings : textReadings total tools journal shell w = (Plan.resolveAll
      ((tools.capture shell.cwd).recorded total) commands (read, [])).2.2 := by
    rw [textReadings, hcommands]
  rw [resolveAll_recorded total read (tools.capture shell.cwd) commands [], hreadings]
  rw [hreadings] at hkept
  exact partition_texts htools maxLine shell.cwd commands h htotal hkept

end Reading

/-! ## Turns and sessions -/

/-- The line of a turn makes the shell leave. -/
def Leaves (tools : Tools β φ κ η) (journal : Journal) (turn : Shell × World β) : Prop :=
  ∃ line read code, asked journal turn.1 turn.2 = (.ok (.text line), read) ∧
    (turn.1.eval tools line read).1 = .ok (.leave code)

/-- What the line of a turn is resolved to leaves the script alone. -/
def TurnLeavesScript (tools : Tools β φ κ η) (journal : Journal) (script : Bytes)
    (turn : Shell × World β) : Prop :=
  ∀ plans after, resolved? tools journal turn.1 turn.2 = some (plans, after) →
    LeavesScript tools script turn.1 plans after

/-- A turn that begins at position `pos` of the script takes what its line and the texts of its line
are, and ends at position `stop`. It is the last one only at the end of the script, where its line
makes the shell leave, or where it panics, and every other turn takes something. -/
structure TurnTakes (total : Nat) (tools : Tools β φ κ η) (journal : Journal) (script : Bytes)
    (shell : Shell) (w : World β) (pos stop : Nat) : Prop where
  standsAt : (turn tools journal shell w).2.2.machine.StandsAt script stop
  partition : Partition shell.settings.maxLine pos (script.drop pos)
    (turnReadings total tools journal shell w) stop (script.drop stop)
  settings_eq : (turn tools journal shell w).2.1.settings = shell.settings
  lt_of_goes_on : (turn tools journal shell w).1 = none → pos < stop
  over_of_ends : (turn tools journal shell w).1 ≠ none →
    script.drop stop = [] ∨ Leaves tools journal (shell, w) ∨ Panics tools journal (shell, w)

section Sessions

variable {total : Nat} {tools : Tools β φ Nat η} {promptText : String} {journal : Journal}
  {script : Bytes} {shell : Shell} {w : World β} {pos stop : Nat}

/-- A turn that ends as given if something has been printed, and panics otherwise. -/
theorem turnTakes_of_orPanic {next : Option Int × Shell} {left : Shell}
    {printed : Bool × World β} (hturn : turn tools journal shell w = orPanic next left printed)
    (hstands : printed.2.machine.StandsAt script stop)
    (hpartition : Partition shell.settings.maxLine pos (script.drop pos)
      (turnReadings total tools journal shell w) stop (script.drop stop))
    (hsettings : next.2.settings = shell.settings) (hleft : left.settings = shell.settings)
    (hlt : next.1 = none → pos < stop)
    (hover : next.1 ≠ none → script.drop stop = [])
    (hpanics : printed.1 = false → Panics tools journal (shell, w)) :
    TurnTakes total tools journal script shell w pos stop := by
  have hafter : (turn tools journal shell w).2.2.machine.StandsAt script stop := by
    rw [hturn, snd_snd_orPanic]
    exact hstands
  cases hprinted : printed.1 with
  | true =>
    rw [orPanic_of_printed next left hprinted] at hturn
    refine ⟨hafter, hpartition, ?_, ?_, ?_⟩ <;> rw [hturn]
    · exact hsettings
    · exact hlt
    · exact fun hends => .inl (hover hends)
  | false =>
    rw [orPanic_of_lost next left hprinted] at hturn
    refine ⟨hafter, hpartition, ?_, ?_, fun _ => .inr (.inr (hpanics hprinted))⟩ <;> rw [hturn]
    · exact hleft
    · nofun

/-- A turn whose line is not resolved takes its line. -/
theorem turnTakes_of_resolved?_eq_none (h : w.machine.StandsAt script pos)
    (htotal : total = pos + (script.length - pos))
    (hresolved : resolved? tools journal shell w = none) :
    ∃ stop, TurnTakes total tools journal script shell w pos stop := by
  obtain ⟨line, read, stop, hasked, hread, hline, hend⟩ :=
    partition_lineReading journal shell h htotal
  have hreadings :
      turnReadings total tools journal shell w = [lineReading total journal shell w] := by
    have hcommands : commands? journal shell w = none := Option.map_eq_none_iff.mp hresolved
    rw [turnReadings, textReadings, hcommands]
  rw [← hreadings] at hline
  refine ⟨stop, ?_⟩
  cases line with
  | endOfInput =>
    -- The script is over, and the session with it.
    have hover : script.drop stop = [] := hend.elim And.right fun hend => absurd rfl hend.1
    exact turnTakes_of_orPanic (turn_of_endOfInput hasked) (hread.print (by simp) _) hline rfl rfl
      nofun (fun _ => hover) fun hlost => .endOfInput hasked hlost
  | tooLong =>
    have hlt : pos < stop := hend.elim nofun And.right
    exact turnTakes_of_orPanic (turn_of_tooLong hasked) (standsAt_report _ hread) hline rfl rfl
      (fun _ => hlt) (absurd rfl) fun hlost => .tooLong hasked hlost
  | text line =>
    have hlt : pos < stop := hend.elim nofun And.right
    have hturn : turn tools journal shell w = _ := turn_of_text hasked
    split at hturn
    · refine ⟨?_, hline, ?_, fun _ => hlt, ?_⟩ <;> rw [hturn]
      · exact hread
      · exact absurd rfl
    · rename_i hfilled
      obtain hblank | ⟨e, heval⟩ := eval_of_resolved?_eq_none hresolved hasked
      · exact absurd hblank hfilled
      · rw [heval] at hturn
        refine turnTakes_of_orPanic hturn (standsAt_report _ hread) hline rfl rfl (fun _ => hlt)
          (absurd rfl) fun hlost => .fails hasked (by simpa using hfilled) (by rw [heval]) ?_
        rw [heval]
        exact hlost

/-- A turn whose line is resolved takes its line and then the texts of it. -/
theorem turnTakes_of_resolved? (htools : tools.CapturesInput promptText)
    (h : w.machine.StandsAt script pos) (htotal : total = pos + (script.length - pos))
    {plans : List (Except RedirectionError (Plan Nat))} {after : World β}
    (hresolved : resolved? tools journal shell w = some (plans, after))
    (hleaves : LeavesScript tools script shell plans after)
    (hkept : ∀ r ∈ textReadings total tools journal shell w, r.fault? = none) :
    ∃ stop, TurnTakes total tools journal script shell w pos stop := by
  obtain ⟨line, read, middle, hasked, hread, hline, hend⟩ :=
    partition_lineReading journal shell h htotal
  obtain ⟨commands, read', hcommands, hplans⟩ := commands?_of_resolved? hresolved
  obtain ⟨text, pipeline, hasked', -, -, -⟩ := asked_of_commands? hcommands
  cases hasked.symm.trans hasked'
  -- The texts begin where the line has ended.
  obtain ⟨stop, hafter, htexts⟩ := partition_textReadings htools shell.settings.maxLine hcommands
    hread (hline.total_eq htotal) hkept
  rw [hplans] at hafter
  have hlt : pos < stop :=
    Nat.lt_of_lt_of_le (hend.elim (fun hend => nomatch hend.1) And.right) htexts.le
  have hpartition := hline.append htexts
  rw [List.singleton_append, ← turnReadings] at hpartition
  -- Carrying the line out moves nothing.
  obtain ⟨text', read', hasked', hfilled, heval, hturn⟩ := turn_eq_settle hresolved
  cases hasked.symm.trans hasked'
  have hcarried := standsAt_carryOut hafter hleaves
  have hsettings := settings_carryOut tools shell plans after
  refine ⟨stop, ?_⟩
  rcases hresult : carryOut tools shell after plans with ⟨e | status | code, shell', w'⟩
  all_goals rw [hresult] at hcarried hsettings heval hturn
  · refine turnTakes_of_orPanic hturn (standsAt_report _ hcarried) hpartition hsettings hsettings
      (fun _ => hlt) (absurd rfl) fun hlost => .fails hasked hfilled (by rw [heval]) ?_
    rw [heval]
    exact hlost
  · refine ⟨?_, hpartition, ?_, fun _ => hlt, ?_⟩ <;> rw [hturn]
    · exact hcarried
    · exact hsettings
    · exact absurd rfl
  · refine ⟨?_, hpartition, ?_, fun _ => hlt, fun _ => .inr (.inl ?_)⟩
    · rw [hturn]
      exact hcarried
    · rw [hturn]
      exact hsettings
    · exact ⟨text, read, code, hasked, by rw [heval]⟩

/-- What one turn takes. -/
theorem turn_partition (htools : tools.CapturesInput promptText)
    (h : w.machine.StandsAt script pos) (htotal : total = pos + (script.length - pos))
    (hleaves : TurnLeavesScript tools journal script (shell, w))
    (hkept : ∀ r ∈ turnReadings total tools journal shell w, r.fault? = none) :
    ∃ stop, TurnTakes total tools journal script shell w pos stop := by
  cases hresolved : resolved? tools journal shell w with
  | none => exact turnTakes_of_resolved?_eq_none h htotal hresolved
  | some resolved =>
    obtain ⟨plans, after⟩ := resolved
    exact turnTakes_of_resolved? htools h htotal hresolved (hleaves plans after hresolved)
      fun r hr => hkept r (List.mem_cons_of_mem _ hr)

/-- The turns of a session take the script apart, and end where it ends, where a line makes the
shell leave, or where a turn panics. -/
theorem runWithin_partition (htools : tools.CapturesInput promptText) {limit : Nat}
    (h : w.machine.StandsAt script pos) (htotal : total = pos + (script.length - pos))
    (hlimit : script.length - pos < limit)
    (hleaves : ∀ turn ∈ turnsWithin tools journal limit shell w,
      TurnLeavesScript tools journal script turn)
    (hkept : ∀ turn ∈ turnsWithin tools journal limit shell w,
      ∀ r ∈ turnReadings total tools journal turn.1 turn.2, r.fault? = none) :
    ∃ stop, (runWithin tools journal limit shell w).2.2.machine.StandsAt script stop ∧
      Partition shell.settings.maxLine pos (script.drop pos)
        ((turnsWithin tools journal limit shell w).flatMap fun turn =>
          turnReadings total tools journal turn.1 turn.2) stop (script.drop stop) ∧
      (script.drop stop = [] ∨ ∃ turn ∈ (turnsWithin tools journal limit shell w).getLast?,
        Leaves tools journal turn ∨ Panics tools journal turn) := by
  -- Each turn but the last takes something, so the limit is not met before the script is over.
  induction limit generalizing shell w pos with
  | zero => omega
  | succ limit ih =>
    have hmem : (shell, w) ∈ turnsWithin tools journal (limit + 1) shell w := by
      rw [turnsWithin]
      exact List.mem_cons_self
    obtain ⟨middle, hfirst⟩ :=
      turn_partition htools h htotal (hleaves (shell, w) hmem) (hkept (shell, w) hmem)
    obtain ⟨hafter, hpartition, hsettings, hgoesOn, hends⟩ := hfirst
    rcases hturn : turn tools journal shell w with ⟨_ | code, shell', w'⟩
    · -- The turn is not the last: the later ones take what it has left.
      rw [hturn] at hafter hsettings hgoesOn
      have hlt : pos < middle := hgoesOn rfl
      have hmiddle := hpartition.total_eq htotal
      have hturns : turnsWithin tools journal (limit + 1) shell w =
          (shell, w) :: turnsWithin tools journal limit shell' w' := by
        simp only [turnsWithin, hturn]
      rw [hturns] at hleaves hkept ⊢
      obtain ⟨stop, hstop, hlater, hlast⟩ := ih hafter hmiddle (by omega)
        (fun turn hmem => hleaves turn (List.mem_cons_of_mem _ hmem))
        (fun turn hmem => hkept turn (List.mem_cons_of_mem _ hmem))
      rw [hsettings] at hlater
      refine ⟨stop, ?_, hpartition.append hlater, ?_⟩
      · simpa only [runWithin, hturn] using hstop
      · -- The last of the later turns is the last of all.
        refine hlast.imp_right ?_
        rintro ⟨turn, hlast, hends⟩
        refine ⟨turn, ?_, hends⟩
        rw [Option.mem_def] at hlast ⊢
        rw [List.getLast?_cons, hlast]
        rfl
    · rw [hturn] at hafter hends
      have hturns : turnsWithin tools journal (limit + 1) shell w = [(shell, w)] := by
        simp only [turnsWithin, hturn]
      rw [hturns]
      refine ⟨middle, by simpa only [runWithin, hturn] using hafter, ?_, ?_⟩
      · simpa using hpartition
      · exact (hends nofun).imp_right fun hends => ⟨(shell, w), rfl, hends⟩

end Sessions

/-- **A session takes its script apart.** Its readings begin at the beginning of the script, each
begins where the one before it ended, and each takes one line or one text; put together again with
what is left they are the script. They end where standard input then stands: at the end of the
script, where a line makes the shell leave, or where a turn panics. -/
theorem readings_partition (promptText : String)
    (builder : Machine.NodeId → Builder (World β) φ Nat η) (journal : Journal) (shell : Shell)
    (w : World β) (script : Bytes) (hscript : w.machine.StandsAt script 0)
    (hleaves : ∀ turn ∈ turns (Tools.capturing promptText builder) journal shell w,
      TurnLeavesScript (Tools.capturing promptText builder) journal script turn)
    (hkept : ∀ r ∈ readings (Tools.capturing promptText builder) journal shell w,
      r.fault? = none) :
    ∃ stop rest,
      Partition shell.settings.maxLine 0 script
        (readings (Tools.capturing promptText builder) journal shell w) stop rest ∧
      (readings (Tools.capturing promptText builder) journal shell w).flatMap
        (Reading.bytes script) ++ rest = script ∧
      (run (Tools.capturing promptText builder) journal shell w).2.2.machine.StandsAt script stop ∧
      (rest = [] ∨ ∃ turn ∈ (turns (Tools.capturing promptText builder) journal shell w).getLast?,
        Leaves (Tools.capturing promptText builder) journal turn ∨
          Panics (Tools.capturing promptText builder) journal turn) := by
  have hunread := hscript.unread_input
  have htotal : w.machine.input.unread = 0 + (script.length - 0) := by rw [hunread, Nat.zero_add]
  have hlimit : script.length - 0 < w.machine.input.unread + 1 := by omega
  have htools : (Tools.capturing promptText builder).CapturesInput promptText := fun _ _ => rfl
  obtain ⟨stop, hstop, hpartition, hend⟩ := runWithin_partition htools hscript htotal
    hlimit hleaves
    (fun turn hmem r hr => hkept r (List.mem_flatMap.mpr ⟨turn, hmem, hr⟩))
  exact ⟨stop, script.drop stop, hpartition, hpartition.flatMap_bytes.1, hstop, hend⟩

/-! ## A session without processes -/

section Trial

/-- A script with a captured text that looks like a command, a line over the limit, a line that is
no pipeline, and two texts in one line of which the last has no delimiter. -/
def trialScript : Bytes := Text.Utf8.encode
  "help << E\nexit\n E \na line that is over the limit\n|\na <<E | b << E\n1\nE\n2\n"

/-- No process can be started. -/
def refusing : Builder (World Unit) Nat Nat Nat where
  pipe w := (.error .tooManyFiles, w)
  close _ w := w
  spawn _ w := (.error (.fork .tryAgain), w)
  wait _ w := (.error (.wait .noChild), w)

theorem keeps_refusing (P : World Unit → Prop) : refusing.Keeps P :=
  ⟨fun _ h => h, fun _ _ h => h, fun _ _ h => h, fun _ _ h => h⟩

def trialTools : Tools Unit Nat Nat Nat := Tools.capturing "> " fun _ => refusing

def trialJournal : Journal := ⟨(LogFilter.ofSpec "off").1, false⟩

def trialShell : Shell :=
  { settings := { maxLine := 20 }, lastStatus := 0, cwd := Machine.FileTree.root }

def trialWorld : World Unit where
  machine := (((Machine.onTree .bare [("TMPDIR", "")]).openStream 0
    trialScript.toArray).openStream 1 #[]).openStream 2 #[]
  log := ()

/-- The built-in command that a turn carries out, if it does, does not write into the script. -/
def sparesScript (turn : Shell × World Unit) : Bool :=
  match resolved? trialTools trialJournal turn.1 turn.2 with
  | some (plans, after) =>
    match Shell.builtinOf? plans with
    | some (b, plan) =>
      (Shell.runBuiltin b plan turn.1 after).2.2.machine.input.data == after.machine.input.data
    | none => true
  | none => true

theorem turnLeavesScript_of_sparesScript {turn : Shell × World Unit}
    (h : sparesScript turn = true) :
    TurnLeavesScript trialTools trialJournal trialScript turn := by
  intro plans after hresolved
  rw [sparesScript, hresolved] at h
  unfold LeavesScript
  split
  · rename_i b plan hbuiltin
    simpa [hbuiltin] using h
  · intro pos hpos
    exact (keeps_refusing fun w => w.machine.StandsAt trialScript pos).execute plans hpos

theorem standsAt_trial : trialWorld.machine.StandsAt trialScript 0 := Machine.standsAt_openStream ..

theorem turnLeavesScript_of_all {w : World Unit}
    (h : ((turns trialTools trialJournal trialShell w).all sparesScript) = true) :
    ∀ turn ∈ turns trialTools trialJournal trialShell w,
      TurnLeavesScript trialTools trialJournal trialScript turn :=
  fun turn hmem => turnLeavesScript_of_sparesScript (List.all_eq_true.mp h turn hmem)

theorem turnLeavesScript_trial : ∀ turn ∈ turns trialTools trialJournal trialShell trialWorld,
    TurnLeavesScript trialTools trialJournal trialScript turn :=
  turnLeavesScript_of_all (by decide +kernel)

/-- The trial's session takes its script apart into four lines and three texts, and then meets its
end. -/
theorem readings_partition_trial :
    trialWorld.machine.StandsAt trialScript 0 ∧
      (∀ turn ∈ turns trialTools trialJournal trialShell trialWorld,
        TurnLeavesScript trialTools trialJournal trialScript turn) ∧
      (∀ r ∈ readings trialTools trialJournal trialShell trialWorld, r.fault? = none) ∧
      (readings trialTools trialJournal trialShell trialWorld).map (fun r => (r.start, r.stop)) =
        [(0, 10), (10, 19), (19, 49), (49, 51), (51, 66), (66, 70), (70, 72), (72, 72)] ∧
      ∃ stop rest, Partition 20 0 trialScript
        (readings trialTools trialJournal trialShell trialWorld) stop rest := by
  have hkept : ∀ r ∈ readings trialTools trialJournal trialShell trialWorld, r.fault? = none := by
    have hall : ((readings trialTools trialJournal trialShell trialWorld).all
        (·.fault?.isNone)) = true := by
      decide +kernel
    intro r hr
    simpa using List.all_eq_true.mp hall r hr
  refine ⟨standsAt_trial, turnLeavesScript_trial, hkept, by decide +kernel, ?_⟩
  obtain ⟨stop, rest, hpartition, -⟩ := readings_partition "> " (fun _ => refusing) trialJournal
    trialShell trialWorld trialScript standsAt_trial turnLeavesScript_trial hkept
  exact ⟨stop, rest, hpartition⟩

end Trial

end Session

end PipeShell
