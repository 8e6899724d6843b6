import PipeShell.Proofs.Machine.StandardError
import PipeShell.Proofs.Plan.Rendering
import PipeShell.Proofs.Reading.Passages
import PipeShell.Proofs.Text.Bytes

/-!
# What captures take and give

The lines of a script are asked for one after the other, and each time the prompt is written. A
capture asks for the lines in front of its delimiter and for the delimiter's own, or for all lines
and for one that is not there. It gives the former as a file at its beginning, and the next capture
goes on behind them.

## Main definitions

* `HoldsText`: an open file is at the beginning of a text
* `HasAsked`: some lines of a script have been asked for
* `asked`: the number of lines that captures in a row ask for

## Main results

* `capture_eq_ok`: one capture
* `captures_take_passages`: captures in a row, with what each takes and gives
-/

namespace PipeShell.Machine

open Heredoc (inFront keptLines)

/-! ## Texts that are held -/

/-- An open file is at the beginning of a text. -/
def HoldsText (m : Machine) (file : Nat) (text : Bytes) : Prop :=
  ∃ f id, m.files[file]? = some f ∧ f.readable = true ∧ f.target = .node id ∧ f.offset = 0 ∧
    m.tree.content? id = some (.file text.toArray)

theorem holdsText_openNameless (m : Machine) (text : Bytes) :
    (m.openNameless text.toArray).2.HoldsText m.files.size text := by
  refine ⟨{ target := .node m.tree.nodes.size, readable := true, writable := true },
    m.tree.nodes.size, ?_, rfl, rfl, rfl, ?_⟩
  · simp [openNameless, addFile, FileTree.allocate]
  · simp [openNameless, addFile, FileTree.allocate, FileTree.content?]

/-- Reading from another open file leaves it alone. -/
theorem HoldsText.setInput {m : Machine} {file : Nat} {text : Bytes} (h : m.HoldsText file text)
    (hother : m.descriptors.get? 0 ≠ some file) (i : Input) :
    (m.setInput i).HoldsText file text := by
  obtain ⟨f, id, hfile, hread, htarget, hoffset, hcontent⟩ := h
  refine ⟨f, id, ?_, hread, htarget, hoffset, by rw [tree_setInput, hcontent]⟩
  rw [getElem?_files_setInput hother, hfile]

/-! ## Lines that are asked for -/

/-- From one machine to the other, `asked` lines of a script have been asked for, from the position
`pos` on: those of them that are there have been taken, and for each the prompt has been written.
Paths lead where they led. -/
structure HasAsked (m : Machine) (script : Bytes) (pos : Nat) (promptText : String) (asked : Nat)
    (after : Machine) : Prop where
  stands : after.StandsAt script (pos + ((splitLines (script.drop pos)).take asked).flatten.length)
  shape : m.SameShape after
  told : ∀ file id log, m.CollectsErrors file id log → after.CollectsErrors file id
    (log ++ Text.Utf8.encode (String.join (List.replicate asked promptText)))

namespace HasAsked

variable {m m' m'' : Machine} {script : Bytes} {pos : Nat} {promptText : String} {a b : Nat}

theorem zero (h : m.StandsAt script pos) (promptText : String) :
    HasAsked m script pos promptText 0 m := by
  refine ⟨h, .refl m, fun file id log hlog => ?_⟩
  simpa [Text.Utf8.encode, String.join] using hlog

/-- Lines that are asked for next are those behind. -/
theorem trans (h : HasAsked m script pos promptText a m')
    (h' : HasAsked m' script
      (pos + ((splitLines (script.drop pos)).take a).flatten.length) promptText
      b m'') :
    HasAsked m script pos promptText (a + b) m'' := by
  obtain ⟨hstands, hshape, htold⟩ := h'
  refine ⟨?_, h.shape.trans hshape, fun file id log hlog => ?_⟩
  · rw [← List.drop_drop, splitLines_drop_take, Nat.add_assoc, ← List.length_append,
      ← List.flatten_append, ← List.take_add] at hstands
    exact hstands
  · have := htold file id _ (h.told file id log hlog)
    rwa [List.append_assoc, ← Text.Utf8.encode_join_replicate_add] at this

end HasAsked

variable {m : Machine} {script : Bytes} {pos : Nat} {cwd : NodeId}

/-- **One capture** asks for the lines in front of its delimiter and the delimiter's, and gives the
former. -/
theorem capture_eq_ok (h : m.StandsAt script pos) (hroom : m.temporaryFault? cwd = none)
    (promptText delimiter : String) {front : List Bytes}
    (hfront : inFront delimiter (splitLines (script.drop pos)) = front) :
    ∃ file after, capture cwd promptText delimiter m = (.ok file, after) ∧
      after.HoldsText file (keptLines front) ∧
      HasAsked m script pos promptText (front.length + 1) after := by
  have hrest := h.rest_input
  have hcopy := Heredoc.copy_eq_of_lines delimiter m.input h.failure_input (hrest ▸ hfront)
  rw [hrest] at hcopy
  obtain ⟨source, target, h⟩ := h
  -- The prompts are written, the text is kept in a file without a name, and then the position
  -- moves.
  have hasked := h.complainOf promptText (Heredoc.copy delimiter m.input)
  have hheld := hasked.openNameless (keptLines front).toArray
  have hshape := SameShape.capture m cwd promptText delimiter
  have hcapture : capture cwd promptText delimiter m =
      (.ok (m.complainOf promptText (Heredoc.copy delimiter m.input)).files.size,
        ((m.complainOf promptText (Heredoc.copy delimiter m.input)).openNameless
          (keptLines front).toArray).2.setInput (Heredoc.copy delimiter m.input).rest) := by
    simp only [capture, hold, hroom, hcopy]
    rfl
  rw [hcapture] at hshape
  refine ⟨_, _, hcapture, (holdsText_openNameless _ _).setInput ?_ _, ?_, hshape, ?_⟩
  · rw [hheld.descriptor]
    exact fun hfile => Nat.ne_of_lt hasked.lt_size (Option.some.inj hfile)
  · have hstands := hheld.setInput
      ((splitLines (script.drop pos)).take (front.length + 1)).flatten.length
    rw [← h.input_eq] at hstands
    rw [hcopy] at hstands ⊢
    exact ⟨source, target, hstands⟩
  · intro file node log hlog
    have hcollected := (hlog.complainOf promptText (Heredoc.copy delimiter m.input)).openNameless
      (keptLines front).toArray
    have hcollected := hcollected.setInput (hcollected.descriptor_ne hheld)
      (Heredoc.copy delimiter m.input).rest
    rw [hcopy] at hcollected ⊢
    simpa [complaintOf] using hcollected

/-! ## Captures in a row -/

/-- The number of lines that captures in a row ask for. -/
def asked : (delimiters : List String) → (lines : List Bytes) → Nat
  | [], _ => 0
  | delimiter :: rest, lines =>
    let taken := (inFront delimiter lines).length + 1
    taken + asked rest (lines.drop taken)

/-- Captures in a row succeed as long as a temporary file can be made. -/
theorem exists_captures (h : m.StandsAt script pos) (hroom : m.temporaryFault? cwd = none)
    (promptText : String) (delimiters : List String) :
    ∃ files after, Capture.all (capture cwd promptText) delimiters m = (.ok files, after) ∧
      HasAsked m script pos promptText (asked delimiters (splitLines (script.drop pos))) after := by
  induction delimiters generalizing m pos with
  | nil => exact ⟨[], m, rfl, .zero h promptText⟩
  | cons delimiter rest ih =>
    obtain ⟨file, m', hfirst, -, hasked⟩ := capture_eq_ok h hroom promptText delimiter rfl
    obtain ⟨files, after, hothers, hrest⟩ := ih hasked.stands
      ((hasked.shape.temporaryFault?_eq cwd).trans hroom)
    rw [← List.drop_drop, splitLines_drop_take] at hrest
    exact ⟨file :: files, after, (Capture.all_cons_eq_ok_iff ..).mpr
      ⟨file, m', files, hfirst, hothers, rfl⟩, hasked.trans hrest⟩

/-- **Captures take passages, one after the other.** However many texts have been captured from a
script, the next capture gives exactly the lines in front of the first one that is its delimiter, or
all where there is none, as they are read and each ended by a line feed. It takes these and the
delimiter's line and nothing behind, and it writes the prompt once for each of them and once for the
delimiter's line or the end. -/
theorem captures_take_passages (h : m.StandsAt script pos) (hroom : m.temporaryFault? cwd = none)
    (promptText : String) (earlier : List String) (delimiter : String) {lines : List Bytes}
    {front : List Bytes} {start : Nat} (hlines : splitLines (script.drop pos) = lines)
    (hstart : asked earlier lines = start) (hfront : inFront delimiter (lines.drop start) = front) :
    ∃ files before file after,
      Capture.all (capture cwd promptText) earlier m = (.ok files, before) ∧
      HasAsked m script pos promptText start before ∧
      capture cwd promptText delimiter before = (.ok file, after) ∧
      after.HoldsText file (keptLines front) ∧
      HasAsked m script pos promptText (start + front.length + 1) after := by
  subst hlines hstart
  obtain ⟨files, before, hearlier, hbefore⟩ := exists_captures h hroom promptText earlier
  rw [← splitLines_drop_take, List.drop_drop] at hfront
  obtain ⟨file, after, hcapture, htext, hafter⟩ := capture_eq_ok hbefore.stands
    ((hbefore.shape.temporaryFault?_eq cwd).trans hroom) promptText delimiter hfront
  exact ⟨files, before, file, after, hearlier, hbefore, hcapture, htext, hbefore.trans hafter⟩

/-- A script with two passages, and a line behind them. -/
def passagesScript : Bytes := Text.Utf8.encode "a\nE\n\n Ex\r\n  E \r\nrest"

/-- A machine that reads this script. -/
def passagesMachine : Machine :=
  let m := (onTree .bare [("TMPDIR", "")]).openStream 0 passagesScript.toArray
  (m.openStream 1 #[]).openStream 2 #[]

/-- The second passage has an empty line and one that holds more than the delimiter, and there are
blanks around the delimiter in its own line. Five prompts have been written behind it. -/
theorem captures_take_passages_second :
    passagesMachine.StandsAt passagesScript 0 ∧
      passagesMachine.temporaryFault? FileTree.root = none ∧
      passagesMachine.CollectsErrors 2 3 [] ∧
      ∃ files before file after,
        Capture.all (capture FileTree.root "> ") ["E"] passagesMachine = (.ok files, before) ∧
        HasAsked passagesMachine passagesScript 0 "> " 2 before ∧
        capture FileTree.root "> " "E" before = (.ok file, after) ∧
        after.HoldsText file (Text.Utf8.encode "\n Ex\n") ∧
        after.StandsAt passagesScript 16 ∧
        after.CollectsErrors 2 3 (Text.Utf8.encode "> > > > > ") := by
  have hstands : passagesMachine.StandsAt passagesScript 0 := standsAt_openStream _ _ _ _
  have hroom : passagesMachine.temporaryFault? FileTree.root = none := by decide +kernel
  have herrors : passagesMachine.CollectsErrors 2 3 [] :=
    ⟨rfl, ⟨_, rfl, rfl, rfl, .inr rfl⟩, rfl⟩
  have hlines : splitLines (passagesScript.drop 0) =
      ["a\n", "E\n", "\n", " Ex\r\n", "  E \r\n", "rest"].map Text.Utf8.encode := by
    decide +kernel
  have hstart : asked ["E"]
      (["a\n", "E\n", "\n", " Ex\r\n", "  E \r\n", "rest"].map Text.Utf8.encode) = 2 := by
    decide +kernel
  have hfront : inFront "E"
      ((["a\n", "E\n", "\n", " Ex\r\n", "  E \r\n", "rest"].map Text.Utf8.encode).drop 2) =
        ["\n", " Ex\r\n"].map Text.Utf8.encode := by
    decide +kernel
  obtain ⟨files, before, file, after, hearlier, hbefore, hcapture, htext, hafter⟩ :=
    captures_take_passages hstands hroom "> " ["E"] "E" hlines hstart hfront
  have hkept : keptLines (["\n", " Ex\r\n"].map Text.Utf8.encode) = Text.Utf8.encode "\n Ex\n" := by
    decide +kernel
  have hposition : 0 + ((splitLines (passagesScript.drop 0)).take (2 + 2 + 1)).flatten.length =
      16 := by
    decide +kernel
  have hprompts : Text.Utf8.encode (String.join (List.replicate (2 + 2 + 1) "> ")) =
      Text.Utf8.encode "> > > > > " := by
    decide +kernel
  refine ⟨hstands, hroom, herrors, files, before, file, after, hearlier, hbefore, hcapture,
    hkept ▸ htext, hposition ▸ hafter.stands, hprompts ▸ hafter.told 2 3 [] herrors⟩

end PipeShell.Machine
