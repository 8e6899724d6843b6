import PipeShell.Proofs.Reading.Lines

/-!
# Passages

Some bytes are a row of lines, each ended by its line feed, and only the last may lack it. What is
read up to a delimiter is told here by these lines: the passage is the lines in front of the first
one that is the delimiter, and that one. Where the input fails, only whole lines count: the failure
takes the place of the line that it cuts short.

## Main definitions

* `splitLines`: the lines of some bytes
* `textOfLine`: what a line is read as
* `Heredoc.inFront`: the lines in front of the delimiter
* `Heredoc.passedOn`: how many of them are passed on for one who goes

## Main results

* `flatten_splitLines`: nothing is lost
* `Heredoc.copy_eq_of_lines`: reading up to a delimiter, by lines
* `Heredoc.copy_eq_of_failure`: the same of an input that fails
* `Heredoc.copyAhead_eq_of_lines`: the same where the one who takes the lines goes
-/

namespace PipeShell

open Input (lineFeed textOf)

/-! ## Lines -/

/-- The lines of some bytes, each with the line feed that ends it. -/
def splitLines : Bytes → List Bytes
  | [] => []
  | byte :: rest =>
    if byte = lineFeed then [byte] :: splitLines rest
    else match splitLines rest with
      | [] => [[byte]]
      | line :: lines => (byte :: line) :: lines

/-- A line without its line feed. -/
def withoutFeed (line : Bytes) : Bytes :=
  if line.getLast? = some lineFeed then line.dropLast else line

theorem getLast?_ne_of_not_mem {bytes : Bytes} (clean : lineFeed ∉ bytes) :
    bytes.getLast? ≠ some lineFeed := fun h => clean (List.mem_of_getLast? h)

@[simp] theorem withoutFeed_append (front : Bytes) :
    withoutFeed (front ++ [lineFeed]) = front := by
  simp [withoutFeed]

theorem withoutFeed_of_not_mem {bytes : Bytes} (clean : lineFeed ∉ bytes) :
    withoutFeed bytes = bytes := if_neg (getLast?_ne_of_not_mem clean)

/-- What a line is read as. -/
def textOfLine (line : Bytes) : String := textOf (withoutFeed line)

/-- Put together again, the lines are what they were taken from. -/
theorem flatten_splitLines (bytes : Bytes) : (splitLines bytes).flatten = bytes := by
  fun_induction splitLines bytes with
  | case1 => rfl
  | case2 rest ih => simp [ih]
  | case3 byte rest hbyte hlines ih =>
    obtain rfl : [] = rest := by simpa [hlines] using ih
    rfl
  | case4 byte rest hbyte line lines hlines ih => simpa [hlines] using ih

theorem splitLines_append_lineFeed {front : Bytes} (clean : lineFeed ∉ front) (rest : Bytes) :
    splitLines (front ++ lineFeed :: rest) = (front ++ [lineFeed]) :: splitLines rest := by
  induction front with
  | nil => simp [splitLines]
  | cons byte front ih =>
    obtain ⟨hbyte, hfront⟩ := not_or.mp (mt List.mem_cons.mpr clean)
    simp [splitLines, Ne.symm hbyte, ih hfront]

theorem splitLines_of_not_mem {front : Bytes} (clean : lineFeed ∉ front) (nonempty : front ≠ []) :
    splitLines front = [front] := by
  induction front with
  | nil => exact absurd rfl nonempty
  | cons byte front ih =>
    obtain ⟨hbyte, hfront⟩ := not_or.mp (mt List.mem_cons.mpr clean)
    rcases front with _ | ⟨next, front⟩
    · simp [splitLines, Ne.symm hbyte]
    · rw [splitLines, if_neg (Ne.symm hbyte), ih hfront (List.cons_ne_nil _ _)]

namespace FirstLine

variable {front line rest : Bytes}

/-- The first line is the first of the lines. -/
theorem splitLines_append (h : FirstLine front line rest) :
    splitLines (line ++ rest) = line :: splitLines rest := by
  cases h with
  | ended rest clean =>
    rw [List.append_assoc, List.singleton_append, splitLines_append_lineFeed clean]
  | unended clean nonempty => rw [List.append_nil, splitLines_of_not_mem clean nonempty, splitLines]

theorem textOfLine_eq (h : FirstLine front line rest) : textOfLine line = textOf front := by
  cases h with
  | ended rest clean => rw [textOfLine, withoutFeed_append]
  | unended clean nonempty => rw [textOfLine, withoutFeed_of_not_mem clean]

end FirstLine

/-- What is not empty has a first line. -/
theorem exists_firstLine {bytes : Bytes} (h : bytes ≠ []) :
    ∃ front line rest, bytes = line ++ rest ∧ FirstLine front line rest := by
  by_cases hmem : lineFeed ∈ bytes
  · obtain ⟨front, rest, rfl, hclean⟩ := List.eq_append_cons_of_mem hmem
    exact ⟨front, front ++ [lineFeed], rest, by simp, .ended rest hclean⟩
  · exact ⟨bytes, bytes, [], (List.append_nil bytes).symm, .unended hmem h⟩

/-- Behind some of the lines are the others. -/
theorem splitLines_drop_take (bytes : Bytes) (n : Nat) :
    splitLines (bytes.drop ((splitLines bytes).take n).flatten.length) =
      (splitLines bytes).drop n := by
  induction n generalizing bytes with
  | zero => rfl
  | succ n ih =>
    by_cases hnil : bytes = []
    · subst hnil
      rfl
    · obtain ⟨front, line, rest, rfl, hfirst⟩ := exists_firstLine hnil
      rw [hfirst.splitLines_append, List.take_succ_cons, List.flatten_cons, List.length_append,
        ← List.drop_drop, List.drop_left, List.drop_succ_cons, ih]

/-! ## Whole lines -/

/-- The lines that end in a line feed. -/
def wholeLines (bytes : Bytes) : List Bytes :=
  (splitLines bytes).filter fun line => line.getLast? = some lineFeed

theorem wholeLines_append_lineFeed {front : Bytes} (clean : lineFeed ∉ front) (rest : Bytes) :
    wholeLines (front ++ lineFeed :: rest) = (front ++ [lineFeed]) :: wholeLines rest := by
  simp [wholeLines, splitLines_append_lineFeed clean]

theorem wholeLines_of_not_mem {bytes : Bytes} (clean : lineFeed ∉ bytes) :
    wholeLines bytes = [] := by
  rcases bytes with _ | ⟨byte, bytes⟩
  · rfl
  · have hlast := getLast?_ne_of_not_mem clean
    simp only [wholeLines, splitLines_of_not_mem clean (List.cons_ne_nil _ _), List.filter_cons,
      hlast, decide_false, Bool.false_eq_true, if_false, List.filter_nil]

/-- Reading a line of an input that fails gives a whole line, or fails where none is left. -/
theorem Input.readLine_eq_of_failure {i : Input} {cause : Errno}
    (hfailure : i.failure = some cause) :
    (∃ front rest, i.rest = front ++ lineFeed :: rest ∧ lineFeed ∉ front ∧
        i.readLine none = (.ok (.text (textOf front)), i.advance (front ++ [lineFeed]).length)) ∨
      lineFeed ∉ i.rest ∧ i.readLine none = (.error cause, i.advance i.rest.length) := by
  simpa [hfailure] using i.readLine_cases none

/-! ## Lines up to a delimiter -/

namespace Heredoc

variable {delimiter : String} {i : Input}

/-- The lines in front of the first that, without the blanks at its ends, is the delimiter. -/
def inFront (delimiter : String) (lines : List Bytes) : List Bytes :=
  lines.takeWhile fun line => Text.trim (textOfLine line) ≠ delimiter

/-- The bytes that lines are kept as. -/
def keptLines (lines : List Bytes) : Bytes := lines.flatMap fun line => kept (textOfLine line)

theorem keptLines_cons (line : Bytes) (lines : List Bytes) :
    keptLines (line :: lines) = kept (textOfLine line) ++ keptLines lines := rfl

theorem inFront_cons_of_eq {line : Bytes} (h : Text.trim (textOfLine line) = delimiter)
    (lines : List Bytes) : inFront delimiter (line :: lines) = [] := by
  simp [inFront, h]

theorem inFront_cons_of_ne {line : Bytes} (h : Text.trim (textOfLine line) ≠ delimiter)
    (lines : List Bytes) :
    inFront delimiter (line :: lines) = line :: inFront delimiter lines := by
  simp [inFront, h]

/-- What is taken up to a delimiter, by lines. -/
theorem UpTo.lines_eq {texts : List String} {taken rest : Bytes}
    (h : UpTo delimiter texts taken rest) :
    texts = (inFront delimiter (splitLines (taken ++ rest))).map textOfLine ∧
      taken = ((splitLines (taken ++ rest)).take (texts.length + 1)).flatten := by
  induction h with
  | endOfInput => exact ⟨rfl, rfl⟩
  | closing first closes =>
    rw [← first.textOfLine_eq] at closes
    simp [first.splitLines_append, inFront_cons_of_eq closes]
  | line first stays later ih =>
    obtain ⟨htexts, htaken⟩ := ih
    rw [← first.textOfLine_eq] at stays ⊢
    rw [List.append_assoc, first.splitLines_append, inFront_cons_of_ne stays]
    refine ⟨by rw [List.map_cons, ← htexts], ?_⟩
    rw [List.length_cons, List.take_succ_cons, List.flatten_cons, ← htaken]

/-- **Reading up to a delimiter, by lines**: the lines in front of the delimiter are kept, and these
and the delimiter's own are taken. -/
theorem copy_eq_of_lines (delimiter : String) (i : Input) (hfailure : i.failure = none)
    {front : List Bytes} (hfront : inFront delimiter (splitLines i.rest) = front) :
    copy delimiter i = ⟨(keptLines front).toArray, front.length + 1, none,
      i.advance ((splitLines i.rest).take (front.length + 1)).flatten.length⟩ := by
  obtain ⟨texts, taken, rest, hrest, hupTo, hcopy⟩ := copy_eq delimiter i hfailure
  obtain ⟨htexts, htaken⟩ := hupTo.lines_eq
  rw [← hrest, hfront] at htexts
  have hlength : texts.length = front.length := by rw [htexts, List.length_map]
  have hkept : texts.flatMap kept = keptLines front := by
    rw [htexts, List.flatMap_map, keptLines]
  rw [← hrest, hlength] at htaken
  rw [hcopy, hkept, hlength, ← htaken]

/-- How many of some lines are passed on for one who goes: at most `ahead`, and no more than there
is room for. -/
def passedOn : (lines : List Bytes) → (ahead room : Nat) → Nat
  | [], _, _ => 0
  | _ :: _, 0, _ => 0
  | line :: rest, ahead + 1, room =>
    let size := (kept (textOfLine line)).length
    if room < size then 0 else passedOn rest ahead (room - size) + 1

/-- There are so many lines, and there is room for all that are passed on. -/
theorem passedOn_le (lines : List Bytes) (ahead room : Nat) :
    passedOn lines ahead room ≤ lines.length ∧
      (keptLines (lines.take (passedOn lines ahead room))).length ≤ room := by
  fun_induction passedOn lines ahead room with
  | case1 => simp [keptLines]
  | case2 => simp [keptLines]
  | case3 line rest ahead room size hsize => simp [keptLines]
  | case4 line rest ahead room size hsize ih =>
    rw [List.take_succ_cons, keptLines_cons, List.length_append, List.length_cons]
    omega

/-- Any number of lines that there is room for is passed on where the other is late enough. -/
theorem passedOn_of_le {lines : List Bytes} {n room : Nat} (hn : n ≤ lines.length)
    (hroom : (keptLines (lines.take n)).length ≤ room) : passedOn lines n room = n := by
  induction lines generalizing n room with
  | nil => exact (Nat.le_zero.mp hn).symm
  | cons line rest ih =>
    cases n with
    | zero => rfl
    | succ n =>
      rw [List.take_succ_cons, keptLines_cons, List.length_append] at hroom
      rw [passedOn, if_neg (by omega), ih (Nat.le_of_succ_le_succ hn) (by omega)]

/-- **Reading for one who goes, by lines**: those that have been passed on are taken, and the one
behind them. If this is not the delimiter's it meets nobody. -/
theorem copyAhead_eq_of_lines (delimiter : String) (ahead room : Nat) (i : Input)
    (hfailure : i.failure = none) {front : List Bytes}
    (hfront : inFront delimiter (splitLines i.rest) = front) :
    copyAhead delimiter ahead room i = ⟨#[], passedOn front ahead room + 1,
      if passedOn front ahead room < front.length then some .brokenPipe else none,
      i.advance ((splitLines i.rest).take (passedOn front ahead room + 1)).flatten.length⟩ := by
  subst hfront
  induction ahead generalizing room i with
  | zero =>
    unfold copyAhead
    rcases i.readLine_eq none hfailure with ⟨hnil, hread⟩ |
      ⟨front, line, rest, hrest, hfirst, hread⟩
    · simp [hread, hnil, splitLines, inFront, passedOn]
    have htext := hfirst.textOfLine_eq
    rw [hread, hrest, hfirst.splitLines_append]
    by_cases hcloses : Text.trim (textOf front) = delimiter
    · simp [hcloses, inFront_cons_of_eq (htext ▸ hcloses), passedOn]
    · simp [hcloses, inFront_cons_of_ne (htext ▸ hcloses), passedOn]
  | succ ahead ih =>
    unfold copyAhead
    rcases i.readLine_eq none hfailure with ⟨hnil, hread⟩ |
      ⟨front, line, rest, hrest, hfirst, hread⟩
    · simp [hread, hnil, splitLines, inFront, passedOn]
    have htext := hfirst.textOfLine_eq
    have hlater := Input.rest_advance_of_append hrest
    rw [hread, hrest, hfirst.splitLines_append]
    by_cases hcloses : Text.trim (textOf front) = delimiter
    · simp [hcloses, inFront_cons_of_eq (htext ▸ hcloses), passedOn]
    have hsize :
        (kept (textOfLine line)).length = (Text.Utf8.encode (textOf front)).length + 1 := by
      rw [htext, kept, List.length_append, List.length_singleton]
    simp only [Input.lineOf_none, hcloses, if_false, inFront_cons_of_ne (htext ▸ hcloses), passedOn,
      hsize]
    split
    · simp
    · -- The lines behind this one are read behind it.
      rw [ih _ (i.advance line.length) hfailure, hlater]
      simp

/-- **Reading up to a delimiter that does not come before the failure** keeps all whole lines. -/
theorem copyOnto_eq_of_failure {cause : Errno} (body : Array UInt8) (prompts : Nat)
    (hfailure : i.failure = some cause)
    (hopen : ∀ line ∈ wholeLines i.rest, Text.trim (textOfLine line) ≠ delimiter) :
    copyOnto delimiter body prompts i =
      ⟨body ++ (keptLines (wholeLines i.rest)).toArray, prompts + (wholeLines i.rest).length + 1,
        some cause, i.advance i.rest.length⟩ := by
  fun_induction copyOnto delimiter body prompts i with
  | case1 body prompts i cause' after h =>
    rcases Input.readLine_eq_of_failure hfailure with ⟨front, rest, -, -, hread⟩ | ⟨hclean, hread⟩
    · simp [h] at hread
    · simp only [h, Prod.mk.injEq, Except.error.injEq] at hread
      obtain ⟨rfl, rfl⟩ := hread
      simp [wholeLines_of_not_mem hclean, keptLines]
  | case2 body prompts i after h =>
    rcases Input.readLine_eq_of_failure hfailure with ⟨front, rest, -, -, hread⟩ | ⟨-, hread⟩ <;>
      simp [h] at hread
  | case3 body prompts i after h =>
    rcases Input.readLine_eq_of_failure hfailure with ⟨front, rest, -, -, hread⟩ | ⟨-, hread⟩ <;>
      simp [h] at hread
  | case4 body prompts i line after h hcloses =>
    rcases Input.readLine_eq_of_failure hfailure with
      ⟨front, rest, hrest, hclean, hread⟩ | ⟨-, hread⟩
    · simp only [h, Prod.mk.injEq, Except.ok.injEq, Line.text.injEq] at hread
      obtain ⟨rfl, rfl⟩ := hread
      -- This line would be a whole one that is the delimiter.
      have hmem : front ++ [lineFeed] ∈ wholeLines i.rest := by
        rw [hrest, wholeLines_append_lineFeed hclean]
        exact List.mem_cons_self
      have htext := (FirstLine.ended rest hclean).textOfLine_eq
      exact absurd (htext ▸ hcloses) (hopen _ hmem)
    · simp [h] at hread
  | case5 body prompts i line after h hstays ih =>
    rcases Input.readLine_eq_of_failure hfailure with
      ⟨front, rest, hrest, hclean, hread⟩ | ⟨-, hread⟩
    · simp only [h, Prod.mk.injEq, Except.ok.injEq, Line.text.injEq] at hread
      obtain ⟨rfl, rfl⟩ := hread
      have htaken : i.rest = (front ++ [lineFeed]) ++ rest := by simp [hrest]
      have hlater := Input.rest_advance_of_append htaken
      have hwhole : wholeLines i.rest = (front ++ [lineFeed]) :: wholeLines rest := by
        rw [hrest, wholeLines_append_lineFeed hclean]
      rw [hwhole] at hopen ⊢
      rw [hlater] at ih
      have hbody : (body ++ (Text.Utf8.encode (textOf front)).toArray).push lineFeed ++
          (keptLines (wholeLines rest)).toArray =
            body ++ (keptLines ((front ++ [lineFeed]) :: wholeLines rest)).toArray := by
        simp [keptLines_cons, (FirstLine.ended rest hclean).textOfLine_eq, kept]
      rw [ih hfailure fun line hline => hopen line (List.mem_cons_of_mem _ hline), hbody,
        Input.advance_advance, ← List.length_append, ← htaken, List.length_cons,
        Nat.add_right_comm prompts, Nat.add_assoc prompts]
    · simp [h] at hread

/-- The same from the beginning. -/
theorem copy_eq_of_failure {cause : Errno} (hfailure : i.failure = some cause)
    (hopen : ∀ line ∈ wholeLines i.rest, Text.trim (textOfLine line) ≠ delimiter) :
    copy delimiter i = ⟨(keptLines (wholeLines i.rest)).toArray, (wholeLines i.rest).length + 1,
      some cause, i.advance i.rest.length⟩ := by
  simpa [copy] using copyOnto_eq_of_failure #[] 0 hfailure hopen

end Heredoc

end PipeShell
