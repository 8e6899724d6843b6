import PipeShell.Heredoc

/-!
# What reading takes off the input

Reading a line takes exactly the first line of what is left, its line feed included, whatever the
limit. Reading up to a delimiter takes the lines in front of the first one that is the delimiter,
and that one, or all that is left where there is none. Neither looks at a byte behind what it takes.

## Main definitions

* `FirstLine`: the first line of some bytes
* `lineCount`: the number of lines of some bytes
* `Input.advance`: the input after some bytes have been taken
* `Heredoc.UpTo`: the lines of some bytes up to a delimiter

## Main results

* `Input.readLine_cases`: what reading a line takes, and what it gives
* `Input.readLine_eq`: the same of an input that does not fail
* `Heredoc.copy_eq`: what reading up to a delimiter takes, and what it gives
-/

namespace PipeShell

open Input (lineFeed)

/-- The first line of some bytes: `front` are its bytes without the line feed and `line` those with
it, and `rest` is what follows. Only at the end of the bytes may the line feed be missing. -/
inductive FirstLine (front : Bytes) : (line rest : Bytes) → Prop where
  | ended (rest) (clean : lineFeed ∉ front) : FirstLine front (front ++ [lineFeed]) rest
  | unended (clean : lineFeed ∉ front) (nonempty : front ≠ []) : FirstLine front front []

theorem FirstLine.ne_nil {front line rest : Bytes} (h : FirstLine front line rest) : line ≠ [] := by
  cases h with
  | ended rest clean => simp
  | unended clean nonempty => exact nonempty

/-- The number of lines of some bytes. Each is counted at its last byte. -/
def lineCount : Bytes → Nat
  | [] => 0
  | byte :: rest => (if byte = lineFeed ∨ rest = [] then 1 else 0) + lineCount rest

/-- No line ends within bytes that hold no line feed and have others behind them. -/
theorem lineCount_append_of_not_mem {front tail : Bytes} (clean : lineFeed ∉ front)
    (htail : tail ≠ []) : lineCount (front ++ tail) = lineCount tail := by
  induction front with
  | nil => rfl
  | cons byte front ih =>
    obtain ⟨hbyte, hfront⟩ := not_or.mp (mt List.mem_cons.mpr clean)
    simp [lineCount, Ne.symm hbyte, htail, ih hfront]

/-- Without its first line there is one line less. -/
theorem FirstLine.lineCount_append {front line rest : Bytes} (h : FirstLine front line rest) :
    lineCount (line ++ rest) = lineCount rest + 1 := by
  cases h with
  | ended rest clean =>
    rw [List.append_assoc, lineCount_append_of_not_mem clean (by simp)]
    simp [lineCount, Nat.add_comm]
  | unended clean nonempty =>
    -- The line ends with the last byte of all.
    rw [List.append_nil, ← List.dropLast_concat_getLast nonempty, lineCount_append_of_not_mem
      (fun h => clean (List.dropLast_subset _ h)) (by simp)]
    simp [lineCount]

theorem lineCount_drop_le (n : Nat) (bytes : Bytes) :
    lineCount (bytes.drop n) ≤ lineCount bytes := by
  induction bytes generalizing n with
  | nil => simp
  | cons byte rest ih =>
    cases n with
    | zero => exact Nat.le_refl _
    | succ n => exact Nat.le_trans (ih n) (Nat.le_add_left _ _)

namespace Input

variable (i : Input) (n : Nat)

/-- The input after some bytes have been taken off it. -/
def advance : Input := { i with pos := i.pos + n }

@[simp] theorem data_advance : (i.advance n).data = i.data := rfl

@[simp] theorem pos_advance : (i.advance n).pos = i.pos + n := rfl

@[simp] theorem failure_advance : (i.advance n).failure = i.failure := rfl

@[simp] theorem advance_zero : i.advance 0 = i := rfl

@[simp] theorem advance_advance (m : Nat) : (i.advance n).advance m = i.advance (n + m) := by
  simp [advance, Nat.add_assoc]

theorem rest_advance : (i.advance n).rest = i.rest.drop n := by
  simp [rest, advance, List.drop_drop]

theorem length_rest : i.rest.length = i.unread := by
  simp [rest, unread]

theorem unread_advance : (i.advance n).unread = i.unread - n := by
  simp [unread, advance, Nat.sub_sub]

variable {i n}

theorem rest_advance_of_append {taken later : Bytes} (h : i.rest = taken ++ later) :
    (i.advance taken.length).rest = later := by
  rw [rest_advance, h, List.drop_left]

/-- The text of a line. -/
def textOf (front : Bytes) : String := Text.Utf8.decode (withoutReturn front)

@[simp] theorem lineOf_none (front : Bytes) : lineOf none front = .text (textOf front) := rfl

theorem lineOf_ne_endOfInput (max : Option Nat) (front : Bytes) :
    lineOf max front ≠ .endOfInput := by
  unfold lineOf
  split <;> nofun

/-! ## One line -/

/-- Reading on stops behind the first line feed, or at the end where there is none. -/
theorem scan_eq (data : Array UInt8) (pos : Nat) (sofar : Bytes) :
    (∃ front rest, data.toList.drop pos = front ++ lineFeed :: rest ∧ lineFeed ∉ front ∧
        scan data pos sofar = (sofar.reverse ++ front, true, pos + front.length + 1)) ∨
      lineFeed ∉ data.toList.drop pos ∧
        scan data pos sofar =
          (sofar.reverse ++ data.toList.drop pos, false, pos + (data.toList.drop pos).length) := by
  fun_induction scan data pos sofar with
  -- The byte here is the line feed: the line is what has been read so far.
  | case1 pos sofar h hfeed =>
    refine .inl ⟨[], data.toList.drop (pos + 1), ?_, by simp, by simp⟩
    rw [List.drop_eq_getElem_cons (by simpa using h), Array.getElem_toList, hfeed, List.nil_append]
  | case2 pos sofar h hne ih =>
    have hdrop : data.toList.drop pos = data[pos] :: data.toList.drop (pos + 1) := by
      rw [List.drop_eq_getElem_cons (by simpa using h), Array.getElem_toList]
    -- The byte is in front of what reading on finds.
    rcases ih with ⟨front, rest, hsplit, hclean, hscan⟩ | ⟨hclean, hscan⟩
    · refine .inl ⟨data[pos] :: front, rest, by rw [hdrop, hsplit, List.cons_append], ?_, ?_⟩
      · simpa [eq_comm, hclean] using hne
      · rw [hscan]
        simp only [List.reverse_cons, List.append_assoc, List.singleton_append, List.length_cons,
          Prod.mk.injEq, true_and]
        omega
    · refine .inr ⟨by simpa [hdrop, eq_comm, hclean] using hne, ?_⟩
      rw [hscan, hdrop]
      simp only [List.reverse_cons, List.append_assoc, List.singleton_append, List.length_cons,
        Prod.mk.injEq, true_and]
      omega
  | case3 pos sofar h =>
    have hnil : data.toList.drop pos = [] := List.drop_eq_nil_of_le (by simpa using h)
    exact .inr ⟨by simp [hnil], by simp [hnil]⟩

/-- Reading a line takes it up to the first line feed, and the limit decides whether it is given.
Where there is no line feed all is taken, and is a line unless there is nothing or the input
fails. -/
theorem readLine_cases (i : Input) (max : Option Nat) :
    (∃ front rest, i.rest = front ++ lineFeed :: rest ∧ lineFeed ∉ front ∧
        i.readLine max = (.ok (lineOf max front), i.advance (front ++ [lineFeed]).length)) ∨
      lineFeed ∉ i.rest ∧ i.readLine max =
        (i.failure.elim (.ok (if i.rest = [] then .endOfInput else lineOf max i.rest)) .error,
          i.advance i.rest.length) := by
  rcases scan_eq i.data i.pos [] with ⟨front, rest, hsplit, hclean, hscan⟩ | ⟨hclean, hscan⟩
  · refine .inl ⟨front, rest, hsplit, hclean, ?_⟩
    simp [readLine, hscan, advance, Nat.add_assoc]
  · refine .inr ⟨hclean, ?_⟩
    have hrest : scan i.data i.pos [] = (i.rest, false, i.pos + i.rest.length) := hscan
    cases hfailure : i.failure <;> simp [readLine, hrest, hfailure, advance]

/-- Reading a line never goes back, nor beyond the end. -/
theorem exists_advance_readLine (i : Input) (max : Option Nat) :
    ∃ n ≤ i.unread, (i.readLine max).2 = i.advance n := by
  rw [← length_rest]
  rcases i.readLine_cases max with ⟨front, rest, hrest, -, hread⟩ | ⟨-, hread⟩
  · exact ⟨_, by rw [hrest]; simp, congrArg Prod.snd hread⟩
  · exact ⟨_, Nat.le_refl _, congrArg Prod.snd hread⟩

/-- **Reading a line takes the first line.** At the end nothing is taken. -/
theorem readLine_eq (max : Option Nat) (hfailure : i.failure = none) :
    i.rest = [] ∧ i.readLine max = (.ok .endOfInput, i) ∨
      ∃ front line rest, i.rest = line ++ rest ∧ FirstLine front line rest ∧
        i.readLine max = (.ok (lineOf max front), i.advance line.length) := by
  rcases i.readLine_cases max with ⟨front, rest, hrest, hclean, hread⟩ | ⟨hclean, hread⟩
  · exact .inr ⟨front, front ++ [lineFeed], rest, by simp [hrest], .ended rest hclean, hread⟩
  · rw [hfailure, Option.elim_none] at hread
    by_cases hnil : i.rest = []
    · exact .inl ⟨hnil, by simpa [hnil] using hread⟩
    · rw [if_neg hnil] at hread
      exact .inr ⟨i.rest, i.rest, [], (List.append_nil _).symm, .unended hclean hnil, hread⟩

end Input

/-! ## Lines up to a delimiter -/

namespace Heredoc

open Input (textOf)

/-- The lines of some bytes up to a delimiter: `lines` are the texts of those in front of it,
`taken` the bytes of these and of the delimiter's line, and `rest` is what follows. Where no line is
the delimiter, all bytes are taken. -/
inductive UpTo (delimiter : String) : (lines : List String) → (taken rest : Bytes) → Prop where
  | endOfInput : UpTo delimiter [] [] []
  | closing {front line rest} (first : FirstLine front line rest)
    (closes : Text.trim (textOf front) = delimiter) : UpTo delimiter [] line rest
  | line {front line lines taken rest} (first : FirstLine front line (taken ++ rest))
    (stays : Text.trim (textOf front) ≠ delimiter) (later : UpTo delimiter lines taken rest) :
    UpTo delimiter (textOf front :: lines) (line ++ taken) rest

/-- Reading for one who goes never goes back, nor beyond the end. -/
theorem exists_advance_copyAhead (delimiter : String) (ahead room : Nat) (i : Input) :
    ∃ n ≤ i.unread, (copyAhead delimiter ahead room i).rest = i.advance n := by
  induction ahead generalizing room i with
  | zero =>
    obtain ⟨n, hle, hn⟩ := i.exists_advance_readLine none
    refine ⟨n, hle, ?_⟩
    unfold copyAhead
    split <;> rename_i hread <;> rw [hread] at hn
    · exact hn
    · exact hn
    · exact hn
    · dsimp only
      split <;> exact hn
  | succ ahead ih =>
    obtain ⟨n, hle, hn⟩ := i.exists_advance_readLine none
    unfold copyAhead
    split <;> rename_i hread <;> rw [hread] at hn
    · exact ⟨n, hle, hn⟩
    · exact ⟨n, hle, hn⟩
    · exact ⟨n, hle, hn⟩
    · dsimp only
      split
      · exact ⟨n, hle, hn⟩
      split
      · exact ⟨n, hle, hn⟩
      · -- The lines behind the first are read behind it.
        rename_i line rest hother hroom
        obtain rfl : rest = i.advance n := hn
        obtain ⟨later, hlater, heq⟩ := ih _ (i.advance n)
        rw [Input.unread_advance] at hlater
        exact ⟨n + later, by omega, by rw [heq, Input.advance_advance]⟩

/-- A captured line, as it is kept. -/
def kept (line : String) : Bytes := Text.Utf8.encode line ++ [Input.lineFeed]

theorem copyOnto_eq (delimiter : String) (body : Array UInt8) (prompts : Nat) (i : Input)
    (hfailure : i.failure = none) :
    ∃ lines taken rest, i.rest = taken ++ rest ∧ UpTo delimiter lines taken rest ∧
      copyOnto delimiter body prompts i =
        ⟨body ++ (lines.flatMap kept).toArray, prompts + lines.length + 1, none,
          i.advance taken.length⟩ := by
  -- Without a failure and without a limit, reading gives a line or the end and nothing else.
  fun_induction copyOnto delimiter body prompts i with
  | case1 body prompts i cause after h =>
    rcases i.readLine_eq none hfailure with ⟨-, hread⟩ | ⟨front, line, rest, -, -, hread⟩ <;>
      simp [h] at hread
  | case2 body prompts i after h =>
    rcases i.readLine_eq none hfailure with ⟨hnil, hread⟩ | ⟨front, line, rest, -, -, hread⟩
    · obtain rfl : after = i := by simpa [h] using hread
      exact ⟨[], [], [], by simpa using hnil, .endOfInput, by simp⟩
    · simp [h] at hread
  | case3 body prompts i after h =>
    rcases i.readLine_eq none hfailure with ⟨-, hread⟩ | ⟨front, line, rest, -, -, hread⟩ <;>
      simp [h] at hread
  | case4 body prompts i line after h hcloses =>
    rcases i.readLine_eq none hfailure with ⟨-, hread⟩ | ⟨front, taken, rest, hrest, hfirst, hread⟩
    · simp [h] at hread
    · simp only [h, Input.lineOf_none, Prod.mk.injEq, Except.ok.injEq, Line.text.injEq] at hread
      obtain ⟨rfl, rfl⟩ := hread
      exact ⟨[], taken, rest, hrest, .closing hfirst hcloses, by simp⟩
  | case5 body prompts i line after h hstays ih =>
    rcases i.readLine_eq none hfailure with ⟨-, hread⟩ | ⟨front, taken, rest, hrest, hfirst, hread⟩
    · simp [h] at hread
    · simp only [h, Input.lineOf_none, Prod.mk.injEq, Except.ok.injEq, Line.text.injEq] at hread
      obtain ⟨rfl, rfl⟩ := hread
      -- The text goes on with what is left behind this line.
      obtain ⟨lines, more, rest', hmore, hupTo, hcopy⟩ := ih hfailure
      rw [Input.rest_advance_of_append hrest] at hmore
      subst hmore
      refine ⟨textOf front :: lines, taken ++ more, rest', by rw [hrest, List.append_assoc],
        .line hfirst hstays hupTo, ?_⟩
      have hbody : (body ++ (Text.Utf8.encode (textOf front)).toArray).push Input.lineFeed ++
          (lines.flatMap kept).toArray = body ++
            ((textOf front :: lines).flatMap kept).toArray := by
        simp [kept]
      rw [hcopy, hbody, Input.advance_advance, List.length_append, List.length_cons,
        Nat.add_right_comm prompts, Nat.add_assoc prompts]

/-- **Reading up to a delimiter takes the lines in front of it and its own**, and gives the
former. -/
theorem copy_eq (delimiter : String) (i : Input) (hfailure : i.failure = none) :
    ∃ lines taken rest, i.rest = taken ++ rest ∧ UpTo delimiter lines taken rest ∧
      copy delimiter i =
        ⟨(lines.flatMap kept).toArray, lines.length + 1, none, i.advance taken.length⟩ := by
  obtain ⟨lines, taken, rest, hrest, hupTo, hcopy⟩ := copyOnto_eq delimiter #[] 0 i hfailure
  exact ⟨lines, taken, rest, hrest, hupTo, by simpa [copy] using hcopy⟩

end Heredoc

end PipeShell
