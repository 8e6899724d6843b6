import PipeShell.Pipeline
import PipeShell.Proofs.Wildcard.Searching

/-!
# The grammar of lines

A line is cut at every `|` that was typed, and a piece is a writing of words. If a piece is blank,
the line is no pipeline, and there is no other reason. Otherwise every piece is a stage, in which
each word has given way to its expansion, whatever the names look like that were found: nobody cuts
them again.

So a line can be read by its parts, and whatever is written down of words without wildcards is read
back, with any blanks around the words.

## Main results

* `ofLine?_eq`: what a line is read as
* `line_grammar`: the same, by the pieces of the line and their words
* `ofLine?_of_spaced`: a line is read as the words that it is a writing of
-/

namespace PipeShell

open Wildcard (hasWildcard)

namespace Pipeline

variable {expand : String → List String} {line text : String}

/-! ## What a line is read as -/

theorem command?_eq (expand : String → List String) (text : String) :
    command? expand text =
      if commandWords expand text = [] then .error .emptyPipeline
      else .ok (commandWords expand text) := by
  simp only [command?, List.isEmpty_iff]

theorem mapM_command?_eq (expand : String → List String) (texts : List String) :
    texts.mapM (command? expand) =
      if ∃ text ∈ texts, commandWords expand text = [] then .error .emptyPipeline
      else .ok (texts.map (commandWords expand)) := by
  induction texts with
  | nil => rfl
  | cons text rest ih =>
    rw [List.mapM_cons, ih, command?_eq]
    by_cases htext : commandWords expand text = []
    · simp only [htext, List.exists_mem_cons_iff, true_or, if_true]
      rfl
    · simp only [htext, List.exists_mem_cons_iff, false_or, if_false]
      split <;> rfl

/-- What a line is read as. It is no pipeline if there is a stage without words. -/
theorem ofLine?_eq (expand : String → List String) (line : String) :
    ofLine? expand line =
      if ∃ text ∈ Text.splitAt '|' line, commandWords expand text = [] then .error .emptyPipeline
      else .ok ⟨(Text.splitAt '|' line).map (commandWords expand)⟩ := by
  rw [ofLine?, mapM_command?_eq]
  split <;> rfl

theorem ofLine?_eq_error_iff {e : ParseError} :
    ofLine? expand line = .error e ↔
      e = .emptyPipeline ∧ ∃ text ∈ Text.splitAt '|' line, commandWords expand text = [] := by
  rw [ofLine?_eq]
  split
  case isTrue h => exact ⟨fun he => ⟨(Except.error.inj he).symm, h⟩, fun he => by rw [he.1]⟩
  case isFalse h => exact ⟨nofun, fun he => absurd he.2 h⟩

theorem ofLine?_eq_ok_iff {p : Pipeline} :
    ofLine? expand line = .ok p ↔
      (∀ text ∈ Text.splitAt '|' line, commandWords expand text ≠ []) ∧
        p.commands = (Text.splitAt '|' line).map (commandWords expand) := by
  rw [ofLine?_eq]
  split
  case isTrue h =>
    obtain ⟨text, htext, hwords⟩ := h
    exact ⟨nofun, fun hp => absurd hwords (hp.1 text htext)⟩
  case isFalse h =>
    refine ⟨fun hp => ⟨fun text htext hwords => h ⟨text, htext, hwords⟩, ?_⟩, fun hp => ?_⟩
    · rw [← Except.ok.inj hp]
    · rw [← hp.2]

/-! ## Pieces and words of a line -/

/-- A piece gives way to no words exactly if it is blank. -/
theorem commandWords_eq_nil_iff (v : Wildcard.View) {text : String} :
    commandWords (Wildcard.expand v) text = [] ↔ Text.IsGap text := by
  rw [← Text.words_eq_nil_iff, commandWords, List.flatMap_eq_nil_iff,
    List.eq_nil_iff_forall_not_mem]
  simp only [Wildcard.expand_ne_nil, imp_false]

/-- **The grammar of lines.** A line has its pieces, without a `|` inside, and the words of which
they are writings. It is no pipeline exactly if a piece is blank; else there is a stage for every
piece, one more than there are `|`, and its words are the expansions of those of the piece, in
order. Two lines with a `|` between them are read as the one followed by the other. -/
theorem line_grammar (v : Wildcard.View) :
    (∀ line, ∃ pieces rows, Text.IsCut '|' pieces line ∧ List.Forall₂ Text.Spaced rows pieces ∧
      pieces.length = line.toList.count '|' + 1 ∧
      (∀ e, ofLine? (Wildcard.expand v) line = .error e ↔
        e = .emptyPipeline ∧ ∃ piece ∈ pieces, Text.IsGap piece) ∧
      (∀ p, ofLine? (Wildcard.expand v) line = .ok p ↔
        (∀ piece ∈ pieces, ¬ Text.IsGap piece) ∧
          p.commands = rows.map (List.flatMap (Wildcard.expand v))) ∧
      ∀ p, ofLine? (Wildcard.expand v) line = .ok p → ∀ words ∈ p.commands, words ≠ []) ∧
    ∀ a b r, ofLine? (Wildcard.expand v) (a ++ "|" ++ b) = .ok r ↔
      ∃ p q, ofLine? (Wildcard.expand v) a = .ok p ∧ ofLine? (Wildcard.expand v) b = .ok q ∧
        r.commands = p.commands ++ q.commands := by
  constructor
  · intro line
    refine ⟨Text.splitAt '|' line, (Text.splitAt '|' line).map Text.words,
      Text.splitAt_eq_iff.mp rfl, ?_, Text.length_splitAt '|' line, ?_, ?_, ?_⟩
    · exact List.forall₂_map_left_iff.mpr (List.forall₂_same.mpr fun _ _ =>
        Text.words_eq_iff.mp rfl)
    · intro e
      simp only [ofLine?_eq_error_iff, commandWords_eq_nil_iff]
    · intro p
      simp only [ofLine?_eq_ok_iff, ne_eq, commandWords_eq_nil_iff, List.map_map]
      rfl
    · intro p hp words hwords
      obtain ⟨hne, hcommands⟩ := ofLine?_eq_ok_iff.mp hp
      rw [hcommands] at hwords
      obtain ⟨text, htext, rfl⟩ := List.mem_map.mp hwords
      exact hne text htext
  · intro a b r
    have hcut : Text.splitAt '|' (a ++ "|" ++ b) = Text.splitAt '|' a ++ Text.splitAt '|' b :=
      Text.splitAt_append '|' a b
    simp only [ofLine?_eq_ok_iff, hcut, List.forall_mem_append, List.map_append]
    constructor
    · rintro ⟨⟨ha, hb⟩, hr⟩
      exact ⟨⟨_⟩, ⟨_⟩, ⟨ha, rfl⟩, ⟨hb, rfl⟩, hr⟩
    · rintro ⟨p, q, ⟨ha, hp⟩, ⟨hb, hq⟩, hr⟩
      exact ⟨⟨ha, hb⟩, by rw [hr, hp, hq]⟩

/-! ## Reading back -/

/-- Words without wildcards stay as they are. -/
theorem flatMap_expand_of_not_hasWildcard (v : Wildcard.View) {words : List String}
    (h : ∀ word ∈ words, hasWildcard word = false) : words.flatMap (Wildcard.expand v) = words := by
  induction words with
  | nil => rfl
  | cons word rest ih =>
    rw [List.flatMap_cons, Wildcard.expand_of_not_hasWildcard v (h word List.mem_cons_self),
      ih fun other hother => h other (List.mem_cons_of_mem _ hother)]
    rfl

/-- **A line is read as the words that it is a writing of**, in every directory: stages of words
without wildcards and without a `|`, with any blanks between the words and around them. -/
theorem ofLine?_of_spaced (v : Wildcard.View) {rows : List (List String)} {pieces : List String}
    (hrows : rows ≠ [] ∧ ∀ words ∈ rows, words ≠ [])
    (hwords : ∀ words ∈ rows, ∀ word ∈ words, '|' ∉ word.toList ∧ hasWildcard word = false)
    (hpieces : List.Forall₂ Text.Spaced rows pieces) :
    ofLine? (Wildcard.expand v) ("|".intercalate pieces) = .ok ⟨rows⟩ := by
  obtain rfl : pieces.map Text.words = rows := Text.map_words_of_forall₂ hpieces
  have hmem : ∀ piece ∈ pieces, Text.words piece ∈ pieces.map Text.words :=
    fun piece => List.mem_map_of_mem
  have hcut : Text.splitAt '|' ("|".intercalate pieces) = pieces := by
    refine Text.splitAt_eq_iff.mpr ⟨fun hnil => hrows.1 (by rw [hnil]; rfl), ?_, rfl⟩
    intro piece hpiece hbar
    -- What stands in a piece is a blank, or stands in one of its words.
    rcases (Text.words_eq_iff.mp rfl).mem_or_isBlank hbar with hblank | ⟨word, hword, hbar⟩
    · cases hblank
    · exact (hwords _ (hmem piece hpiece) word hword).1 hbar
  have hcommand : ∀ piece ∈ pieces, commandWords (Wildcard.expand v) piece = Text.words piece :=
    fun piece hpiece => flatMap_expand_of_not_hasWildcard v fun word hword =>
      (hwords _ (hmem piece hpiece) word hword).2
  rw [ofLine?_eq_ok_iff, hcut]
  constructor
  · intro piece hpiece
    rw [hcommand piece hpiece]
    exact hrows.2 _ (hmem piece hpiece)
  · exact (List.map_congr_left hcommand).symm

/-- A directory whose names could be taken for parts of a line. -/
def oddDirectory : Wildcard.View where
  present path := path = "a | b" ∨ path = "<in"
  isDirectory path := path = "."
  names _ := ["a | b", "<in"]

/-- Blanks of many kinds, and none at all around the first bar. -/
theorem ofLine?_of_spaced_oddDirectory :
    ofLine? (Wildcard.expand oddDirectory)
        ("|".intercalate ["\u3000cat\t <in", "sort ", "  wc\u2003-l\n"]) =
      .ok ⟨[["cat", "<in"], ["sort"], ["wc", "-l"]]⟩ := by
  refine ofLine?_of_spaced oddDirectory (by decide) (by decide) ?_
  have hwords : ["\u3000cat\t <in", "sort ", "  wc\u2003-l\n"].map Text.words =
      [["cat", "<in"], ["sort"], ["wc", "-l"]] := by decide
  rw [← hwords, List.forall₂_map_left_iff, List.forall₂_same]
  exact fun _ _ => Text.words_eq_iff.mp rfl

end Pipeline

end PipeShell
