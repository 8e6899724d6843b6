import PipeShell.Proofs.Pipeline.Grammar
import PipeShell.Proofs.Plan.Names
import PipeShell.Proofs.Plan.Scanning

/-!
# Operands behind their operators

Once words have given way to their expansions, it does not matter whether an operand is glued to its
operator or stands behind it. Before that it does: a word that an operator begins is expanded as a
whole, the operator included. So `< *.txt` reads from the first path that `*.txt` stands for, while
`<*.txt` looks for names that begin with `<`, and mostly ends up with `*.txt` itself.

## Main definitions

* `OperandPlace`: a place in a line where an operator stands as a word of its own, with its operand
* `OperandPlace.spread`, `OperandPlace.tight`: the line, with the blanks between the two and without

## Main results

* `resolve_glue`: among the words of a command it makes no difference whether an operand is glued
* `operand_spacing`: what the blanks in a line make a difference to
* `blanks_matter`: they do make one
-/

namespace PipeShell

variable {σ κ : Type}

open Wildcard (expand hasWildcard)

/-! ## Operands among the words of a command -/

namespace Plan

variable (capture : Capture σ κ) (kind : RedirectKind) {target : String}

theorem resolveBehind_congr {words others : List String}
    (h : ∀ s, resolve capture words s = resolve capture others s) (redirect : Redirect) (s : σ) :
    resolveBehind capture redirect words s = resolveBehind capture redirect others s := by
  simp only [resolveBehind, h]

/-- What is behind a command that lacks an operand is not read. -/
theorem LacksOperand.append {words : List String} {kind : RedirectKind}
    (h : LacksOperand kind words)
    {word : String} (operator : ¬ IsPlain word) (rest : List String) :
    LacksOperand kind (words ++ word :: rest) := by
  cases h with
  | last => exact .crowded operator
  | crowded operator => exact .crowded operator

/-- Whether an operand is glued to its operator makes no difference, whatever stands around. -/
theorem resolve_glue (h : IsOperand target) (front back : List String) (s : σ) :
    resolve capture (front ++ kind.operator :: target :: back) s =
      resolve capture (front ++ (kind.operator ++ target) :: back) s := by
  have hsplit := splitOperator?_operator_append kind h.2
  induction front using reading_induction generalizing s with
  | nil =>
    have separate : Forms ⟨kind, target⟩ [kind.operator, target] := .separate h.2
    have glued : Forms ⟨kind, target⟩ [kind.operator ++ target] := .glued hsplit h.1
    exact (separate.resolve_append capture back s).trans (glued.resolve_append capture back s).symm
  | argument word rest plain ih =>
    rw [List.cons_append, List.cons_append, resolve_argument _ _ _ plain,
      resolve_argument _ _ _ plain,
      ih]
  | redirection redirect words rest forms ih =>
    rw [List.append_assoc, List.append_assoc, forms.resolve_append, forms.resolve_append]
    exact resolveBehind_congr capture ih redirect s
  | lacking kind' words lacks =>
    -- Both writings begin with an operator, which is no operand for one that lacks one.
    have hglued : ¬ IsPlain (kind.operator ++ target) := by
      rw [← splitOperator?_eq_none_iff, hsplit]
      nofun
    rw [resolve_of_lacksOperand capture (lacks.append (not_isPlain_operator kind) _),
      resolve_of_lacksOperand capture (lacks.append hglued _)]

theorem resolveAll_congr (left right : List (List String)) {words others : List String}
    (h : ∀ s, resolve capture words s = resolve capture others s) (s : σ) :
    resolveAll capture (left ++ words :: right) s =
      resolveAll capture (left ++ others :: right) s := by
  induction left generalizing s with
  | nil => simp only [List.nil_append, resolveAll, h]
  | cons first left ih => simp only [List.cons_append, resolveAll, ih]

end Plan

/-! ## Operands in a line -/

/-- A place in a line where an operator stands as a word of its own, with its operand behind it. -/
structure OperandPlace where
  before : String
  kind : RedirectKind
  gap : String
  operand : String
  after : String
  opens : ∀ c ∈ before.toList.getLast?, Text.isBlank c = true ∨ c = '|'
  isGap : Text.IsGap gap
  gap_ne_empty : gap ≠ ""
  isWord : Text.IsWord operand
  isPlain : IsPlain operand
  no_bar : '|' ∉ operand.toList
  closes : ∀ c ∈ after.toList.head?, Text.isBlank c = true ∨ c = '|'

namespace OperandPlace

/-- The line, with the operand behind its operator. -/
def spread (place : OperandPlace) : String :=
  place.before ++ (place.kind.operator ++ place.gap ++ place.operand) ++ place.after

/-- The line, with the operand glued to its operator. -/
def tight (place : OperandPlace) : String :=
  place.before ++ (place.kind.operator ++ place.operand) ++ place.after

/-- The piece that a place is in, with whatever is put there. -/
theorem exists_piece (place : OperandPlace) :
    ∃ left opening closing right, Text.BeginsWord opening ∧ Text.EndsWord closing ∧
      ∀ middle : String, '|' ∉ middle.toList →
        Text.splitAt '|' (place.before ++ middle ++ place.after) =
          left ++ (opening ++ middle ++ closing) :: right := by
  have hbefore : Text.IsCut '|' _ place.before := Text.splitAt_eq_iff.mp rfl
  have hafter : Text.IsCut '|' _ place.after := Text.splitAt_eq_iff.mp rfl
  obtain ⟨left, opening, hleft⟩ := List.eq_nil_or_concat' _ |>.resolve_left hbefore.ne_nil
  obtain ⟨closing, right, hright⟩ := List.exists_cons_of_ne_nil hafter.ne_nil
  refine ⟨left, opening, closing, right, ?_, ?_, ?_⟩
  · intro c hc
    rw [hleft] at hbefore
    have hbar := hbefore.not_mem opening (by simp)
    refine (place.opens c ?_).resolve_right ?_
    · exact hbefore.getLast?_of_concat hc
    · rintro rfl
      exact hbar (List.mem_of_mem_getLast? hc)
  · intro c hc
    rw [hright] at hafter
    have hbar := hafter.not_mem closing List.mem_cons_self
    refine (place.closes c ?_).resolve_right ?_
    · exact hafter.head?_of_cons hc
    · rintro rfl
      exact hbar (List.mem_of_mem_head? hc)
  · intro middle hmiddle
    exact Text.splitAt_append_of_eq
      (Text.splitAt_append_of_eq hleft (Text.splitAt_of_not_mem hmiddle)) hright

section Words

variable (place : OperandPlace)

theorem isWord_operator (kind : RedirectKind) : Text.IsWord kind.operator := by
  cases kind <;> exact ⟨by decide, by simp [RedirectKind.operator, Text.isBlank]⟩

theorem words_spread : Text.words (place.kind.operator ++ place.gap ++ place.operand) =
    [place.kind.operator, place.operand] := by
  have hgap : Text.BeginsWord place.gap := fun c hc => place.isGap c (List.mem_of_mem_getLast? hc)
  have hends : Text.EndsWord (place.gap ++ place.operand) := by
    intro c hc
    obtain ⟨d, ds, hds⟩ := List.exists_cons_of_ne_nil
      (by simpa using place.gap_ne_empty : place.gap.toList ≠ [])
    obtain rfl : d = c := by simpa [hds] using hc
    exact place.isGap d (by simp [hds])
  rw [String.append_assoc, Text.words_append_of_ends _ hends, hgap.words_append,
    Text.words_of_isGap place.isGap, Text.words_of_isWord (isWord_operator _),
    Text.words_of_isWord place.isWord]
  rfl

theorem words_tight : Text.words (place.kind.operator ++ place.operand) =
    [place.kind.operator ++ place.operand] := by
  refine Text.words_of_isWord ⟨?_, ?_⟩
  · simp [place.isWord.ne_empty]
  · rw [String.toList_append]
    exact List.forall_mem_append.mpr ⟨(isWord_operator _).not_blank, place.isWord.not_blank⟩

theorem no_bar_operator (kind : RedirectKind) : '|' ∉ kind.operator.toList := by
  cases kind <;> decide

theorem no_bar_gap : '|' ∉ place.gap.toList := fun hbar => nomatch place.isGap '|' hbar

/-- An operator is no wildcard. -/
theorem expand_operator (v : Wildcard.View) (kind : RedirectKind) :
    expand v kind.operator = [kind.operator] :=
  Wildcard.expand_of_not_hasWildcard v (by cases kind <;> decide)

/-- The words of the piece that a place is in, if a text is put there that has words of its own. -/
theorem commandWords_append (v : Wildcard.View) {opening middle closing : String}
    (hopening : Text.BeginsWord opening) (hclosing : Text.EndsWord closing) :
    Pipeline.commandWords (expand v) (opening ++ middle ++ closing) =
      (Text.words opening).flatMap (expand v) ++ (Text.words middle).flatMap (expand v) ++
        (Text.words closing).flatMap (expand v) := by
  rw [Pipeline.commandWords, Text.words_append_of_ends _ hclosing, hopening.words_append,
    List.flatMap_append, List.flatMap_append]

end Words

/-- What the line around a place is read as does not depend on what stands there, as long as it has
a word. -/
theorem exists_commands (v : Wildcard.View) (place : OperandPlace) :
    ∃ (left right : List Command) (front back : List String) (reads : Prop),
      ∀ middle : String, '|' ∉ middle.toList → Text.words middle ≠ [] → ∀ p : Pipeline,
        Pipeline.ofLine? (expand v) (place.before ++ middle ++ place.after) = .ok p ↔
          reads ∧ p.commands =
            left ++ (front ++ (Text.words middle).flatMap (expand v) ++ back) :: right := by
  obtain ⟨left, opening, closing, right, hopening, hclosing, hcut⟩ := place.exists_piece
  refine ⟨left.map (Pipeline.commandWords (expand v)), right.map (Pipeline.commandWords (expand v)),
    (Text.words opening).flatMap (expand v), (Text.words closing).flatMap (expand v),
    ∀ text ∈ left ++ right, Pipeline.commandWords (expand v) text ≠ [], ?_⟩
  intro middle hbar hwords p
  have hmiddle : Pipeline.commandWords (expand v) (opening ++ middle ++ closing) ≠ [] := by
    obtain ⟨word, rest, hcons⟩ := List.exists_cons_of_ne_nil hwords
    simp [commandWords_append v hopening hclosing, hcons, Wildcard.expand_ne_nil]
  rw [Pipeline.ofLine?_eq_ok_iff, hcut middle hbar, List.map_append, List.map_cons,
    commandWords_append v hopening hclosing]
  simp only [List.forall_mem_append, List.forall_mem_cons, hmiddle, ne_eq, not_false_eq_true,
    true_and]

end OperandPlace

namespace Plan

variable (v : Wildcard.View) (capture : Capture σ κ) (place : OperandPlace)

/-- **What blanks behind an operator make a difference to.** If a line is a pipeline with an operand
behind its operator, it is one with the operand glued to it, and the two have the same words, except
that the operand is expanded by itself in the one and along with the operator in the other. The
first comes to what it comes to with the operator glued to the first word that the operand is
expanded to. So they come to the same, with the same texts captured, unless a wildcard of the
operand has matched a path, with the operator in front of it or without. -/
theorem operand_spacing {p : Pipeline}
    (hparse : Pipeline.ofLine? (expand v) place.spread = .ok p) :
    ∃ (q : Pipeline) (left right : List Command) (front back : List String),
      Pipeline.ofLine? (expand v) place.tight = .ok q ∧
      p.commands =
        left ++ (front ++ place.kind.operator :: expand v place.operand ++ back) :: right ∧
      q.commands =
        left ++ (front ++ expand v (place.kind.operator ++ place.operand) ++ back) :: right ∧
      (∀ target others s, expand v place.operand = target :: others → IsOperand target →
        resolveAll capture p.commands s = resolveAll capture
          (left ++ (front ++ (place.kind.operator ++ target) :: others ++ back) :: right) s) ∧
      ((∀ path, ¬ Wildcard.IsMatched v place.operand path ∧
          ¬ Wildcard.IsMatched v (place.kind.operator ++ place.operand) path) →
        ∀ s, resolveAll capture p.commands s = resolveAll capture q.commands s) := by
  obtain ⟨left, right, front, back, reads, hcommands⟩ := place.exists_commands v
  have hspread := hcommands (place.kind.operator ++ place.gap ++ place.operand)
    (by simp [OperandPlace.no_bar_operator, place.no_bar, place.no_bar_gap])
    (by rw [place.words_spread]; nofun) p
  have htight := hcommands (place.kind.operator ++ place.operand)
    (by simp [OperandPlace.no_bar_operator, place.no_bar]) (by rw [place.words_tight]; nofun)
  obtain ⟨hreads, hp⟩ := hspread.mp hparse
  rw [place.words_spread] at hp
  simp only [place.words_tight, List.flatMap_cons, List.flatMap_nil, List.append_nil,
    OperandPlace.expand_operator, List.singleton_append] at htight hp
  have hglue : ∀ target others s, expand v place.operand = target :: others → IsOperand target →
      resolveAll capture p.commands s = resolveAll capture
        (left ++ (front ++ (place.kind.operator ++ target) :: others ++ back) :: right) s := by
    intro target others s hexpand htarget
    rw [hp, hexpand]
    refine resolveAll_congr capture left right (fun s => ?_) s
    simpa using resolve_glue capture place.kind htarget front (others ++ back) s
  refine ⟨⟨_⟩, left, right, front, back, (htight _).mpr ⟨hreads, rfl⟩, hp, rfl, hglue, ?_⟩
  intro hunmatched s
  have hoperand := Wildcard.expand_of_not_isMatched fun path => (hunmatched path).1
  have hglued := Wildcard.expand_of_not_isMatched fun path => (hunmatched path).2
  rw [hglue _ _ s hoperand ⟨place.isWord.ne_empty, place.isPlain⟩, hglued]

/-- `in.txt` behind its `<`, with arguments and stages around. -/
def sortPlace : OperandPlace where
  before := "sort "
  kind := .input
  gap := " \t"
  operand := "in.txt"
  after := " -r|wc"
  opens := by simp [Text.isBlank]
  isGap := by simp [Text.IsGap, Text.isBlank]
  gap_ne_empty := by decide
  isWord := ⟨by decide, by simp [Text.isBlank]⟩
  isPlain := by decide
  no_bar := by decide
  closes := by simp [Text.isBlank]

theorem operand_spacing_sortPlace :
    ∃ q, Pipeline.ofLine? (expand Pipeline.oddDirectory) "sort <in.txt -r|wc" = .ok q ∧
      ∀ s : Unit, resolveAll (fun _ s => (.ok (), s)) [["sort", "<", "in.txt", "-r"], ["wc"]] s =
        resolveAll (fun _ s => (.ok (), s)) q.commands s := by
  have hspread : Pipeline.ofLine? (expand Pipeline.oddDirectory) sortPlace.spread =
      .ok ⟨[["sort", "<", "in.txt", "-r"], ["wc"]]⟩ := by
    have hpieces : Text.splitAt '|' sortPlace.spread = ["sort < \tin.txt -r", "wc"] := by decide
    have hwords : Text.words "sort < \tin.txt -r" = ["sort", "<", "in.txt", "-r"] ∧
        Text.words "wc" = ["wc"] := by decide
    rw [Pipeline.ofLine?_eq_ok_iff, hpieces]
    simp [Pipeline.commandWords, hwords, Wildcard.expand, hasWildcard]
  obtain ⟨q, -, -, -, -, htight, -, -, -, hsame⟩ :=
    operand_spacing Pipeline.oddDirectory (fun _ s => (.ok (), s)) sortPlace hspread
  exact ⟨q, htight, hsame fun path =>
    ⟨fun h => absurd h.1 (by decide), fun h => absurd h.1 (by decide)⟩⟩

/-! ## A difference -/

/-- A directory with one file. -/
def textDirectory : Machine :=
  (Machine.onTree Machine.FileTree.bare []).plant "a.txt" (.file #[])

/-- `*.txt` behind its `<`, at the end of the line. -/
def catPlace : OperandPlace where
  before := "cat "
  kind := .input
  gap := " "
  operand := "*.txt"
  after := ""
  opens := by simp [Text.isBlank]
  isGap := by simp [Text.IsGap, Text.isBlank]
  gap_ne_empty := by decide
  isWord := ⟨by decide, by simp [Text.isBlank]⟩
  isPlain := by decide
  no_bar := by decide
  closes := by simp [Text.isBlank]

/-- The pattern that `*.txt` is read as. -/
def textPattern : Wildcard.Pattern := [.anyRun, .char '.', .char 't', .char 'x', .char 't']

theorem isDirectory_textDirectory :
    (textDirectory.view Machine.FileTree.root).isDirectory "." = true := by cbv

theorem visible_textDirectory :
    (textDirectory.view Machine.FileTree.root).visible "." = ["a.txt"] := by cbv

/-- Behind its operator `*.txt` stands for that file. -/
theorem expand_textPattern :
    expand (textDirectory.view Machine.FileTree.root) "*.txt" = ["a.txt"] := by
  have hquery : Wildcard.Query.ofWord? "*.txt" =
      some ⟨false, [.described textPattern], false⟩ :=
    Wildcard.ofWord?_of_isVisible ⟨by decide, by decide, by decide⟩ (by decide)
  have hmatch : ["a.txt"].filter (textPattern.isMatch ·.toList) = ["a.txt"] := by decide
  have hentry : Wildcard.entryPath "." "a.txt" = "a.txt" := by cbv
  rw [Wildcard.expand_of_described (by decide) hquery (by decide) isDirectory_textDirectory,
    visible_textDirectory, hmatch]
  simp [hentry, Wildcard.ascending]

/-- Glued to it, it stands for nothing. -/
theorem expand_glued_textPattern :
    expand (textDirectory.view Machine.FileTree.root) "<*.txt" = ["<*.txt"] := by
  have hquery : Wildcard.Query.ofWord? "<*.txt" =
      some ⟨false, [.described (.char '<' :: textPattern)], false⟩ :=
    Wildcard.ofWord?_of_isVisible ⟨by decide, by decide, by decide⟩ (by decide)
  have hmatch : ["a.txt"].filter (Wildcard.Pattern.isMatch (.char '<' :: textPattern) ·.toList) =
      [] := by decide
  rw [Wildcard.expand_of_described (by decide) hquery (by decide) isDirectory_textDirectory,
    visible_textDirectory, hmatch, if_pos rfl]

/-- Blanks matter: in this directory `cat < *.txt` reads from `a.txt`, and `cat <*.txt` from a file
named `*.txt`. -/
theorem blanks_matter :
    ¬ ∀ (v : Wildcard.View) (place : OperandPlace) (p q : Pipeline),
      Pipeline.ofLine? (expand v) place.spread = .ok p →
        Pipeline.ofLine? (expand v) place.tight = .ok q →
          resolveAll (fun _ s => (.ok (), s)) p.commands () =
            resolveAll (fun _ s => (.ok (), s)) q.commands () := by
  intro h
  have hpieces : Text.splitAt '|' catPlace.spread = ["cat < *.txt"] ∧
      Text.splitAt '|' catPlace.tight = ["cat <*.txt"] := by decide
  have hwords : Text.words "cat < *.txt" = ["cat", "<", "*.txt"] ∧
      Text.words "cat <*.txt" = ["cat", "<*.txt"] := by decide
  have hplain : ∀ word ∈ ["cat", "<"], hasWildcard word = false := by decide
  have hspread : Pipeline.ofLine? (expand (textDirectory.view Machine.FileTree.root))
      catPlace.spread = .ok ⟨[["cat", "<", "a.txt"]]⟩ := by
    rw [Pipeline.ofLine?_eq_ok_iff, hpieces.1]
    simp [Pipeline.commandWords, hwords, expand_textPattern,
      Wildcard.expand_of_not_hasWildcard _ (hplain _ _)]
  have htight : Pipeline.ofLine? (expand (textDirectory.view Machine.FileTree.root))
      catPlace.tight = .ok ⟨[["cat", "<*.txt"]]⟩ := by
    rw [Pipeline.ofLine?_eq_ok_iff, hpieces.2]
    simp [Pipeline.commandWords, hwords, expand_glued_textPattern,
      Wildcard.expand_of_not_hasWildcard _ (hplain _ _)]
  have hdiffer : resolveAll (fun _ s => (.ok (), s)) [["cat", "<", "a.txt"]] () ≠
      resolveAll (fun _ s => (.ok (), s)) [["cat", "<*.txt"]] () := by decide
  exact hdiffer (h _ catPlace _ _ hspread htight)

end Plan

end PipeShell
