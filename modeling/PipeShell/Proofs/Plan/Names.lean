import Mathlib
import PipeShell.Machine.Layout
import PipeShell.Proofs.Pipeline.Grammar
import PipeShell.Proofs.Plan.Rendering
import PipeShell.Shell.Eval

/-!
# Where operators come from

The words of a command are those of its line, in which paths have taken the place of words with
wildcards. Operators are looked for only afterwards. So a line in which neither `<` nor `>` was
typed is carried out with its words as arguments and nothing else, as long as no path that it stands
for begins with `<` or `>`. A path that does is an operator, for all that nobody has typed one.

## Main definitions

* `Pipeline.typedWords`: the words that were typed
* `Wildcard.IsMatched v word path`: the word has a wildcard, and the path is one that it stands for

## Main results

* `resolveAll_plain`: plain words are arguments
* `operators_are_names`: without typed operators, operators are names that a wildcard has matched
* `name_becomes_operator`: such names there are
-/

namespace PipeShell

/-! ## Pieces and words -/

namespace Text

theorem mem_of_mem_splitAt {c : Char} {text piece : String} (h : piece ∈ splitAt c text) {d : Char}
    (hd : d ∈ piece.toList) : d ∈ text.toList := by
  obtain ⟨cs, hcs, rfl⟩ := List.mem_map.mp h
  rw [String.toList_ofList] at hd
  exact (mem_of_mem_pieces hcs hd).1

theorem mem_of_mem_words {text word : String} (h : word ∈ words text) {d : Char}
    (hd : d ∈ word.toList) : d ∈ text.toList := by
  obtain ⟨cs, hcs, rfl⟩ := List.mem_map.mp h
  rw [String.toList_ofList] at hd
  exact (mem_of_mem_pieces (List.mem_filter.mp hcs).1 hd).1

end Text

/-! ## The words of a pipeline -/

namespace Pipeline

/-- The words that were typed, of all stages. -/
def typedWords (line : String) : List String := (Text.splitAt '|' line).flatMap Text.words

theorem isPlain_of_mem_typedWords {line word : String}
    (hline : ∀ c ∈ line.toList, isOperatorChar c = false) (h : word ∈ typedWords line) :
    IsPlain word := by
  obtain ⟨piece, hpiece, hword⟩ := List.mem_flatMap.mp h
  intro c rest hchars
  refine hline c (Text.mem_of_mem_splitAt hpiece (Text.mem_of_mem_words hword ?_))
  rw [hchars]
  exact List.mem_cons_self

/-- Every word of a pipeline takes the place of a word that was typed. -/
theorem exists_typed_of_mem {expand : String → List String} {line : String} {p : Pipeline}
    (h : ofLine? expand line = .ok p) {words : Command} (hwords : words ∈ p.commands)
    {word : String} (hword : word ∈ words) : ∃ typed ∈ typedWords line, word ∈ expand typed := by
  rw [(ofLine?_eq_ok_iff.mp h).2] at hwords
  obtain ⟨piece, hpiece, rfl⟩ := List.mem_map.mp hwords
  obtain ⟨typed, htyped, hexpand⟩ := List.mem_flatMap.mp hword
  exact ⟨typed, List.mem_flatMap.mpr ⟨piece, hpiece, htyped⟩, hexpand⟩

end Pipeline

/-- The word has a wildcard, and the path is one of those that it stands for. -/
def Wildcard.IsMatched (v : View) (word path : String) : Prop :=
  hasWildcard word = true ∧ ∃ q, Query.ofWord? word = some q ∧ path ∈ q.paths v

/-- A word gives way to paths that it stands for, or stays. -/
theorem Wildcard.eq_or_isMatched_of_mem_expand {v : View} {word path : String}
    (h : path ∈ expand v word) : path = word ∨ IsMatched v word path := by
  rcases expand_cases v word with hstays | ⟨q, hwildcard, hquery, -, hexpand⟩
  · rw [hstays] at h
    exact .inl (List.mem_singleton.mp h)
  · rw [hexpand] at h
    exact .inr ⟨hwildcard, q, hquery, mem_ascending.mp h⟩

/-- A word that stands for no path stays. -/
theorem Wildcard.expand_of_not_isMatched {v : View} {word : String}
    (h : ∀ path, ¬ IsMatched v word path) : expand v word = [word] := by
  rcases expand_cases v word with hstays | ⟨q, hwildcard, hquery, hpaths, -⟩
  · exact hstays
  · obtain ⟨path, hpath⟩ := List.exists_mem_of_ne_nil _ hpaths
    exact absurd ⟨hwildcard, q, hquery, hpath⟩ (h path)

namespace Plan

variable {σ κ : Type}

/-! ## Plain words -/

/-- Plain words are arguments, and nothing is captured for them. -/
theorem resolve_plain (capture : Capture σ κ) {words : List String}
    (h : ∀ word ∈ words, IsPlain word) (s : σ) :
    resolve capture words s = (.ok ⟨words, []⟩, s) := by
  induction words with
  | nil => simp [empty]
  | cons word rest ih =>
    rw [resolve_argument capture rest s (h word List.mem_cons_self),
      ih fun other hother => h other (List.mem_cons_of_mem _ hother)]
    rfl

theorem resolveAll_plain (capture : Capture σ κ) {commands : List (List String)}
    (h : ∀ words ∈ commands, ∀ word ∈ words, IsPlain word) (s : σ) :
    resolveAll capture commands s = (commands.map fun words => .ok ⟨words, []⟩, s) := by
  induction commands with
  | nil => rfl
  | cons words rest ih =>
    have hrest := ih fun others hothers => h others (List.mem_cons_of_mem _ hothers)
    simp only [resolveAll, resolve_plain capture (h words List.mem_cons_self), hrest, List.map_cons]

/-- Each plan of a pipeline is what its own words are resolved to, in the state left by the stages
before it. -/
theorem exists_resolve_of_resolveAll {capture : Capture σ κ} {commands : List (List String)}
    {plan : List String → Except RedirectionError (Plan κ)} {s : σ}
    (h : (resolveAll capture commands s).1 = commands.map plan) {words : List String}
    (hwords : words ∈ commands) :
    ∃ before after, resolve capture words before = (plan words, after) := by
  induction commands generalizing s with
  | nil => cases hwords
  | cons first rest ih =>
    obtain ⟨hfirst, hrest⟩ := List.cons.inj h
    rcases List.mem_cons.mp hwords with rfl | hwords
    · exact ⟨s, _, Prod.ext hfirst rfl⟩
    · exact ih hrest hwords

/-- Only plain words are resolved without a redirection. -/
theorem isPlain_of_resolve {capture : Capture σ κ} {words args : List String} {s after : σ}
    (h : resolve capture words s = (.ok ⟨args, []⟩, after)) : ∀ word ∈ words, IsPlain word := by
  obtain ⟨items, hitems, -, hbinds⟩ := rendering_of_resolve h
  clear h
  induction hitems with
  | nil => simp
  | argument plain rest ih =>
    intro word hword
    rcases List.mem_cons.mp hword with rfl | hword
    · exact plain
    · exact ih hbinds word hword
  -- A redirection among the items would have a binding.
  | glued operand rest ih =>
    obtain ⟨source, s', others, -, -, hbindings⟩ := (binds_redirection ..).mp hbinds
    cases hbindings
  | separate operand rest ih =>
    obtain ⟨source, s', others, -, -, hbindings⟩ := (binds_redirection ..).mp hbinds
    cases hbindings

/-! ## A directory with a trap -/

/-- A directory with a file whose name begins with an operator. -/
def trapDirectory : Machine :=
  (Machine.onTree Machine.FileTree.bare []).plant "<in" (.file #[])

/-- In this directory `*` stands for that name. -/
theorem expand_star_trapDirectory :
    Wildcard.expand (trapDirectory.view Machine.FileTree.root) "*" = ["<in"] := by
  have hdirectory : (trapDirectory.view Machine.FileTree.root).isDirectory "." = true := by cbv
  have hvisible : (trapDirectory.view Machine.FileTree.root).visible "." = ["<in"] := by cbv
  have hentry : Wildcard.entryPath "." "<in" = "<in" := by cbv
  have hquery : Wildcard.Query.ofWord? "*" = some ⟨false, [.described [.anyRun]], false⟩ := by cbv
  have hmatch : (["<in"].filter (Wildcard.Pattern.isMatch [.anyRun] ·.toList)) = ["<in"] := by
    decide
  rw [Wildcard.expand_of_described (by decide) hquery (by decide) hdirectory, hvisible, hmatch]
  simp [hentry, Wildcard.ascending]

/-- So `cat *` is a command with that name as its last word. -/
theorem ofLine?_trapDirectory :
    Pipeline.ofLine? (Wildcard.expand (trapDirectory.view Machine.FileTree.root)) "cat *" =
      .ok ⟨[["cat", "<in"]]⟩ := by
  have hpieces : Text.splitAt '|' "cat *" = ["cat *"] := by decide
  have hwords : Text.words "cat *" = ["cat", "*"] := by decide
  have hcat : Wildcard.expand (trapDirectory.view Machine.FileTree.root) "cat" = ["cat"] := by
    decide
  have hcommand : Pipeline.commandWords
      (Wildcard.expand (trapDirectory.view Machine.FileTree.root)) "cat *" = ["cat", "<in"] := by
    simp [Pipeline.commandWords, hwords, hcat, expand_star_trapDirectory]
  simp only [Pipeline.ofLine?, hpieces, List.mapM_cons, List.mapM_nil, Pipeline.command?, hcommand]
  rfl

/-- There is no operator in the line. -/
theorem isOperatorChar_trap : ∀ c ∈ "cat *".toList, isOperatorChar c = false := by
  simp [isOperatorChar]

theorem not_isPlain_trap : ¬ IsPlain "<in" := by decide

/-! ## Lines without operators -/

/-- **Without typed operators, operators are names.** Where neither `<` nor `>` was typed, every
stage is resolved to its words and nothing else, with nothing captured, if and only if all words are
plain; and a word that is not is a path that some wildcard of the line has matched. -/
theorem operators_are_names (v : Wildcard.View) (capture : Capture σ κ) {line : String}
    {p : Pipeline} (hline : ∀ c ∈ line.toList, isOperatorChar c = false)
    (hparse : Pipeline.ofLine? (Wildcard.expand v) line = .ok p) (s : σ) :
    (resolveAll capture.listed p.commands (s, []) =
        (p.commands.map fun words => .ok ⟨words, []⟩, s, []) ↔
      ∀ words ∈ p.commands, ∀ word ∈ words, IsPlain word) ∧
    ∀ words ∈ p.commands, ∀ word ∈ words, ¬ IsPlain word →
      ∃ typed ∈ Pipeline.typedWords line, Wildcard.IsMatched v typed word := by
  refine ⟨⟨?_, fun h => resolveAll_plain capture.listed h (s, [])⟩, ?_⟩
  · intro h words hwords
    obtain ⟨before, after, hresolve⟩ :=
      exists_resolve_of_resolveAll (congrArg Prod.fst h) hwords
    exact isPlain_of_resolve hresolve
  · intro words hwords word hword hplain
    obtain ⟨typed, htyped, hexpand⟩ := Pipeline.exists_typed_of_mem hparse hwords hword
    rcases Wildcard.eq_or_isMatched_of_mem_expand hexpand with rfl | hmatched
    · exact absurd (Pipeline.isPlain_of_mem_typedWords hline htyped) hplain
    · exact ⟨typed, htyped, hmatched⟩

/-- In the directory with the trap, the word of `cat *` that is not plain is the matched name. -/
theorem operators_are_names_trapDirectory :
    (∀ c ∈ "cat *".toList, isOperatorChar c = false) ∧
      ∃ typed ∈ Pipeline.typedWords "cat *",
        Wildcard.IsMatched (trapDirectory.view Machine.FileTree.root) typed "<in" :=
  ⟨isOperatorChar_trap,
    (operators_are_names (trapDirectory.view Machine.FileTree.root) (fun _ s => (.ok (), s))
      isOperatorChar_trap ofLine?_trapDirectory ()).2 ["cat", "<in"] List.mem_cons_self "<in"
      (by simp) not_isPlain_trap⟩

/-- A name becomes an operator: with a file `<in` in its directory, a line without operators reads
from the file `in`. -/
theorem name_becomes_operator :
    ¬ ∀ (v : Wildcard.View) (line : String) (p : Pipeline),
      (∀ c ∈ line.toList, isOperatorChar c = false) →
        Pipeline.ofLine? (Wildcard.expand v) line = .ok p →
          resolveAll (fun _ s => (.ok (), s)) p.commands () =
            (p.commands.map fun words => .ok ⟨words, []⟩, ()) := by
  intro h
  -- A stage that is resolved to its words has plain words only, and `<in` is not plain.
  have hplans : (resolveAll (fun _ s => (.ok (), s)) [["cat", "<in"]] ()).1 =
      [["cat", "<in"]].map fun words => .ok ⟨words, []⟩ :=
    congrArg Prod.fst (h _ "cat *" _ isOperatorChar_trap ofLine?_trapDirectory)
  obtain ⟨before, after, hresolve⟩ := exists_resolve_of_resolveAll hplans List.mem_cons_self
  exact not_isPlain_trap (isPlain_of_resolve hresolve "<in" (by simp))

end Plan

end PipeShell
