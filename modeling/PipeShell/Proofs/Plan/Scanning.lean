import Mathlib.Data.List.Forall2
import PipeShell.Proofs.Plan.Rendering

/-!
# How the words of a command are read

The words of a command are read from left to right, and every `<<` on the way asks for its text. The
reading goes on to the end of the words, or stops at a text that could not be captured, or in front
of an operator without an operand. What was read before it stopped is a writing of arguments and
redirections in every case, and the texts asked for are those of its redirections by `<<`, in the
order in which they are written.

## Main definitions

* `Capture.answered`: a capture that besides lists what it is asked and what it answers
* `LacksOperand kind words`: the words begin with an operator that has no operand
* `Forms redirect words`: the words are one redirection
* `Scan`, `IsScanOf words scan`: what reading the words of a command asks for and comes to

## Main results

* `reading_induction`: induction as the words are read
* `resolve_answered`, `resolveAll_answered`: what resolving asks for and comes to
-/

namespace PipeShell

variable {σ κ : Type}

/-- The same capture, which besides lists what it is asked for and what it answers. -/
def Capture.answered (capture : Capture σ κ) :
    Capture (σ × List (String × Except Errno κ)) κ :=
  fun delimiter s =>
    let (body, after) := capture delimiter s.1
    (body, after, s.2 ++ [(delimiter, body)])

theorem Capture.answered_apply (capture : Capture σ κ) (delimiter : String) (s : σ)
    (list : List (String × Except Errno κ)) :
    capture.answered delimiter (s, list) =
      ((capture delimiter s).1, (capture delimiter s).2,
        list ++ [(delimiter, (capture delimiter s).1)]) := rfl

namespace Plan

/-- The words begin with a bare operator that has no operand: it is the last word, or another
operator comes next. -/
inductive LacksOperand (kind : RedirectKind) : List String → Prop
  | last : LacksOperand kind [kind.operator]
  | crowded {next rest} (operator : ¬ IsPlain next) :
    LacksOperand kind (kind.operator :: next :: rest)

/-- What reading the words of a command asks for, with the answers, and what it comes to. -/
structure Scan (κ : Type) where
  asked : List (String × Except Errno κ)
  plan : Except RedirectionError (Plan κ)

/-- A text that was asked for and captured. -/
def captured (text : String × κ) : String × Except Errno κ := (text.1, .ok text.2)

/-- The ways in which reading the words of a command can go. All words are read, and all texts
captured; or reading stops in front of an operator without an operand; or it stops at a text that
could not be captured, which is the last one asked for. -/
inductive IsScanOf (words : List String) : Scan κ → Prop
  | whole {items} (texts : List (String × κ)) (writing : Rendering (· ≠ "") IsPlain items words)
    (delimiters_eq : delimiters items = texts.map Prod.fst) :
    IsScanOf words ⟨texts.map captured,
      .ok ⟨arguments items, bindingsOf (redirects items) (texts.map Prod.snd)⟩⟩
  | incomplete {items front behind kind} (texts : List (String × κ))
    (split : words = front ++ behind) (writing : Rendering (· ≠ "") IsPlain items front)
    (delimiters_eq : delimiters items = texts.map Prod.fst) (lacks : LacksOperand kind behind) :
    IsScanOf words ⟨texts.map captured, .error (.missingOperand kind)⟩
  | refused {items front behind delimiter cause} (texts : List (String × κ))
    (split : words = front ++ behind) (writing : Rendering (· ≠ "") IsPlain items front)
    (delimiters_eq : delimiters items = texts.map Prod.fst ++ [delimiter]) :
    IsScanOf words ⟨texts.map captured ++ [(delimiter, .error cause)], .error (.heredoc cause)⟩

/-! ## What can come first -/

/-- Some words are one redirection: the operand is the rest of the word behind its operator, or the
operator is a word of its own and the operand the next one. -/
inductive Forms : Redirect → List String → Prop
  | glued {kind target word} (split : splitOperator? word = some (kind, target))
    (nonempty : target ≠ "") : Forms ⟨kind, target⟩ [word]
  | separate {kind target} (plain : IsPlain target) :
    Forms ⟨kind, target⟩ [kind.operator, target]

/-- Some words are a writing of a redirection, whatever is written behind them. -/
def Writes (redirect : Redirect) (front : List String) : Prop :=
  ∀ items words, Rendering (· ≠ "") IsPlain items words →
    Rendering (· ≠ "") IsPlain (.redirection redirect :: items) (front ++ words)

section First

variable {kind : RedirectKind}

theorem eq_operator_of_splitOperator? {word : String}
    (h : splitOperator? word = some (kind, "")) : word = kind.operator := by
  simpa using eq_operator_append_of_splitOperator? h

@[simp] theorem splitOperator?_operator (kind : RedirectKind) :
    splitOperator? kind.operator = some (kind, "") := by
  cases kind <;> rfl

theorem not_isPlain_operator (kind : RedirectKind) : ¬ IsPlain kind.operator := by
  cases kind <;> decide

namespace Forms

variable {redirect : Redirect} {front : List String}

theorem length_pos (h : Forms redirect front) : 0 < front.length := by
  cases h <;> simp

theorem writes (h : Forms redirect front) : Writes redirect front := by
  intro items words writing
  cases h with
  | glued split nonempty =>
    rw [eq_operator_append_of_splitOperator? split]
    exact .glued nonempty writing
  | separate plain => exact .separate plain writing

theorem resolve_append (h : Forms redirect front) (capture : Capture σ κ) (rest : List String)
    (s : σ) : resolve capture (front ++ rest) s = resolveBehind capture redirect rest s := by
  cases h with
  | glued split nonempty => exact resolve_glued capture rest s split nonempty
  | separate plain => exact resolve_separate capture rest s (splitOperator?_operator _) plain

end Forms

/-- Nothing is read of an operator without an operand, and nothing behind it. -/
theorem resolve_of_lacksOperand (capture : Capture σ κ) {words : List String}
    (h : LacksOperand kind words) (s : σ) :
    resolve capture words s = (.error (.missingOperand kind), s) := by
  cases h with
  | last => simp [resolve]
  | crowded operator =>
    have hnext := mt (splitOperator?_eq_none_iff _).mp operator
    simp [resolve, Option.isSome_iff_ne_none.mpr hnext]

/-- What can come first among the words of a command: nothing at all, an argument, a redirection
with its operand, or an operator without one. -/
theorem first_cases (words : List String) :
    words = [] ∨ (∃ word rest, words = word :: rest ∧ IsPlain word) ∨
      (∃ redirect front rest, words = front ++ rest ∧ Forms redirect front) ∨
      ∃ kind, LacksOperand kind words := by
  cases words with
  | nil => exact .inl rfl
  | cons word rest =>
    cases hword : splitOperator? word with
    | none => exact .inr (.inl ⟨word, rest, rfl, (splitOperator?_eq_none_iff word).mp hword⟩)
    | some operator =>
      obtain ⟨kind, glued⟩ := operator
      by_cases hglued : glued = ""
      · -- Nothing is glued to the operator, so the next word decides.
        subst hglued
        obtain rfl := eq_operator_of_splitOperator? hword
        cases rest with
        | nil => exact .inr (.inr (.inr ⟨kind, .last⟩))
        | cons target rest =>
          by_cases hplain : IsPlain target
          · exact .inr (.inr (.inl ⟨⟨kind, target⟩, _, rest, rfl, .separate hplain⟩))
          · exact .inr (.inr (.inr ⟨kind, .crowded hplain⟩))
      · exact .inr (.inr (.inl ⟨⟨kind, glued⟩, [word], rest, rfl, .glued hword hglued⟩))

/-- Induction as the words of a command are read: up to their end, or up to an operator without an
operand. -/
@[elab_as_elim]
theorem reading_induction {motive : List String → Prop} (words : List String) (nil : motive [])
    (argument : ∀ word rest, IsPlain word → motive rest → motive (word :: rest))
    (redirection : ∀ redirect front rest, Forms redirect front → motive rest →
      motive (front ++ rest))
    (lacking : ∀ kind words, LacksOperand kind words → motive words) : motive words := by
  -- A redirection takes up one word or two, so the induction is on the number of words.
  induction hn : words.length using Nat.strongRecOn generalizing words with
  | ind n ih =>
    subst hn
    obtain rfl | ⟨word, rest, rfl, plain⟩ | ⟨redirect, front, rest, rfl, forms⟩ | ⟨kind, lacks⟩ :=
      first_cases words
    · exact nil
    · exact argument word rest plain (ih rest.length (by simp) rest rfl)
    · have hlt : rest.length < (front ++ rest).length := by
        rw [List.length_append]
        exact Nat.lt_add_of_pos_left forms.length_pos
      exact redirection redirect front rest forms (ih rest.length hlt rest rfl)
    · exact lacking kind words lacks

end First

/-! ## One more item in front -/

section Cons

variable {words front : List String} {asked : List (String × Except Errno κ)}
  {plan : Except RedirectionError (Plan κ)} {kind : RedirectKind} {target : String}

/-- An argument in front asks for nothing. -/
theorem IsScanOf.argument {word : String} (plain : IsPlain word)
    (h : IsScanOf words ⟨asked, plan⟩) :
    IsScanOf (word :: words) ⟨asked, plan.map (consArg word)⟩ := by
  cases h with
  | whole texts writing heq => exact .whole texts (.argument plain writing) heq
  | incomplete texts split writing heq lacks =>
    exact .incomplete texts (congrArg (word :: ·) split) (.argument plain writing) heq lacks
  | refused texts split writing heq =>
    exact .refused texts (congrArg (word :: ·) split) (.argument plain writing) heq

/-- A redirection in front whose operand is a file asks for nothing, and one whose text is captured
asks for it first. -/
theorem IsScanOf.redirection (source : Source κ) (text : List (String × κ))
    (writes : Writes ⟨kind, target⟩ front)
    (hdelimiters : ∀ items,
      delimiters (.redirection ⟨kind, target⟩ :: items) = text.map Prod.fst ++ delimiters items)
    (hbindings : ∀ items bodies,
      bindingsOf (redirects (.redirection ⟨kind, target⟩ :: items)) (text.map Prod.snd ++ bodies) =
        binding kind target source :: bindingsOf (redirects items) bodies)
    (h : IsScanOf words ⟨asked, plan⟩) :
    IsScanOf (front ++ words)
      ⟨text.map captured ++ asked, plan.map (consBinding (binding kind target source))⟩ := by
  cases h with
  | @whole items texts writing heq =>
    have := IsScanOf.whole (text ++ texts) (writes _ _ writing)
      (by rw [hdelimiters, heq, List.map_append])
    rwa [List.map_append, List.map_append, hbindings] at this
  | incomplete texts split writing heq lacks =>
    subst split
    have := IsScanOf.incomplete (text ++ texts) (List.append_assoc ..).symm (writes _ _ writing)
      (by rw [hdelimiters, heq, List.map_append]) lacks
    rwa [List.map_append] at this
  | @refused items read behind delimiter cause texts split writing heq =>
    subst split
    have := @IsScanOf.refused κ _ _ _ behind delimiter cause (text ++ texts)
      (List.append_assoc ..).symm (writes _ _ writing)
      (by rw [hdelimiters, heq, List.map_append, List.append_assoc])
    rwa [List.map_append, List.append_assoc] at this

/-- A redirection in front whose text is refused ends the reading. -/
theorem isScanOf_refusal (cause : Errno) (writes : Writes ⟨.heredoc, target⟩ front) :
    IsScanOf (front ++ words)
      (⟨[(target, .error cause)], .error (.heredoc cause)⟩ : Scan κ) := by
  have writing := writes [] [] .nil
  rw [List.append_nil] at writing
  exact .refused [] rfl writing rfl

end Cons

/-! ## What resolving asks for -/

section Resolve

variable (capture : Capture σ κ)

/-- What is asked for an operand, and how what is behind it is read. -/
theorem isScanOf_behind {kind : RedirectKind} {target : String} {front words : List String}
    (writes : Writes ⟨kind, target⟩ front)
    (ih : ∀ s list, ∃ asked,
      resolve capture.answered words (s, list) =
          ((resolve capture words s).1, (resolve capture words s).2, list ++ asked) ∧
        IsScanOf words ⟨asked, (resolve capture words s).1⟩)
    (s : σ) (list : List (String × Except Errno κ)) :
    ∃ asked,
      resolveBehind capture.answered ⟨kind, target⟩ words (s, list) =
          ((resolveBehind capture ⟨kind, target⟩ words s).1,
            (resolveBehind capture ⟨kind, target⟩ words s).2, list ++ asked) ∧
        IsScanOf (front ++ words) ⟨asked, (resolveBehind capture ⟨kind, target⟩ words s).1⟩ := by
  cases kind with
  | heredoc =>
    rcases hcapture : capture target s with ⟨cause | body, after⟩
    · -- The text is refused, and nothing is read behind it.
      refine ⟨[(target, .error cause)], ?_, ?_⟩
      · simp [resolveBehind, Source.ofOperand, Capture.answered_apply, hcapture]
      · simpa [resolveBehind, Source.ofOperand, hcapture] using isScanOf_refusal cause writes
    · obtain ⟨asked, hresolve, hscan⟩ := ih after (list ++ [(target, .ok body)])
      refine ⟨(target, .ok body) :: asked, ?_, ?_⟩
      · simp [resolveBehind, Source.ofOperand, Capture.answered_apply, hcapture, hresolve]
      · have := hscan.redirection (.captured body) [(target, body)] writes (fun _ => rfl)
          (fun _ _ => rfl)
        simpa [resolveBehind, Source.ofOperand, hcapture, captured] using this
  | _ =>
    obtain ⟨asked, hresolve, hscan⟩ := ih s list
    refine ⟨asked, ?_, ?_⟩
    · simp [resolveBehind, Source.ofOperand, hresolve]
    · have := hscan.redirection (.file target _) [] writes (fun _ => rfl) (fun _ _ => rfl)
      simpa [resolveBehind, Source.ofOperand] using this

/-- **What resolving asks for**, with the answers, is a reading of the words, which comes to what is
resolved. Listing it changes nothing. -/
theorem resolve_answered (words : List String) (s : σ) (list : List (String × Except Errno κ)) :
    ∃ asked,
      resolve capture.answered words (s, list) =
          ((resolve capture words s).1, (resolve capture words s).2, list ++ asked) ∧
        IsScanOf words ⟨asked, (resolve capture words s).1⟩ := by
  induction words using reading_induction generalizing s list with
  | nil => exact ⟨[], by simp, by simpa using .whole [] .nil rfl⟩
  | argument word rest plain ih =>
    obtain ⟨asked, hrest, hscan⟩ := ih s list
    refine ⟨asked, by simp [resolve_argument _ _ _ plain, hrest], ?_⟩
    rw [resolve_argument _ _ _ plain]
    exact hscan.argument plain
  | redirection redirect front rest forms ih =>
    rw [forms.resolve_append, forms.resolve_append]
    exact isScanOf_behind capture forms.writes ih s list
  | lacking kind words lacks =>
    refine ⟨[], by simp [resolve_of_lacksOperand _ lacks], ?_⟩
    rw [resolve_of_lacksOperand _ lacks]
    exact .incomplete [] (List.nil_append _).symm .nil rfl lacks

/-- What resolving the commands of a pipeline asks for is what each of them asks for, in order. -/
theorem resolveAll_answered (commands : List (List String)) (s : σ)
    (list : List (String × Except Errno κ)) :
    ∃ scans : List (Scan κ), List.Forall₂ IsScanOf commands scans ∧
      (resolveAll capture commands s).1 = scans.map Scan.plan ∧
      resolveAll capture.answered commands (s, list) =
        (scans.map Scan.plan, (resolveAll capture commands s).2,
          list ++ scans.flatMap Scan.asked) := by
  induction commands generalizing s list with
  | nil => exact ⟨[], .nil, rfl, by simp [resolveAll]⟩
  | cons words rest ih =>
    obtain ⟨asked, hwords, hscan⟩ := resolve_answered capture words s list
    obtain ⟨scans, hscans, hplans, hrest⟩ := ih (resolve capture words s).2 (list ++ asked)
    refine ⟨⟨asked, (resolve capture words s).1⟩ :: scans, .cons hscan hscans, ?_, ?_⟩
    · simp [resolveAll, hplans]
    · simp [resolveAll, hwords, hrest]

end Resolve

end Plan

end PipeShell
