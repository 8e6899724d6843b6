import PipeShell.Plan

/-!
# Commands as they are written

A command is a row of arguments and redirections. It can be written down in many ways: the operand
of a redirection is glued to its operator or stands behind it as a word of its own. Resolving reads
every such writing back, and it accepts nothing else.

Reading back needs operands that do not begin with an operator, or the two would run together. What
resolving accepts is a little more: a glued operand may be any text but the empty one, and an
operand that is a word of its own may be any word that does not begin with an operator, the empty
word included.

## Main definitions

* `IsPlain word`: the word does not begin with `<` or `>`
* `Plan.Item`: an argument or a redirection
* `Plan.Rendering glued separate items words`: the words are a writing of the items
* `Capture.all`: captures one text after the other
* `Capture.listed`: a capture that besides lists the delimiters

## Main results

* `resolve_of_rendering`: every writing of a command is read back
* `rendering_of_resolve`: what is resolved is a writing of what it is resolved to
* `resolve_reads_renderings`: both, with the texts that are captured on the way
* `empty_operand_resolves`: the operand of what is resolved can be empty
-/

namespace PipeShell

variable {σ κ : Type}

/-! ## Operators and words -/

/-- A word that does not begin with `<` or `>`. -/
def IsPlain (word : String) : Prop :=
  ∀ c rest, word.toList = c :: rest → isOperatorChar c = false

theorem splitOperator?_eq_none_iff (word : String) : splitOperator? word = none ↔ IsPlain word := by
  rw [← Option.not_isSome_iff_eq_none, splitOperator?_isSome_iff]
  constructor
  · intro hnone c rest hword
    exact Bool.eq_false_iff.mpr fun hc => hnone ⟨c, rest, hword, hc⟩
  · rintro hplain ⟨c, rest, hword, hc⟩
    rw [hplain c rest hword] at hc
    cases hc

instance (word : String) : Decidable (IsPlain word) :=
  decidable_of_iff _ (Option.isNone_iff_eq_none.trans (splitOperator?_eq_none_iff word))

/-- An operator in front of a plain word is read off again. -/
theorem splitOperator?_operator_append (kind : RedirectKind) {target : String}
    (h : IsPlain target) : splitOperator? (kind.operator ++ target) = some (kind, target) := by
  have hback : String.ofList target.toList = target := String.ofList_toList
  unfold splitOperator?
  rw [String.toList_append]
  -- Only what follows `<` or `>` could make a longer operator of it.
  cases hcs : target.toList with
  | nil =>
    rw [hcs] at hback
    cases kind <;> simp [RedirectKind.operator, splitOperatorChars?, hback]
  | cons c rest =>
    rw [hcs] at hback
    have hc := h c rest hcs
    simp only [isOperatorChar, Bool.or_eq_false_iff, beq_eq_false_iff_ne, ne_eq] at hc
    cases kind <;> simp [RedirectKind.operator, splitOperatorChars?, hc, hback]

/-- A word that begins with an operator is the operator and the rest. -/
theorem eq_operator_append_of_splitOperator? {word rest : String} {kind : RedirectKind}
    (h : splitOperator? word = some (kind, rest)) : word = kind.operator ++ rest := by
  obtain ⟨⟨found, cs⟩, hchars, heq⟩ := Option.map_eq_some_iff.mp h
  obtain ⟨rfl, rfl⟩ := Prod.mk.inj heq
  apply String.toList_injective
  rw [String.toList_append, String.toList_ofList]
  unfold splitOperatorChars? at hchars
  split at hchars <;> cases hchars <;> assumption

/-! ## Captures in a row -/

namespace Capture

/-- Captures one text after the other, until one of them fails. -/
def all (capture : Capture σ κ) : (delimiters : List String) → σ → Except Errno (List κ) × σ
  | [], s => (.ok [], s)
  | delimiter :: rest, s =>
    match capture delimiter s with
    | (.error cause, s) => (.error cause, s)
    | (.ok body, s) =>
      let (bodies, s) := all capture rest s
      (bodies.map (body :: ·), s)

/-- The same capture, which besides lists the delimiters that it is asked for. -/
def listed (capture : Capture σ κ) : Capture (σ × List String) κ := fun delimiter s =>
  let (body, after) := capture delimiter s.1
  (body, after, s.2 ++ [delimiter])

theorem all_cons_eq_ok_iff (capture : Capture σ κ) (delimiter : String) (rest : List String)
    (s after : σ) (bodies : List κ) :
    all capture (delimiter :: rest) s = (.ok bodies, after) ↔
      ∃ body s' others, capture delimiter s = (.ok body, s') ∧
        all capture rest s' = (.ok others, after) ∧ bodies = body :: others := by
  rw [all]
  constructor
  · intro h
    split at h
    · cases h
    · rename_i body s' hbody
      obtain ⟨hbodies, rfl⟩ := Prod.mk.inj h
      cases hothers : (all capture rest s').1 with
      | error cause => simp [hothers, Except.map] at hbodies
      | ok others =>
        rw [hothers] at hbodies
        exact ⟨body, s', others, hbody, Prod.ext hothers rfl, (Except.ok.inj hbodies).symm⟩
  · rintro ⟨body, s', others, hbody, hothers, rfl⟩
    simp [hbody, hothers, Except.map]

/-- What a listed capture lists is what it is asked for. -/
theorem all_listed (capture : Capture σ κ) {delimiters : List String} {s after : σ}
    {bodies : List κ} (h : all capture delimiters s = (.ok bodies, after)) (list : List String) :
    all capture.listed delimiters (s, list) = (.ok bodies, after, list ++ delimiters) := by
  induction delimiters generalizing s bodies list with
  | nil =>
    cases h
    simp [all]
  | cons delimiter rest ih =>
    obtain ⟨body, s', others, hbody, hothers, rfl⟩ := (all_cons_eq_ok_iff ..).mp h
    have := ih hothers (list ++ [delimiter])
    simp [all, listed, hbody, this, Except.map]

end Capture

namespace Plan

/-! ## What the words of a command come to -/

/-- What a redirection comes to, and the words behind it. -/
def resolveBehind (capture : Capture σ κ) (redirect : Redirect) (rest : List String) (s : σ) :
    Except RedirectionError (Plan κ) × σ :=
  match Source.ofOperand capture redirect.kind redirect.target s with
  | (.error e, s) => (.error e, s)
  | (.ok source, s) =>
    let (plan, s) := resolve capture rest s
    (plan.map (consBinding (binding redirect.kind redirect.target source)), s)

section Words

variable (capture : Capture σ κ) (rest : List String) (s : σ)

@[simp] theorem resolve_nil : resolve capture [] s = (.ok .empty, s) := by
  rw [resolve]

theorem resolve_argument {word : String} (h : IsPlain word) :
    resolve capture (word :: rest) s =
      ((resolve capture rest s).1.map (consArg word), (resolve capture rest s).2) := by
  rw [resolve, (splitOperator?_eq_none_iff word).mpr h]

theorem resolve_glued {word target : String} {kind : RedirectKind}
    (h : splitOperator? word = some (kind, target)) (hne : target ≠ "") :
    resolve capture (word :: rest) s = resolveBehind capture ⟨kind, target⟩ rest s := by
  rw [resolve, h]
  simp only [if_pos hne]
  rfl

theorem resolve_separate {word target : String} {kind : RedirectKind}
    (h : splitOperator? word = some (kind, "")) (hplain : IsPlain target) :
    resolve capture (word :: target :: rest) s = resolveBehind capture ⟨kind, target⟩ rest s := by
  rw [resolve, h]
  simp only [(splitOperator?_eq_none_iff target).mpr hplain]
  rfl

end Words

/-! ## Items and their writings -/

/-- One part of a command. -/
inductive Item where
  | argument (word : String)
  | redirection (redirect : Redirect)
  deriving DecidableEq, Repr

namespace Item

/-- The word of an argument. -/
def argument? : Item → Option String
  | argument word => some word
  | redirection _ => none

/-- The redirection that an item is. -/
def redirect? : Item → Option Redirect
  | argument _ => none
  | redirection redirect => some redirect

end Item

/-- The delimiter of a redirection whose text is captured. -/
def delimiter? : Redirect → Option String
  | ⟨.heredoc, target⟩ => some target
  | _ => none

/-- The arguments among the items, in order. -/
def arguments (items : List Item) : List String := items.filterMap Item.argument?

/-- The redirections among the items, in order. -/
def redirects (items : List Item) : List Redirect := items.filterMap Item.redirect?

/-- The delimiters of the texts to be captured, in order. -/
def delimiters (items : List Item) : List String := (redirects items).filterMap delimiter?

/-- The bindings of redirections, given the captured texts: each has its own descriptor, and is
bound to the next text or to the file that it names. -/
def bindingsOf : List Redirect → (bodies : List κ) → List (Binding κ)
  | [], _ => []
  | ⟨.heredoc, target⟩ :: rest, bodies =>
    match bodies with
    | [] => []
    | body :: bodies => binding .heredoc target (.captured body) :: bindingsOf rest bodies
  | ⟨kind, target⟩ :: rest, bodies =>
    binding kind target (.file target kind) :: bindingsOf rest bodies

/-- The words are a writing of the items. Which operands may be glued to their operators, and which
may stand behind them, is left open. -/
inductive Rendering (glued separate : String → Prop) : List Item → List String → Prop
  | nil : Rendering glued separate [] []
  | argument {word items words} (plain : IsPlain word)
    (rest : Rendering glued separate items words) :
    Rendering glued separate (.argument word :: items) (word :: words)
  | glued {kind target items words} (operand : glued target)
    (rest : Rendering glued separate items words) :
    Rendering glued separate (.redirection ⟨kind, target⟩ :: items)
      ((kind.operator ++ target) :: words)
  | separate {kind target items words} (operand : separate target)
    (rest : Rendering glued separate items words) :
    Rendering glued separate (.redirection ⟨kind, target⟩ :: items)
      (kind.operator :: target :: words)

/-- A text that can stand as an operand wherever operands can. -/
def IsOperand (target : String) : Prop := target ≠ "" ∧ IsPlain target

instance (target : String) : Decidable (IsOperand target) :=
  inferInstanceAs (Decidable (_ ∧ _))

theorem Rendering.imp {glued glued' separate separate' : String → Prop} {items : List Item}
    {words : List String} (h : Rendering glued separate items words)
    (hglued : ∀ target, glued target → glued' target)
    (hseparate : ∀ target, separate target → separate' target) :
    Rendering glued' separate' items words := by
  induction h with
  | nil => exact .nil
  | argument plain rest ih => exact .argument plain ih
  | glued operand rest ih => exact .glued (hglued _ operand) ih
  | separate operand rest ih => exact .separate (hseparate _ operand) ih

/-! ## What items are bound to -/

/-- Capturing the texts of the items, one after the other, gives these bindings. -/
def Binds (capture : Capture σ κ) (items : List Item) (s : σ) (bindings : List (Binding κ))
    (after : σ) : Prop :=
  ∃ bodies, capture.all (delimiters items) s = (.ok bodies, after) ∧
    bindings = bindingsOf (redirects items) bodies

section Binds

variable {capture : Capture σ κ} {items : List Item} {s after : σ} {bindings : List (Binding κ)}

@[simp] theorem binds_nil : Binds capture [] s bindings after ↔ bindings = [] ∧ after = s := by
  constructor
  · rintro ⟨bodies, hall, rfl⟩
    cases hall
    exact ⟨rfl, rfl⟩
  · rintro ⟨rfl, rfl⟩
    exact ⟨[], rfl, rfl⟩

@[simp] theorem binds_argument (word : String) :
    Binds capture (.argument word :: items) s bindings after ↔
      Binds capture items s bindings after := Iff.rfl

/-- The operand of a redirection comes first, and what is behind it afterwards. -/
theorem binds_redirection (kind : RedirectKind) (target : String) :
    Binds capture (.redirection ⟨kind, target⟩ :: items) s bindings after ↔
      ∃ source s' others, Source.ofOperand capture kind target s = (.ok source, s') ∧
        Binds capture items s' others after ∧ bindings = binding kind target source :: others := by
  cases kind with
  | heredoc =>
    constructor
    · rintro ⟨bodies, hall, rfl⟩
      obtain ⟨body, s', others, hbody, hothers, rfl⟩ := (Capture.all_cons_eq_ok_iff ..).mp hall
      exact ⟨.captured body, s', _, by simp [Source.ofOperand, hbody], ⟨others, hothers, rfl⟩, rfl⟩
    · rintro ⟨source, s', others, hsource, ⟨bodies, hall, rfl⟩, rfl⟩
      simp only [Source.ofOperand] at hsource
      split at hsource
      · rename_i body s'' hbody
        cases hsource
        exact ⟨body :: bodies, (Capture.all_cons_eq_ok_iff ..).mpr ⟨body, s', bodies, hbody, hall,
          rfl⟩, rfl⟩
      · cases hsource
  | _ =>
    -- A file is neither opened nor captured here.
    constructor
    · rintro ⟨bodies, hall, rfl⟩
      exact ⟨_, s, _, rfl, ⟨bodies, hall, rfl⟩, rfl⟩
    · rintro ⟨source, s', others, hsource, ⟨bodies, hall, rfl⟩, rfl⟩
      cases hsource
      exact ⟨bodies, hall, rfl⟩

end Binds

/-! ## Reading back -/

section Reading

variable {capture : Capture σ κ} {items : List Item} {words : List String} {s after : σ}
  {bindings : List (Binding κ)}

/-- If what is behind a redirection is read back, so is the redirection. -/
theorem resolveBehind_of_binds {kind : RedirectKind} {target : String}
    (ih : ∀ s others, Binds capture items s others after →
      resolve capture words s = (.ok ⟨arguments items, others⟩, after))
    (h : Binds capture (.redirection ⟨kind, target⟩ :: items) s bindings after) :
    resolveBehind capture ⟨kind, target⟩ words s =
      (.ok ⟨arguments (.redirection ⟨kind, target⟩ :: items), bindings⟩, after) := by
  obtain ⟨source, s', others, hsource, hothers, rfl⟩ := (binds_redirection kind target).mp h
  simp only [resolveBehind, hsource, ih s' others hothers]
  rfl

/-- Every writing of a command is read back. -/
theorem resolve_of_rendering (h : Rendering IsOperand IsPlain items words)
    (hbinds : Binds capture items s bindings after) :
    resolve capture words s = (.ok ⟨arguments items, bindings⟩, after) := by
  induction h generalizing s bindings with
  | nil =>
    obtain ⟨rfl, rfl⟩ := binds_nil.mp hbinds
    simp [empty, arguments]
  | argument plain rest ih =>
    rw [resolve_argument capture _ s plain, ih hbinds]
    rfl
  | @glued kind target items words operand rest ih =>
    rw [resolve_glued capture words s (splitOperator?_operator_append kind operand.2) operand.1]
    exact resolveBehind_of_binds (fun s others => ih) hbinds
  | @separate kind target items words operand rest ih =>
    have hplain : IsPlain "" := by simp [IsPlain]
    have hempty : splitOperator? kind.operator = some (kind, "") := by
      simpa using splitOperator?_operator_append kind hplain
    rw [resolve_separate capture words s hempty operand]
    exact resolveBehind_of_binds (fun s others => ih) hbinds

/-- What has something put in front of it has been resolved itself. -/
theorem exists_of_map_eq_ok {put : Plan κ → Plan κ} {behind : Except RedirectionError (Plan κ)}
    {plan : Plan κ} {s' : σ} (h : (behind.map put, s') = (.ok plan, after)) :
    ∃ p, behind = .ok p ∧ plan = put p ∧ s' = after := by
  obtain ⟨hplan, rfl⟩ := Prod.mk.inj h
  cases behind with
  | error e => cases hplan
  | ok p => exact ⟨p, rfl, (Except.ok.inj hplan).symm, rfl⟩

/-- What is resolved is a writing of what it is resolved to. -/
theorem rendering_of_resolve {plan : Plan κ} (h : resolve capture words s = (.ok plan, after)) :
    ∃ items, Rendering (· ≠ "") IsPlain items words ∧ arguments items = plan.args ∧
      Binds capture items s plan.bindings after := by
  fun_induction resolve capture words s generalizing plan with
  | case1 s =>
    cases h
    exact ⟨[], .nil, rfl, binds_nil.mpr ⟨rfl, rfl⟩⟩
  | case2 word rest s hword behind s' hrest ih =>
    obtain ⟨p, rfl, rfl, rfl⟩ := exists_of_map_eq_ok h
    obtain ⟨items, hitems, hargs, hbinds⟩ := ih hrest
    refine ⟨.argument word :: items, .argument ?_ hitems, congrArg (word :: ·) hargs, hbinds⟩
    exact (splitOperator?_eq_none_iff word).mp hword
  | case4 word rest s kind target hword hne source s' hsource behind s'' hrest ih =>
    obtain ⟨p, rfl, rfl, rfl⟩ := exists_of_map_eq_ok h
    obtain ⟨items, hitems, hargs, hbinds⟩ := ih hrest
    refine ⟨.redirection ⟨kind, target⟩ :: items, ?_, hargs,
      (binds_redirection kind target).mpr ⟨source, s', p.bindings, hsource, hbinds, rfl⟩⟩
    rw [eq_operator_append_of_splitOperator? hword]
    exact .glued hne hitems
  | case8 word s kind glued hword hglued target rest hplain source s' hsource behind s'' hrest ih =>
    obtain ⟨p, rfl, rfl, rfl⟩ := exists_of_map_eq_ok h
    obtain ⟨items, hitems, hargs, hbinds⟩ := ih hrest
    refine ⟨.redirection ⟨kind, target⟩ :: items, ?_, hargs,
      (binds_redirection kind target).mpr ⟨source, s', p.bindings, hsource, hbinds, rfl⟩⟩
    -- Nothing is glued to the operator, so it is the whole word.
    obtain rfl : glued = "" := Decidable.not_not.mp hglued
    obtain rfl : word = kind.operator := by
      simpa using eq_operator_append_of_splitOperator? hword
    refine .separate ((splitOperator?_eq_none_iff target).mp ?_) hitems
    simpa using hplain
  | _ => cases h

end Reading

/-- **Resolving reads back what was written.** Every writing of a row of arguments and redirections,
operands glued to their operators or behind them, is resolved to the arguments, in order, and to the
bindings of the redirections, in order, provided that their texts can be captured; the texts asked
for are those of the redirections by `<<`, in order. Conversely, whatever is resolved is a writing
of the arguments and redirections that it is resolved to, where a glued operand is any text but the
empty one, and an operand that is a word of its own any word that does not begin with an operator.
-/
theorem resolve_reads_renderings (capture : Capture σ κ) (words : List String) (s after : σ) :
    (∀ items bodies, Rendering IsOperand IsOperand items words →
      capture.all (delimiters items) s = (.ok bodies, after) →
        resolve capture.listed words (s, []) =
          (.ok ⟨arguments items, bindingsOf (redirects items) bodies⟩, after, delimiters items)) ∧
    (∀ plan, resolve capture words s = (.ok plan, after) →
      ∃ items bodies, Rendering (· ≠ "") IsPlain items words ∧
        capture.all (delimiters items) s = (.ok bodies, after) ∧
        plan = ⟨arguments items, bindingsOf (redirects items) bodies⟩) := by
  constructor
  · intro items bodies hitems hall
    exact resolve_of_rendering (hitems.imp (fun _ h => h) (fun _ h => h.2))
      ⟨bodies, by simpa using Capture.all_listed capture hall [], rfl⟩
  · intro plan h
    obtain ⟨items, hitems, hargs, bodies, hall, hbindings⟩ := rendering_of_resolve h
    refine ⟨items, bodies, hitems, hall, ?_⟩
    rw [hargs, ← hbindings]

/-- A command that sorts a captured text and keeps the result in two files. -/
theorem resolve_reads_sorting :
    (resolve (Capture.listed fun _ n => (.ok n, n + 1)) ["sort", "<<EOF", ">>", "log", "-r", ">out"]
        (0, []) =
      (.ok ⟨["sort", "-r"], [binding .heredoc "EOF" (.captured 0),
        binding .append "log" (.file "log" .append),
        binding .output "out" (.file "out" .output)]⟩, 1, ["EOF"])) ∧
    ∃ items bodies, Rendering (· ≠ "") IsPlain items
        ["sort", "<<EOF", ">>", "log", "-r", ">out"] ∧
      Capture.all (fun _ n => (.ok n, n + 1)) (delimiters items) 0 = (.ok bodies, 1) ∧
      (⟨["sort", "-r"], [binding .heredoc "EOF" (.captured 0),
        binding .append "log" (.file "log" .append),
        binding .output "out" (.file "out" .output)]⟩ : Plan Nat) =
        ⟨arguments items, bindingsOf (redirects items) bodies⟩ := by
  constructor
  · refine (resolve_reads_renderings _ _ 0 1).1 [.argument "sort", .redirection ⟨.heredoc, "EOF"⟩,
      .redirection ⟨.append, "log"⟩, .argument "-r", .redirection ⟨.output, "out"⟩] [0] ?_ rfl
    -- A glued word is the text of its operator with the operand behind it.
    refine .argument (by decide) ?_
    change Rendering IsOperand IsOperand _ ((RedirectKind.heredoc.operator ++ "EOF") :: _)
    refine .glued (by decide) (.separate (by decide) (.argument (by decide) ?_))
    change Rendering IsOperand IsOperand _ [RedirectKind.output.operator ++ "out"]
    exact .glued (by decide) .nil
  · exact (resolve_reads_renderings _ _ 0 1).2 _ rfl

/-- A bare operator takes even the empty word as its operand, so what is resolved need not be a
writing with operands that are texts. -/
theorem empty_operand_resolves :
    ¬ ∀ (words : List String) (plan : Plan Unit),
      resolve (fun _ s => (.ok (), s)) words () = (.ok plan, ()) →
        ∃ items, Rendering (· ≠ "") IsOperand items words := by
  intro h
  obtain ⟨items, hitems⟩ := h ["<", ""] ⟨[], [binding .input "" (.file "" .input)]⟩ rfl
  generalize hwords : ["<", ""] = words at hitems
  cases hitems with
  | nil => cases hwords
  | argument plain rest =>
    cases hwords
    exact absurd plain (by decide)
  | @glued kind target items words operand rest =>
    -- The whole word is the operator, so there is nothing glued to it.
    have hlength := congrArg String.length (List.cons.inj hwords).1
    rw [String.length_append] at hlength
    have hpos : 1 ≤ kind.operator.length := by cases kind <;> decide
    refine operand (String.length_eq_zero_iff.mp ?_)
    have : "<".length = 1 := rfl
    omega
  | @separate kind target items words operand rest =>
    exact operand.1 (List.cons.inj (List.cons.inj hwords).2).1.symm

end Plan

end PipeShell
