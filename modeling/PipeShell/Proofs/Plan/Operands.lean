import PipeShell.Proofs.Plan.Stopping

/-!
# Operands that begin with an operator

What has been resolved holds no operator among its arguments. Among the targets of its redirections
it may: an operand that is a word of its own is looked at, but one that is glued to its operator is
not. So `< >x` lacks an operand, and `<>x` reads from a file whose name is `>x`.

## Main definitions

* `overlaid? word`: the redirection that a word is if behind its operator comes another one
* `Plan.overlaid`: the redirections whose targets begin with an operator

## Main results

* `operators_left`: where the operators are that resolving leaves
* `operator_is_target`: there are such
-/

namespace PipeShell

variable {σ κ : Type}

/-- The redirection that a word is if behind its operator, the longest that it begins with, comes
another one. -/
def overlaid? (word : String) : Option Redirect :=
  (splitOperator? word).bind fun (kind, target) =>
    if IsPlain target then none else some ⟨kind, target⟩

namespace Plan

/-- The redirections of a plan whose targets begin with an operator. -/
def overlaid (plan : Plan κ) : List Redirect :=
  (plan.bindings.map Binding.redirect).filter fun redirect => ¬ IsPlain redirect.target

/-- A plan holds no operators but those that are left in the words. -/
structure LeavesOperators (words : List String) (plan : Plan κ) : Prop where
  args_plain : ∀ arg ∈ plan.args, IsPlain arg
  overlaid_eq : plan.overlaid = words.filterMap overlaid?

namespace LeavesOperators

variable {words front : List String} {plan : Plan κ}

theorem nil : LeavesOperators [] (.empty : Plan κ) := ⟨by simp [empty], rfl⟩

theorem argument {word : String} (plain : IsPlain word) (h : LeavesOperators words plan) :
    LeavesOperators (word :: words) (plan.consArg word) where
  args_plain := List.forall_mem_cons.mpr ⟨plain, h.args_plain⟩
  overlaid_eq := by
    have hword : overlaid? word = none := by
      simp [overlaid?, (splitOperator?_eq_none_iff word).mpr plain]
    rw [List.filterMap_cons_none hword, ← h.overlaid_eq]
    rfl

/-- Only a glued operand can begin with an operator. -/
theorem filterMap_overlaid? {redirect : Redirect} (forms : Forms redirect front) :
    front.filterMap overlaid? = [redirect].filter fun redirect => ¬ IsPlain redirect.target := by
  cases forms with
  | @glued kind target word split nonempty =>
    by_cases hplain : IsPlain target <;> simp [overlaid?, split, hplain]
  | @separate kind target plain =>
    have hempty : IsPlain "" := by decide
    simp [overlaid?, hempty, (splitOperator?_eq_none_iff target).mpr plain, plain]

theorem redirection {kind : RedirectKind} {target : String} (forms : Forms ⟨kind, target⟩ front)
    (source : Source κ) (h : LeavesOperators words plan) :
    LeavesOperators (front ++ words) (plan.consBinding (binding kind target source)) where
  args_plain := h.args_plain
  overlaid_eq := by
    rw [List.filterMap_append, filterMap_overlaid? forms, ← h.overlaid_eq, overlaid, overlaid,
      ← List.filter_append]
    rfl

end LeavesOperators

section Resolve

variable {capture : Capture σ κ} {words : List String} {s after : σ} {plan : Plan κ}

/-- What is resolved with a redirection in front has been resolved behind it. -/
theorem exists_of_resolveBehind_eq_ok {redirect : Redirect}
    (h : resolveBehind capture redirect words s = (.ok plan, after)) :
    ∃ source s' behind, resolve capture words s' = (.ok behind, after) ∧
      plan = behind.consBinding (binding redirect.kind redirect.target source) := by
  unfold resolveBehind at h
  split at h
  · cases h
  · rename_i source s' hsource
    obtain ⟨behind, hbehind, rfl, rfl⟩ := exists_of_map_eq_ok h
    exact ⟨source, s', behind, Prod.ext hbehind rfl, rfl⟩

theorem leavesOperators_of_resolve (h : resolve capture words s = (.ok plan, after)) :
    LeavesOperators words plan := by
  induction words using reading_induction generalizing s plan with
  | nil =>
    rw [resolve_nil] at h
    cases h
    exact .nil
  | argument word rest plain ih =>
    rw [resolve_argument capture rest s plain] at h
    obtain ⟨behind, hbehind, rfl, rfl⟩ := exists_of_map_eq_ok h
    exact (ih (Prod.ext hbehind rfl)).argument plain
  | redirection redirect front rest forms ih =>
    rw [forms.resolve_append] at h
    obtain ⟨source, s', behind, hbehind, rfl⟩ := exists_of_resolveBehind_eq_ok h
    exact (ih hbehind).redirection forms source
  | lacking kind words lacks =>
    rw [resolve_of_lacksOperand capture lacks] at h
    cases h

/-- What is resolved lacks no operand. -/
theorem gap?_eq_none_of_resolve (h : resolve capture words s = (.ok plan, after)) :
    gap? words = none := by
  obtain ⟨planned, hplanned⟩ := exists_plannedBy κ words
  rw [hplanned] at h
  cases hgap : gap? words with
  | none => rfl
  | some kind =>
    rcases hall : (capture.all (delimitersOf words) s).1 with cause | texts <;>
      simp [hall, outcome, hgap] at h

/-- What comes behind a bare operator is looked at. -/
theorem isPlain_of_gap?_eq_none {kind : RedirectKind} {next : String} (h : gap? words = none)
    (hnext : [kind.operator, next] <:+: words) : IsPlain next := by
  obtain ⟨front, rest, rfl⟩ := hnext
  by_contra hplain
  -- The words from this operator on would be a gap.
  have hsuffix : kind.operator :: next :: rest ∈
    (front ++ [kind.operator, next] ++ rest).tails := by
    rw [List.mem_tails]
    exact ⟨front, by simp⟩
  have hnone := List.findSome?_eq_none_iff.mp h _ hsuffix
  rw [lacking?_eq_some_iff.mpr (.crowded hplain)] at hnone
  cases hnone

/-- **The operators that are left** by resolving are no arguments. They begin the targets of the
redirections whose words go on with another operator behind their own, and of no others. Behind an
operator that is a word of its own none is left. -/
theorem operators_left (h : resolve capture words s = (.ok plan, after)) :
    (∀ arg ∈ plan.args, IsPlain arg) ∧
    plan.overlaid = words.filterMap overlaid? ∧
    ∀ kind next, [RedirectKind.operator kind, next] <:+: words → IsPlain next :=
  ⟨(leavesOperators_of_resolve h).args_plain, (leavesOperators_of_resolve h).overlaid_eq,
    fun _ _ => isPlain_of_gap?_eq_none (gap?_eq_none_of_resolve h)⟩

end Resolve

/-- Of three redirections two have an operand that is glued to its operator and begins with
another. -/
def overlaidPlan : Plan Nat :=
  ⟨["cat"], [binding .input ">x" (.file ">x" .input), binding .heredoc "<E" (.captured 0),
    binding .output "out" (.file "out" .output)]⟩

theorem operators_left_overlaidPlan :
    resolve (fun _ n => (.ok n, n + 1)) ["cat", "<>x", "<<<E", ">", "out"] 0 =
      (.ok overlaidPlan, 1) ∧
    overlaidPlan.overlaid = [⟨.input, ">x"⟩, ⟨.heredoc, "<E"⟩] ∧ IsPlain "out" := by
  have hresolve : resolve (fun _ n => (.ok n, n + 1)) ["cat", "<>x", "<<<E", ">", "out"] 0 =
      (.ok overlaidPlan, 1) := rfl
  have hwords : ["cat", "<>x", "<<<E", ">", "out"].filterMap overlaid? =
      [⟨.input, ">x"⟩, ⟨.heredoc, "<E"⟩] := by decide +kernel
  obtain ⟨-, hoverlaid, hplain⟩ := operators_left hresolve
  exact ⟨hresolve, hoverlaid.trans hwords, hplain .output "out" ⟨["cat", "<>x", "<<<E"], [], rfl⟩⟩

/-- A word that goes on with another operator behind its own is a redirection to a name that begins
with an operator. -/
theorem operator_is_target :
    ¬ ∀ (words : List String) (plan : Plan Unit),
      resolve (fun _ s => (.ok (), s)) words () = (.ok plan, ()) →
        (∀ arg ∈ plan.args, IsPlain arg) ∧
          ∀ binding ∈ plan.bindings, IsPlain binding.redirect.target := by
  intro h
  have htarget := (h ["cat", "<>x"] ⟨["cat"], [binding .input ">x" (.file ">x" .input)]⟩ rfl).2 _
    List.mem_cons_self
  exact absurd htarget (by decide)

end Plan

end PipeShell
