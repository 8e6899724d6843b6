import PipeShell.Machine.Stream
import PipeShell.Proofs.Machine.Growth
import PipeShell.Proofs.Plan.Capturing
import PipeShell.Proofs.Plan.Rendering

/-!
# Plans that are ready to be carried out

What is resolved binds standard input and standard output only, and the texts that were captured for
it are there: each was there when it had been captured, and capturing others has taken none away.

## Main definitions

* `Plan.BindsStreams`: a plan binds standard streams, and its captured texts have a property
* `Plan.IsReady`: a plan binds standard streams, and its captured texts are open files

## Main results

* `Machine.Grows.capture`: capturing a text makes an open file for it
* `Plan.isReady_of_mem_resolveAll`: what the shell resolves is ready
-/

namespace PipeShell

variable {σ κ : Type}

/-- A plan binds standard input and output only, and the captured texts that it binds have a
property. -/
def Plan.BindsStreams (Q : κ → Prop) (plan : Plan κ) : Prop :=
  ∀ b ∈ plan.bindings, b.fd ≤ 1 ∧ ∀ body, b.source = .captured body → Q body

/-- A plan binds standard input and output only, and its captured texts are open files. -/
def Plan.IsReady (m : Machine) (plan : Plan Nat) : Prop := plan.BindsStreams (· < m.files.size)

/-! ## Capturing -/

namespace Machine.Grows

/-- Capturing a text makes an open file for it. -/
theorem capture (m : Machine) (cwd : NodeId) (promptText delimiter : String) :
    m.Grows (capture cwd promptText delimiter m).2 ∧
      ∀ body, (Machine.capture cwd promptText delimiter m).1 = .ok body →
        body < (Machine.capture cwd promptText delimiter m).2.files.size := by
  unfold Machine.capture hold
  split
  · rename_i hheld
    cases hfault : m.temporaryFault? cwd with
    | some cause =>
      simp only [hfault] at hheld
      cases hheld
      exact ⟨((nextDelay m).trans (complainOf _ _ _)).trans (setInput _ _), nofun⟩
    | none =>
      simp only [hfault] at hheld
      cases hheld
      refine ⟨((complainOf m _ _).trans (openNameless _ _)).trans (setInput _ _), ?_⟩
      intro body hbody
      obtain rfl := Except.ok.inj hbody
      refine Nat.lt_of_lt_of_le ?_ (setInput _ _).size_files_le
      simp [Machine.openNameless, Machine.addFile]

end Machine.Grows

/-! ## Resolving -/

namespace Plan

variable {Q : σ → κ → Prop} {capture : Capture σ κ}
  (captures : ∀ delimiter s body, (capture delimiter s).1 = .ok body →
    Q (capture delimiter s).2 body)
  (keeps : ∀ body delimiter s, Q s body → Q (capture delimiter s).2 body)

theorem targetFd_le_one (kind : RedirectKind) : kind.targetFd ≤ 1 := by
  cases kind <;> decide

include captures in
/-- A captured text has the property when it has just been captured. -/
theorem captured_of_ofOperand {kind : RedirectKind} {operand : String} {s after : σ} {body : κ}
    (h : Source.ofOperand capture kind operand s = (.ok (.captured body), after)) :
    Q after body := by
  have hcaptured := captures operand s body
  unfold Source.ofOperand at h
  split at h
  · split at h
    · rename_i heq
      rw [heq] at hcaptured
      cases h
      exact hcaptured rfl
    · cases h
  · cases h

include captures keeps

/-- It has the property still when all words have been read. -/
theorem bindsStreams_consBinding {kind : RedirectKind} {operand : String} {source : Source κ}
    {s after after' : σ} {rest : List String} {plan : Plan κ}
    (hsource : Source.ofOperand capture kind operand s = (.ok source, after))
    (hrest : resolve capture rest after = (.ok plan, after'))
    (hplan : plan.BindsStreams (Q after')) :
    (plan.consBinding (binding kind operand source)).BindsStreams (Q after') := by
  intro b hb
  rcases List.mem_cons.mp hb with rfl | hb
  · refine ⟨targetFd_le_one kind, ?_⟩
    rintro body rfl
    have hkept := resolve_invariant (keeps body) rest (captured_of_ofOperand captures hsource)
    rwa [hrest] at hkept
  · exact hplan b hb

/-- What is resolved binds standard streams, and its captured texts have the property. -/
theorem bindsStreams_of_resolve {words : List String} {s after : σ} {plan : Plan κ}
    (h : resolve capture words s = (.ok plan, after)) : plan.BindsStreams (Q after) := by
  fun_induction resolve capture words s generalizing plan with
  | case1 s =>
    cases h
    exact fun b hb => absurd hb List.not_mem_nil
  | case2 word rest s hword behind s' hrest ih =>
    obtain ⟨p, rfl, rfl, rfl⟩ := exists_of_map_eq_ok h
    have hbinds : p.BindsStreams _ := ih hrest
    exact hbinds
  | case4 word rest s kind operand hword hne source s' hsource behind s'' hrest ih =>
    obtain ⟨p, rfl, rfl, rfl⟩ := exists_of_map_eq_ok h
    exact bindsStreams_consBinding captures keeps hsource hrest (ih hrest)
  | case8 word s kind glued hword hglued operand rest hplain source s' hsource behind s'' hrest
      ih =>
    obtain ⟨p, rfl, rfl, rfl⟩ := exists_of_map_eq_ok h
    exact bindsStreams_consBinding captures keeps hsource hrest (ih hrest)
  | _ => cases h

/-- The same of all commands of a pipeline. -/
theorem bindsStreams_of_mem_resolveAll {commands : List (List String)} {s : σ} {plan : Plan κ}
    (h : .ok plan ∈ (resolveAll capture commands s).1) :
    plan.BindsStreams (Q (resolveAll capture commands s).2) := by
  induction commands generalizing s with
  | nil => exact absurd h List.not_mem_nil
  | cons words rest ih =>
    rcases List.mem_cons.mp h with hplan | hplan
    · have hfirst : plan.BindsStreams (Q (resolve capture words s).2) :=
        bindsStreams_of_resolve captures keeps (Prod.ext hplan.symm rfl)
      intro b hb
      obtain ⟨hfd, hbody⟩ := hfirst b hb
      exact ⟨hfd, fun body hsource =>
        resolveAll_invariant (keeps body) rest (hbody body hsource)⟩
    · exact ih hplan

omit captures keeps

/-- **What the shell resolves is ready** to be carried out. -/
theorem isReady_of_mem_resolveAll {cwd : Machine.NodeId} {promptText : String}
    {commands : List (List String)} {m : Machine} {plan : Plan Nat}
    (h : .ok plan ∈ (resolveAll (Machine.capture cwd promptText) commands m).1) :
    plan.IsReady (resolveAll (Machine.capture cwd promptText) commands m).2 := by
  refine bindsStreams_of_mem_resolveAll (Q := fun m body => body < m.files.size) ?_ ?_ h
  · exact fun delimiter m => (Machine.Grows.capture m cwd promptText delimiter).2
  · exact fun body delimiter m hbody =>
      Nat.lt_of_lt_of_le hbody (Machine.Grows.capture m cwd promptText delimiter).1.size_files_le

end Plan

end PipeShell
