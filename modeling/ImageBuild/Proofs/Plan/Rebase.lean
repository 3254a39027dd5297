import ImageBuild.Proofs.Change.Decision
import ImageBuild.Proofs.Plan.Outcome
import ImageBuild.Proofs.Plan.StepPass

/-!
# Which changes are served by a rebase

The reasons of a summary reach the planner as one text. It rebases only if that
text is the reason of a moved stack alone, and since joined reasons can be told
apart again, no other change is ever served in this way. The main statement is
`plan_rebases_iff`.
-/
namespace ImageBuild

open ChangeSummary (requiredChanges ofRequired)

namespace BuildSnapshot

variable {old new : BuildSnapshot}

/-- The change of run images is a candidate, and the only one that requires a
build. -/
def OnlyStackRequired (old new : BuildSnapshot) : Prop :=
  .stack old.runImage new.runImage ∈ old.changes new ∧
    ∀ c ∈ old.changes new, c.required = .ok true ↔ c = .stack old.runImage new.runImage

theorem eq_stack_of_reason {c : Change} (h : c ∈ old.changes new) (hr : c.reason = .stack) :
    c = .stack old.runImage new.runImage := by
  rcases mem_changes h with ⟨time, rfl⟩ | ⟨a, b, rfl, -, -⟩ | rfl | rfl | rfl | rfl
  · cases hr
  · cases hr
  · cases hr
  · cases hr
  · cases hr
  · rfl

theorem reason_mem_dueReasons {c : Change} (hc : ¬ Incomparable old new) (h : c ∈ old.changes new)
    (hrequired : c.required = .ok true) : c.reason ∈ dueReasons old new := by
  rw [← reasons_requiredChanges hc]
  exact List.mem_map_of_mem (ChangeSummary.mem_requiredChanges.2 ⟨h, hrequired⟩)

theorem onlyStackRequired_iff (hc : ¬ Incomparable old new) :
    OnlyStackRequired old new ↔ dueReasons old new = [.stack] := by
  constructor
  · rintro ⟨hmem, honly⟩
    rw [dueReasons_eq_singleton_iff]
    intro r
    rw [← mem_dueReasons, ← reasons_requiredChanges hc, List.mem_map]
    constructor
    · rintro ⟨c, hrequired, rfl⟩
      obtain ⟨hcandidate, hrequired⟩ := ChangeSummary.mem_requiredChanges.1 hrequired
      rw [(honly c hcandidate).1 hrequired]
      rfl
    · rintro rfl
      exact ⟨_, ChangeSummary.mem_requiredChanges.2 ⟨hmem, (honly _ hmem).2 rfl⟩, rfl⟩
  · intro hdue
    have hreasons := (reasons_requiredChanges hc).trans hdue
    obtain ⟨c, hrequired, hc'⟩ := List.map_eq_singleton_iff.1 hreasons
    have hmem : c ∈ old.changes new ∧ c.required = .ok true := by
      rw [← ChangeSummary.mem_requiredChanges, hrequired]
      exact List.mem_singleton_self c
    have hstack := eq_stack_of_reason hmem.1 hc'
    refine ⟨hstack ▸ hmem.1, fun d hd => ⟨fun hr => ?_, fun he => ?_⟩⟩
    · have hreason := reason_mem_dueReasons hc hd hr
      rw [hdue, List.mem_singleton] at hreason
      exact eq_stack_of_reason hd hreason
    · rw [he, ← hstack]
      exact hmem.2

end BuildSnapshot

namespace PlanBasis

variable (b : PlanBasis)

theorem names_rebase (image : String) (vs : List Volume) :
    (b.pod [b.rebaseStep image] vs).spec.initContainers.map Container.name = ["rebase"] := by
  simp [pod, rebaseStep, helperStep]

/-- A build has its analyze step before or after its detect step. -/
theorem names_build (bindings : List Attachment) (epoch : Option Int64) (vs : List Volume) :
    (b.pod (b.buildSteps bindings epoch) vs).spec.initContainers.map Container.name =
      ["prepare"] ++ (if b.legacy then ["detect", "analyze"] else ["analyze", "detect"]) ++
        ["restore", "build", "export"] := by
  unfold pod buildSteps
  cases b.legacy <;>
    simp [prepareStep, detectStep, analyzeStep, restoreStep, buildStep, exportStep, lifecycleStep,
      helperStep]

end PlanBasis

/-- Whether a pod only rebases. -/
def Pod.IsRebase (p : Pod) : Prop := p.spec.initContainers.map Container.name = ["rebase"]

variable {r : BuildRequest} {ctx : PlanContext} {pod : Pod}

theorem plan_isRebase_iff (h : plan r ctx = .ok pod) :
    pod.IsRebase ↔ r.rebasable ctx.builder.stackId = true := by
  obtain ⟨b, rfl, rfl, -, hpod⟩ := plan_cases h
  cases hpod with
  | rebase hr => exact iff_of_true (b.names_rebase _ _) hr
  | @build bindings epoch hr =>
    have hnot : ¬ (b.pod (b.buildSteps bindings epoch) (b.buildVolumes bindings)).IsRebase := by
      rw [Pod.IsRebase, b.names_build]
      cases b.legacy <;> decide
    exact iff_of_false hnot (by simp [hr])

theorem BuildRequest.rebasable_iff {stack : String} :
    r.rebasable stack = true ↔
      r.reasons = BuildReason.stack.text ∧
        ∃ last, r.lastBuild = some last ∧ last.stackId = stack := by
  unfold rebasable
  cases r.lastBuild <;> simp

/-- A pod that is planned for a summary rebases exactly if a moved stack is all
that requires the build and the image before was made on the stack of the builder.
All changes that a rebase serves are then changes of the stack. -/
theorem plan_rebases_iff {old new : BuildSnapshot} {summary : ChangeSummary}
    (hs : old.summarize new = .ok summary) (hr : r.reasons = summary.reasons)
    (hp : plan r ctx = .ok pod) :
    (pod.IsRebase ↔ old.OnlyStackRequired new ∧
      ∃ last, r.lastBuild = some last ∧ last.stackId = ctx.builder.stackId) ∧
      (pod.IsRebase → ∀ c ∈ old.changes new, c.required = .ok true → c.reason = .stack) := by
  obtain ⟨hf, rfl⟩ := ChangeSummary.ofChanges_eq_ok_iff.1 hs
  have hc := BuildSnapshot.failures_changes_eq_nil_iff.1 hf
  have hreasons : r.reasons = BuildReason.stack.text ↔ old.OnlyStackRequired new := by
    rw [hr, ChangeSummary.reasons_eq_text_iff, BuildSnapshot.reasons_requiredChanges hc,
      BuildSnapshot.onlyStackRequired_iff hc]
  have hiff : pod.IsRebase ↔ old.OnlyStackRequired new ∧
      ∃ last, r.lastBuild = some last ∧ last.stackId = ctx.builder.stackId := by
    rw [plan_isRebase_iff hp, BuildRequest.rebasable_iff, hreasons]
  refine ⟨hiff, fun h c hmem hrequired => ?_⟩
  have honly := (hiff.1 h).1
  rw [(honly.2 c hmem).1 hrequired]
  rfl

/-- The request for a build after one that was made on the stack `base`. -/
def rebaseRequest : BuildRequest :=
  { BuildRequest.ofTag "host/app" with
    lastBuild := some ⟨"host/app@sha256:0", "", "base"⟩
    reasons := "STACK" }

theorem moved_stack_rebased :
    ∃ summary pod, (BuildSnapshot.atCommit "a" '0').summarize (.atCommit "a" '1') = .ok summary ∧
      rebaseRequest.reasons = summary.reasons ∧ plan rebaseRequest PlanContext.linux = .ok pod ∧
      pod.IsRebase := by
  have hc : ¬ (BuildSnapshot.atCommit "a" '0').Incomparable (.atCommit "a" '1') := by
    decide +kernel
  have hdue : (BuildSnapshot.atCommit "a" '0').dueReasons (.atCommit "a" '1') = [.stack] := by
    decide +kernel
  have hs := BuildSnapshot.summarize_eq_ok hc
  have hr : rebaseRequest.reasons = (ofRequired (requiredChanges
      ((BuildSnapshot.atCommit "a" '0').changes (.atCommit "a" '1')))).reasons :=
    (ChangeSummary.reasons_eq_text_iff.2
      ((BuildSnapshot.reasons_requiredChanges hc).trans hdue)).symm
  have hp : (plan rebaseRequest PlanContext.linux).toOption.isSome = true := by decide +kernel
  cases hplan : plan rebaseRequest PlanContext.linux with
  | error e => simp [hplan, Except.toOption] at hp
  | ok pod =>
    have hrebase := (plan_rebases_iff hs hr hplan).1.2
      ⟨(BuildSnapshot.onlyStackRequired_iff hc).2 hdue, _, rfl, rfl⟩
    exact ⟨_, pod, hs, hr, rfl, hrebase⟩

end ImageBuild
