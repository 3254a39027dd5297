import ImageBuild.Proofs.Plan.Failure
import ImageBuild.Proofs.Plan.Phases

/-!
# Which tags have to be references

A step publishes the image under all tags of a request, and the first of them has
to be a reference: the planner needs its registry. The others are handed on as
they are. So all tags that are published are references if the additional ones
are, and the outcome of a plan does not depend on these. Both are said by
`plan_checks_primaryTag`.
-/
namespace ImageBuild

namespace ImageReference

/-- Whether a text spells a reference. -/
def Spelled (s : String) : Prop := ∃ reference, parse s = .ok reference

instance (s : String) : Decidable (Spelled s) := decidable_of_iff _ exists_eq_ok_iff.symm

end ImageReference

/-- A pod is planned only where all tags are references, and these are what its last
step on the image is told to publish. A tag that is no reference is named by the
error, once there is a version to build with. -/
structure BuildRequest.TagsChecked (r : BuildRequest) (ctx : PlanContext) : Prop where
  spelled : ∀ pod, plan r ctx = .ok pod → ∀ t ∈ r.tags, ImageReference.Spelled t
  published : ∀ pod, plan r ctx = .ok pod → ∀ c ∈ pod.spec.initContainers,
    c.name = "export" ∨ c.name = "rebase" → ∃ lead, c.args = some (lead ++ r.tags)
  refused : ∀ t ∈ r.tags, ∀ cause, ImageReference.parse t = .error cause →
    Negotiation.choose (Negotiation.supportedFor r.signed ctx.builder.isWindows)
      ctx.config.maxPlatformApi ctx.builder.platformApis ≠ none →
      plan r ctx = .error (.invalidReference t cause)

variable {r : BuildRequest} {ctx : PlanContext} {e : PlanError} {pod : Pod}

theorem spelled_tag_of_plan (h : plan r ctx = .ok pod) : ImageReference.Spelled r.tag := by
  obtain ⟨b, rfl, -, hb, -⟩ := plan_cases h
  obtain ⟨reference, hparse, -⟩ := hb.hosted
  exact ⟨reference, hparse⟩

theorem BuildRequest.tags_eq_cons (h : r.tags ≠ []) : r.tags = r.tag :: r.additionalTags := by
  obtain ⟨tag, tags, hcons⟩ := List.exists_cons_of_ne_nil h
  simp [BuildRequest.tag, BuildRequest.additionalTags, hcons]

theorem tags_ne_nil_of_plan (h : plan r ctx = .ok pod) : r.tags ≠ [] := by
  obtain ⟨b, rfl, -, hb, -⟩ := plan_cases h
  exact hb.tagged

/-- Of the steps of a build, the last one publishes the image. -/
theorem PlanBasis.eq_exportStep_of_publishes {b : PlanBasis} {bindings : List Attachment}
    {epoch : Option Int64} {c : Container} (hc : c ∈ b.buildSteps bindings epoch)
    (hname : c.name = "export" ∨ c.name = "rebase") : c = b.exportStep epoch := by
  rcases hname with hname | hname
  · exact PlanBasis.eq_exportStep hc hname
  · rcases b.mem_buildSteps.1 hc with rfl | rfl | rfl | rfl | rfl | rfl
    all_goals
      simp [prepareStep, detectStep, analyzeStep, restoreStep, buildStep, exportStep,
        lifecycleStep, helperStep] at hname

/-- The step that publishes the image ends with the tags. -/
theorem published_of_plan (h : plan r ctx = .ok pod) {c : Container}
    (hc : c ∈ pod.spec.initContainers) (hname : c.name = "export" ∨ c.name = "rebase") :
    ∃ lead, c.args = some (lead ++ r.tags) := by
  obtain ⟨b, rfl, -, -, hpod⟩ := plan_cases h
  cases hpod with
  | rebase =>
    obtain rfl := List.mem_singleton.1 hc
    rw [PlanBasis.args_adapt_of_some (b := b) rfl, ← List.append_assoc]
    exact ⟨_, rfl⟩
  | build =>
    obtain ⟨d, hd, rfl⟩ := List.mem_map.1 hc
    rw [PlanBasis.adapt_name] at hname
    rw [PlanBasis.eq_exportStep_of_publishes hd hname, PlanBasis.args_adapt_of_some (b := b) rfl,
      PlanBasis.exportArgs, ← List.append_assoc]
    exact ⟨_, rfl⟩

theorem plan_eq_invalidReference {cause : ReferenceError} (htags : r.tags ≠ [])
    (hapi : Negotiation.choose (Negotiation.supportedFor r.signed ctx.builder.isWindows)
      ctx.config.maxPlatformApi ctx.builder.platformApis ≠ none)
    (h : ImageReference.parse r.tag = .error cause) :
    plan r ctx = .error (.invalidReference r.tag cause) :=
  (PlanFailure.invalidReference htags hapi h).plan_eq

/-- Where the additional tags are references, all that is due to tags is done. -/
theorem BuildRequest.tagsChecked_of_additional
    (h : ∀ t ∈ r.additionalTags, ImageReference.Spelled t) : r.TagsChecked ctx where
  spelled := by
    intro pod hplan t ht
    rw [r.tags_eq_cons (tags_ne_nil_of_plan hplan)] at ht
    rcases List.mem_cons.1 ht with rfl | ht
    · exact spelled_tag_of_plan hplan
    · exact h t ht
  published := by
    intro pod hplan c hc hname
    exact published_of_plan hplan hc hname
  refused := by
    intro t ht cause hcause hapi
    have hne : r.tags ≠ [] := List.ne_nil_of_mem ht
    rw [r.tags_eq_cons hne] at ht
    rcases List.mem_cons.1 ht with rfl | ht
    · exact plan_eq_invalidReference hne hapi hcause
    · obtain ⟨reference, hspelled⟩ := h t ht
      rw [hspelled] at hcause
      cases hcause

variable {tag : String} {others more : List String}

theorem BuildRequest.HasBasis.retag (h : { r with tags := tag :: others }.HasBasis ctx) :
    { r with tags := tag :: more }.HasBasis ctx :=
  ⟨List.cons_ne_nil tag more, h.negotiated, h.parsed⟩

/-- No reason for a failure speaks of an additional tag. -/
theorem PlanFailure.retag (h : PlanFailure { r with tags := tag :: others } ctx e) :
    PlanFailure { r with tags := tag :: more } ctx e := by
  cases h with
  | missingTag htags => exact absurd htags (List.cons_ne_nil tag others)
  | unsupportedApi htags hnone => exact .unsupportedApi (List.cons_ne_nil tag more) hnone
  | invalidReference htags hsome hparse =>
    exact .invalidReference (r := { r with tags := tag :: more }) (List.cons_ne_nil tag more) hsome
      hparse
  | missingLastBuild hbasis hr hlast himage => exact .missingLastBuild hbasis.retag hr hlast himage
  | binding hbasis hr hbindings => exact .binding hbasis.retag hr hbindings
  | invalidCreationTime hbasis hr hbindings hdirective hcause =>
    exact .invalidCreationTime (r := { r with tags := tag :: more }) hbasis.retag hr hbindings
      hdirective hcause

theorem plan_retag_eq_error_iff :
    plan { r with tags := tag :: others } ctx = .error e ↔
      plan { r with tags := tag :: more } ctx = .error e := by
  constructor
  · intro h
    exact (PlanFailure.of_plan h).retag.plan_eq
  · intro h
    exact (PlanFailure.of_plan h).retag.plan_eq

/-- A pod is planned for a primary tag that is a reference, and all that is due to tags
is done if the additional ones are references as well. Additional tags that are none go
unnoticed: whatever stands behind the primary tag, a plan fails in the same way or not
at all. -/
theorem plan_checks_primaryTag (r : BuildRequest) (ctx : PlanContext) :
    (∀ pod, plan r ctx = .ok pod → ImageReference.Spelled r.tag) ∧
      ((∀ t ∈ r.additionalTags, ImageReference.Spelled t) → r.TagsChecked ctx) ∧
      ∀ tag others more e, plan { r with tags := tag :: others } ctx = .error e ↔
        plan { r with tags := tag :: more } ctx = .error e := by
  refine ⟨?_, BuildRequest.tagsChecked_of_additional, ?_⟩
  · intro pod hplan
    exact spelled_tag_of_plan hplan
  · intro tag others more e
    exact plan_retag_eq_error_iff

theorem tagged_tagsChecked :
    (∀ t ∈ taggedRequest.additionalTags, ImageReference.Spelled t) ∧
      (∃ pod, plan taggedRequest PlanContext.linux = .ok pod) ∧
      taggedRequest.TagsChecked PlanContext.linux := by
  have hadditional : ∀ t ∈ taggedRequest.additionalTags, ImageReference.Spelled t := by
    decide +kernel
  have hplan : ∃ pod, plan taggedRequest PlanContext.linux = .ok pod :=
    exists_eq_ok_iff.2 (by decide +kernel)
  exact ⟨hadditional, hplan, (plan_checks_primaryTag taggedRequest _).2.1 hadditional⟩

/-- A request whose second tag is no reference. -/
def malformedRequest : BuildRequest :=
  { BuildRequest.ofTag "host/app" with tags := ["host/app", "Not A Tag"] }

theorem malformedTag_planned :
    ImageReference.parse "Not A Tag" = .error .malformed ∧ "Not A Tag" ∈ malformedRequest.tags ∧
      (∃ pod, plan malformedRequest PlanContext.linux = .ok pod) ∧
      ¬ malformedRequest.TagsChecked PlanContext.linux := by
  have hparse : ImageReference.parse "Not A Tag" = .error .malformed := by decide +kernel
  have hmem : "Not A Tag" ∈ malformedRequest.tags := by decide +kernel
  obtain ⟨pod, hplan⟩ : ∃ pod, plan malformedRequest PlanContext.linux = .ok pod :=
    exists_eq_ok_iff.2 (by decide +kernel)
  refine ⟨hparse, hmem, ⟨pod, hplan⟩, fun h => ?_⟩
  obtain ⟨reference, hspelled⟩ := h.spelled pod hplan "Not A Tag" hmem
  rw [hparse] at hspelled
  cases hspelled

end ImageBuild
