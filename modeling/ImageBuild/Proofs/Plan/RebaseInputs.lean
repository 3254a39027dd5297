import ImageBuild.Proofs.Plan.Failure

/-!
# What a rebase reads

A rebase reads few fields of a request. Two requests that agree on these have the
same plan at any two times, and no plan for a rebase fails over the inputs of a
build. The main statement is `plan_rebase_congr`.
-/
namespace ImageBuild

/-- The requests agree on what a rebase reads. Of the two sources only the pull
secrets have to agree, of the two caches only that of a registry, if there is one. -/
structure BuildRequest.AgreesOnRebase (r s : BuildRequest) : Prop where
  name : r.name = s.name
  space : r.space = s.space
  labels : r.labels = s.labels
  tags : r.tags = s.tags
  builderSecrets : r.builder.pullSecrets = s.builder.pullSecrets
  serviceAccount : r.serviceAccount = s.serviceAccount
  sourceSecrets : r.source.source.pullSecrets = s.source.source.pullSecrets
  registryCache : r.registryCache = s.registryCache
  lastImage : r.lastBuild.map LastBuild.image = s.lastBuild.map LastBuild.image
  lastStack : r.lastBuild.map LastBuild.stackId = s.lastBuild.map LastBuild.stackId
  signing : r.signing = s.signing
  scheduling : r.scheduling = s.scheduling
  reasons : r.reasons = s.reasons
  changes : r.changes = s.changes

/-- The errors that are about the inputs of a build. -/
def PlanError.ofBuildInput : PlanError → Bool
  | .unsupportedBinding _ => true
  | .duplicateBinding _ => true
  | .invalidCreationTime _ _ => true
  | _ => false

namespace BuildRequest.AgreesOnRebase

variable {r s : BuildRequest}

theorem signed_eq (h : r.AgreesOnRebase s) : s.signed = r.signed := by
  rw [signed, signed, h.signing]

theorem previousImage_eq (h : r.AgreesOnRebase s) : s.previousImage = r.previousImage := by
  rw [previousImage, previousImage, h.lastImage]

theorem rebasable_eq (h : r.AgreesOnRebase s) (stack : String) :
    s.rebasable stack = r.rebasable stack := by
  have hany : ∀ last : Option LastBuild,
      (last.any fun b => b.stackId == stack) = (last.map LastBuild.stackId).any (· == stack) := by
    intro last
    cases last <;> rfl
  rw [rebasable, rebasable, hany, hany, h.reasons, h.lastStack]

end BuildRequest.AgreesOnRebase

/-- Only a registry cache has a tag. -/
theorem CacheStrategy.tag_select (r : BuildRequest) (windows : Bool) :
    (select r windows).tag = r.registryCache := by
  unfold select
  split
  next claim hclaim =>
    obtain ⟨claim, hcache⟩ : ∃ claim, r.cache = some (.volume claim) := by
      unfold BuildRequest.volumeCache at hclaim
      split at hclaim
      next claim hcache => exact ⟨claim, hcache⟩
      next => cases hclaim
    rw [BuildRequest.registryCache, hcache]
    rfl
  next => cases r.registryCache <;> rfl

namespace PlanBasis

/-- The basis with another request, at another time. -/
def serving (b : PlanBasis) (s : BuildRequest) (now : Int64) : PlanBasis :=
  { b with request := s, context := { b.context with now := now } }

variable {b : PlanBasis} {s : BuildRequest} {now : Int64}

theorem pulls_serving (h : b.request.AgreesOnRebase s) : (b.serving s now).pulls = b.pulls := by
  rw [pulls, pulls, h.builderSecrets, h.sourceSecrets]
  rfl

theorem notary_serving (h : b.request.AgreesOnRebase s) : (b.serving s now).notary = b.notary := by
  rw [notary, notary, h.signing]
  rfl

theorem completionStep_serving (h : b.request.AgreesOnRebase s) :
    (b.serving s now).completionStep = b.completionStep := by
  have hargs : (b.serving s now).completionArgs = b.completionArgs := by
    rw [completionArgs, completionArgs, notary_serving h, h.signing]
    rfl
  have htag : (b.serving s now).cache.tag = b.cache.tag := by
    rw [cache, cache, CacheStrategy.tag_select, CacheStrategy.tag_select, h.registryCache]
    rfl
  rw [completionStep, completionStep, hargs, htag, notary_serving h]
  rfl

theorem rebaseStep_serving (h : b.request.AgreesOnRebase s) (image : String) :
    (b.serving s now).rebaseStep image = b.rebaseStep image := by
  have hchanges : (b.serving s now).changesEnv = b.changesEnv := by
    rw [changesEnv, changesEnv, h.changes]
    rfl
  have htags : (b.serving s now).request.tags = b.request.tags := h.tags.symm
  rw [rebaseStep, rebaseStep, pulls_serving h, hchanges, htags]
  rfl

theorem rebaseVolumes_serving (h : b.request.AgreesOnRebase s) :
    (b.serving s now).rebaseVolumes = b.rebaseVolumes := by
  rw [rebaseVolumes, rebaseVolumes, notaryVolumes, notaryVolumes, pulls_serving h,
    notary_serving h]
  rfl

theorem pod_serving (h : b.request.AgreesOnRebase s) (steps : List Container)
    (volumes : List Volume) :
    (b.serving s now).pod steps volumes = b.pod steps volumes := by
  have hmetadata : metadata s = metadata b.request := by
    rw [metadata, metadata, h.name, h.space, h.labels]
  -- What a step becomes on the operating system of the builder does not depend on the request.
  have hadapt : (b.serving s now).adapt = b.adapt := rfl
  have hrequest : (b.serving s now).request = s := rfl
  have hcontext : (b.serving s now).context.builder = b.context.builder := rfl
  simp only [pod, hrequest, hcontext, hmetadata, hadapt, completionStep_serving h, h.scheduling,
    h.builderSecrets, h.serviceAccount]

theorem rebasePod_serving (h : b.request.AgreesOnRebase s) :
    (b.serving s now).rebasePod = b.rebasePod := by
  have hprevious : (b.serving s now).request.previousImage = b.request.previousImage :=
    h.previousImage_eq
  rw [rebasePod, rebasePod, hprevious]
  cases b.request.previousImage with
  | none => rfl
  | some image =>
    simp only [rebaseStep_serving h, rebaseVolumes_serving h, pod_serving h]

end PlanBasis

variable {r s : BuildRequest} {ctx : PlanContext}

theorem plan_eq_of_agreesOnRebase (h : r.AgreesOnRebase s)
    (hr : r.rebasable ctx.builder.stackId = true) (now : Int64) :
    plan s { ctx with now := now } = plan r ctx := by
  have hs : s.rebasable ctx.builder.stackId = true := by rw [h.rebasable_eq, hr]
  have hapi : PlanBasis.negotiate r ctx = PlanBasis.negotiate s { ctx with now := now } := by
    rw [PlanBasis.negotiate, PlanBasis.negotiate, h.signed_eq]
  rcases plan_pair_cases hapi h.tags with ⟨e, hplan, hlater⟩ | ⟨api, reference, -, hplan, hlater⟩
  · rw [hplan, hlater]
  · have hrequest : (⟨r, ctx, api, reference.host⟩ : PlanBasis).request.AgreesOnRebase s := h
    rw [hplan, hlater, if_pos hr, if_pos hs]
    exact PlanBasis.rebasePod_serving hrequest

theorem PlanFailure.ofBuildInput_eq_false {e : PlanError} (h : PlanFailure r ctx e)
    (hr : r.rebasable ctx.builder.stackId = true) : e.ofBuildInput = false := by
  cases h with
  | missingTag => rfl
  | unsupportedApi => rfl
  | invalidReference => rfl
  | missingLastBuild => rfl
  | binding _ hbuild => exact absurd (hr.symm.trans hbuild) (by decide)
  | invalidCreationTime _ hbuild => exact absurd (hr.symm.trans hbuild) (by decide)

/-- Two requests that agree on what a rebase reads have the same plan at any two times
if one of them is served by a rebase. The plan is then a pod that rebases, or an error
that is not about the inputs of a build. -/
theorem plan_rebase_congr (h : r.AgreesOnRebase s) (hr : r.rebasable ctx.builder.stackId = true)
    (now now' : Int64) :
    plan r { ctx with now := now } = plan s { ctx with now := now' } ∧
      (∀ pod, plan r { ctx with now := now } = .ok pod → pod.IsRebase) ∧
      ∀ e, plan r { ctx with now := now } = .error e → e.ofBuildInput = false := by
  refine ⟨?_, ?_, ?_⟩
  · exact (@plan_eq_of_agreesOnRebase r s { ctx with now := now } h hr now').symm
  · intro pod hpod
    exact (plan_isRebase_iff hpod).2 hr
  · intro e he
    exact (PlanFailure.of_plan he).ofBuildInput_eq_false hr

/-- A request that cannot be built: it binds a config map as a service, and its creation
time is not a number. -/
def unbuildableRequest : BuildRequest :=
  { rebaseRequest with
    builder := ⟨"host/next-builder", ["pull"]⟩
    source := ⟨.blob ⟨"https://host/app.zip", 1, true⟩, some "part"⟩
    cache := some (.volume "claim")
    lastBuild := some ⟨"host/app@sha256:0", "host/cache@sha256:0", "base"⟩
    services := [.service ⟨"ConfigMap", "settings", "v1"⟩]
    env := [.of "MODE" "test"]
    creationTime := "never"
    defaultProcess := "worker" }

theorem unbuildable_rebased :
    rebaseRequest.AgreesOnRebase unbuildableRequest ∧
      rebaseRequest.rebasable PlanContext.linux.builder.stackId = true ∧
      ∃ pod, plan rebaseRequest { PlanContext.linux with now := 1 } = .ok pod ∧
        plan unbuildableRequest { PlanContext.linux with now := 2 } = .ok pod ∧ pod.IsRebase := by
  have hagrees : rebaseRequest.AgreesOnRebase unbuildableRequest :=
    ⟨rfl, rfl, rfl, rfl, rfl, rfl, rfl, rfl, rfl, rfl, rfl, rfl, rfl, rfl⟩
  have hr : rebaseRequest.rebasable PlanContext.linux.builder.stackId = true := by decide
  obtain ⟨pod, hpod⟩ : ∃ pod, plan rebaseRequest { PlanContext.linux with now := 1 } = .ok pod :=
    exists_eq_ok_iff.2 (by decide +kernel)
  obtain ⟨hsame, hrebase, -⟩ := plan_rebase_congr hagrees hr 1 2
  exact ⟨hagrees, hr, pod, hpod, hsame.symm.trans hpod, hrebase pod hpod⟩

end ImageBuild
