import ImageBuild.Plan.Pod
import ImageBuild.Proofs.Except

/-!
# What a plan comes from

A pod is planned in one of two ways. `plan_eq_ok_iff` says what has to hold for
each of them, and `plan_cases` what the pod is then, so that a property of all
pods follows from the two cases of `PlanBasis.Plans`.
-/
namespace ImageBuild

namespace PlanBasis

variable {r : BuildRequest} {ctx : PlanContext} {b : PlanBasis} {pod : Pod}

theorem negotiate_eq_ok_iff {api : Version} :
    negotiate r ctx = .ok api ↔
      Negotiation.choose (Negotiation.supportedFor r.signed ctx.builder.isWindows)
        ctx.config.maxPlatformApi ctx.builder.platformApis = some api :=
  Negotiation.negotiate_eq_ok_iff

theorem of_eq_ok_iff :
    PlanBasis.of r ctx = .ok b ↔
      r.tags ≠ [] ∧ ∃ api reference, negotiate r ctx = .ok api ∧
        ImageReference.parse r.tag = .ok reference ∧ b = ⟨r, ctx, api, reference.host⟩ := by
  unfold PlanBasis.of
  by_cases htags : r.tags = []
  · simp [htags, throw, throwThe, MonadExceptOf.throw, bind, Except.bind]
  · have hempty : r.tags.isEmpty = false := by simpa using htags
    simp only [hempty, Bool.false_eq_true, if_false, bind_eq_ok_iff, ne_eq, htags,
      not_false_eq_true, true_and]
    cases hparse : ImageReference.parse r.tag with
    | error e => simp [throw, throwThe, MonadExceptOf.throw]
    | ok reference => simp [pure, Except.pure, eq_comm]

/-- What a plan rests on depends on the tags and on the negotiated version. -/
theorem of_congr {s : BuildRequest} {ctx' : PlanContext} (htags : r.tags = s.tags)
    (hapi : negotiate r ctx = negotiate s ctx') :
    PlanBasis.of s ctx' =
      (PlanBasis.of r ctx).map fun b => { b with request := s, context := ctx' } := by
  rw [PlanBasis.of, PlanBasis.of, hapi, BuildRequest.tag, BuildRequest.tag, htags]
  split
  · rfl
  · cases negotiate s ctx' with
    | error e => rfl
    | ok api =>
      cases ImageReference.parse (s.tags.headD "") with
      | error e => rfl
      | ok reference => rfl

theorem rebasePod_eq_ok_iff :
    b.rebasePod = .ok pod ↔
      ∃ image, b.request.previousImage = some image ∧
        pod = b.pod [b.rebaseStep image] b.rebaseVolumes := by
  unfold rebasePod
  cases b.request.previousImage <;> simp [eq_comm]

theorem buildPod_eq_ok_iff :
    b.buildPod = .ok pod ↔
      ∃ bindings epoch, ServiceBinding.attachAll b.request.services = .ok bindings ∧
        CreationTime.resolve b.context.now b.request.creationTime = .ok epoch ∧
        pod = b.pod (b.buildSteps bindings epoch) (b.buildVolumes bindings) := by
  unfold buildPod
  simp only [bind_eq_ok_iff, pure, Except.pure, Except.ok.injEq, eq_comm (a := pod)]
  constructor
  · rintro ⟨bindings, hbindings, epoch, hepoch, h⟩
    exact ⟨bindings, epoch, hbindings, hepoch, h⟩
  · rintro ⟨bindings, epoch, hbindings, hepoch, h⟩
    exact ⟨bindings, hbindings, epoch, hepoch, h⟩

end PlanBasis

/-- The two ways to a pod. -/
theorem plan_eq_ok_iff {r : BuildRequest} {ctx : PlanContext} {pod : Pod} :
    plan r ctx = .ok pod ↔
      ∃ b, PlanBasis.of r ctx = .ok b ∧
        (r.rebasable ctx.builder.stackId = true ∧ b.rebasePod = .ok pod ∨
          r.rebasable ctx.builder.stackId = false ∧ b.buildPod = .ok pod) := by
  unfold plan
  rw [bind_eq_ok_iff]
  cases r.rebasable ctx.builder.stackId <;> simp

/-- The basis of a plan is settled by its request and context: there is a tag, its registry is
known, and a version is negotiated. -/
structure PlanBasis.Settled (b : PlanBasis) : Prop where
  tagged : b.request.tags ≠ []
  negotiated : Negotiation.choose
    (Negotiation.supportedFor b.request.signed b.context.builder.isWindows)
    b.context.config.maxPlatformApi b.context.builder.platformApis = some b.api
  hosted : ∃ reference, ImageReference.parse b.request.tag = .ok reference ∧
    b.host = reference.host

/-- The two ways to a pod: the step that rebases the image of the last build, and the steps of
a build. -/
inductive PlanBasis.Plans (b : PlanBasis) : Pod → Prop
  | rebase {image : String}
      (rebasable : b.request.rebasable b.context.builder.stackId = true)
      (previous : b.request.previousImage = some image) :
      Plans b (b.pod [b.rebaseStep image] b.rebaseVolumes)
  | build {bindings : List Attachment} {epoch : Option Int64}
      (needed : b.request.rebasable b.context.builder.stackId = false)
      (bound : ServiceBinding.attachAll b.request.services = .ok bindings)
      (dated : CreationTime.resolve b.context.now b.request.creationTime = .ok epoch) :
      Plans b (b.pod (b.buildSteps bindings epoch) (b.buildVolumes bindings))

/-- A planned pod, taken apart by the way to it. -/
theorem plan_cases {r : BuildRequest} {ctx : PlanContext} {pod : Pod} (h : plan r ctx = .ok pod) :
    ∃ b : PlanBasis, b.request = r ∧ b.context = ctx ∧ b.Settled ∧ b.Plans pod := by
  obtain ⟨b, hb, hpod⟩ := plan_eq_ok_iff.1 h
  obtain ⟨htags, api, reference, hapi, hparse, rfl⟩ := PlanBasis.of_eq_ok_iff.1 hb
  have hsettled : PlanBasis.Settled ⟨r, ctx, api, reference.host⟩ :=
    ⟨htags, PlanBasis.negotiate_eq_ok_iff.1 hapi, reference, hparse, rfl⟩
  refine ⟨⟨r, ctx, api, reference.host⟩, rfl, rfl, hsettled, ?_⟩
  rcases hpod with ⟨hr, hpod⟩ | ⟨hr, hpod⟩
  · obtain ⟨image, himage, rfl⟩ := PlanBasis.rebasePod_eq_ok_iff.1 hpod
    exact .rebase hr himage
  · obtain ⟨bindings, epoch, hbindings, hepoch, rfl⟩ := PlanBasis.buildPod_eq_ok_iff.1 hpod
    exact .build hr hbindings hepoch

theorem plan_eq_error_of_basis {r : BuildRequest} {ctx : PlanContext} {e : PlanError}
    (h : PlanBasis.of r ctx = .error e) :
    plan r ctx = .error e := by
  rw [plan, h]
  rfl

theorem plan_of_basis {r : BuildRequest} {ctx : PlanContext} {b : PlanBasis}
    (h : PlanBasis.of r ctx = .ok b) :
    plan r ctx = if r.rebasable ctx.builder.stackId then b.rebasePod else b.buildPod := by
  rw [plan, h]
  rfl

/-- Two plans for the same tags with the same version: both fail, or their bases differ in
nothing but the requests and the contexts. -/
theorem plan_pair_cases {r s : BuildRequest} {ctx ctx' : PlanContext}
    (hapi : PlanBasis.negotiate r ctx = PlanBasis.negotiate s ctx') (htags : r.tags = s.tags) :
    (∃ e, plan r ctx = .error e ∧ plan s ctx' = .error e) ∨
      ∃ api reference, ImageReference.parse r.tag = .ok reference ∧
        (plan r ctx = if r.rebasable ctx.builder.stackId
          then PlanBasis.rebasePod ⟨r, ctx, api, reference.host⟩
          else PlanBasis.buildPod ⟨r, ctx, api, reference.host⟩) ∧
        plan s ctx' = if s.rebasable ctx'.builder.stackId
          then PlanBasis.rebasePod ⟨s, ctx', api, reference.host⟩
          else PlanBasis.buildPod ⟨s, ctx', api, reference.host⟩ := by
  have hcongr := PlanBasis.of_congr htags hapi
  cases hof : PlanBasis.of r ctx with
  | error e =>
    rw [hof] at hcongr
    exact .inl ⟨e, plan_eq_error_of_basis hof, plan_eq_error_of_basis hcongr⟩
  | ok b =>
    obtain ⟨-, api, reference, -, hparse, rfl⟩ := PlanBasis.of_eq_ok_iff.1 hof
    rw [hof] at hcongr
    exact .inr ⟨api, reference, hparse, plan_of_basis hof, plan_of_basis hcongr⟩

/-- A request for one tag that leaves all else open. -/
def BuildRequest.ofTag (tag : String) : BuildRequest where
  name := "app"
  space := ""
  labels := ∅
  tags := [tag]
  builder := ⟨"host/builder", ["pull"]⟩
  serviceAccount := ""
  source := ⟨.git ⟨"https://host/app", "a", false⟩, none⟩
  cache := none
  lastBuild := none
  resources := .none
  signing := none
  services := []
  env := []
  scheduling := .none
  creationTime := ""
  defaultProcess := ""
  reasons := ""
  changes := ""

/-- A builder for Linux on the stack `base`. -/
def PlanContext.linux : PlanContext where
  builder := ⟨"base", "host/run", 1000, 1000, "linux", ["0.6", "0.9"]⟩
  credentials := []
  pullSecrets := []
  config := .default
  now := 0

end ImageBuild
