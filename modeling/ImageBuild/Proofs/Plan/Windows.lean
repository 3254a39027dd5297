import ImageBuild.Proofs.Plan.Outcome

/-!
# Plans for Windows

A build is planned for Windows as it is for Linux: with the same failures, the
same steps and the same volumes. Each step is then changed on its own, and the
pod has the volume of the launcher. Volume caches are the one exception, since
there are none on Windows. The main statement is `plan_onWindows`.
-/
namespace ImageBuild

/-- The context with a builder for another operating system. -/
def PlanContext.onOs (ctx : PlanContext) (os : String) : PlanContext :=
  { ctx with builder := { ctx.builder with os := os } }

/-- The step with its image for Windows. Only the planner's own images of a build differ. -/
def Container.withWindowsImage (config : PlanConfig) (c : Container) : Container :=
  { c with
    image :=
      if c.name = "prepare" then some config.buildInitWindowsImage
      else if c.name = "completion" then some config.completionWindowsImage
      else c.image }

/-- A step on Linux as it runs on Windows. -/
def Container.onWindows (config : PlanConfig) (host : String) (c : Container) : Container :=
  StepPass.applyAll (StepPass.forOs true host)
    { c.withWindowsImage config with security := none }

/-- A pod on Linux as it runs on Windows. -/
def Pod.onWindows (config : PlanConfig) (host : String) (p : Pod) : Pod :=
  { p with
    spec :=
      { p.spec with
        initContainers := p.spec.initContainers.map (Container.onWindows config host)
        containers := p.spec.containers.map (Container.onWindows config host)
        volumes := p.spec.volumes ++ [⟨"network-wait-launcher-dir", .emptyDir⟩]
        nodeSelector := p.spec.nodeSelector.insert "kubernetes.io/os" "windows"
        security := none } }

/-- Only a volume cache depends on the operating system. -/
theorem CacheStrategy.select_eq {r : BuildRequest} (h : r.volumeCache = Option.none)
    (w w' : Bool) : select r w = select r w' := by
  simp only [select, h]

namespace PlanBasis

/-- The basis with a builder for Windows. -/
def onWindows (b : PlanBasis) : PlanBasis := { b with context := b.context.onOs "windows" }

variable {b : PlanBasis}

theorem windows_onWindows (b : PlanBasis) : b.onWindows.windows = true :=
  beq_self_eq_true "windows"

theorem cache_onWindows (hcache : b.request.volumeCache = none) :
    b.onWindows.cache = b.cache :=
  CacheStrategy.select_eq hcache _ _

theorem prepareStep_onWindows :
    b.onWindows.prepareStep = b.prepareStep.withWindowsImage b.context.config := by
  have himage : b.onWindows.context.config.prepareImage b.onWindows.windows =
      b.context.config.buildInitWindowsImage := by
    rw [windows_onWindows]
    rfl
  rw [prepareStep, himage]
  rfl

theorem completionStep_onWindows (hcache : b.request.volumeCache = none) :
    b.onWindows.completionStep = b.completionStep.withWindowsImage b.context.config := by
  have himage : b.onWindows.context.config.finalImage b.onWindows.windows =
      b.context.config.completionWindowsImage := by
    rw [windows_onWindows]
    rfl
  rw [completionStep, himage, cache_onWindows hcache]
  rfl

theorem analyzeStep_onWindows (hcache : b.request.volumeCache = none) :
    b.onWindows.analyzeStep = b.analyzeStep := by
  rw [analyzeStep, analyzeArgs, cache_onWindows hcache]
  rfl

theorem restoreStep_onWindows (hcache : b.request.volumeCache = none) :
    b.onWindows.restoreStep = b.restoreStep := by
  rw [restoreStep, cache_onWindows hcache]
  rfl

theorem exportStep_onWindows (hcache : b.request.volumeCache = none) (epoch : Option Int64) :
    b.onWindows.exportStep epoch = b.exportStep epoch := by
  rw [exportStep, exportArgs, cache_onWindows hcache]
  rfl

theorem buildSteps_onWindows (hcache : b.request.volumeCache = none) (bindings : List Attachment)
    (epoch : Option Int64) :
    b.onWindows.buildSteps bindings epoch =
      (b.buildSteps bindings epoch).map (Container.withWindowsImage b.context.config) := by
  have hlegacy : b.onWindows.legacy = b.legacy := rfl
  rw [buildSteps, prepareStep_onWindows, analyzeStep_onWindows hcache,
    restoreStep_onWindows hcache, exportStep_onWindows hcache, hlegacy, buildSteps]
  -- Of these steps the first alone has another image on Windows.
  cases b.legacy <;> rfl

theorem adapt_onWindows (hos : b.windows = false) (c : Container) :
    b.onWindows.adapt (c.withWindowsImage b.context.config) =
      (b.adapt c).onWindows b.context.config b.host := by
  have hlinux : b.adapt c = { c with security := some .restricted } := by
    rw [adapt, security, hos, StepPass.applyAll_linux]
    rfl
  rw [hlinux, adapt, security, windows_onWindows]
  rfl

theorem buildVolumes_onWindows (hos : b.windows = false) (hcache : b.request.volumeCache = none)
    (bindings : List Attachment) :
    b.onWindows.buildVolumes bindings =
      b.buildVolumes bindings ++ [.emptyDir Layout.networkWait.name] := by
  rw [buildVolumes, buildVolumes, cache_onWindows hcache, osVolumes, osVolumes, hos,
    windows_onWindows]
  simp only [if_true, Bool.false_eq_true, if_false, List.append_nil]
  rfl

theorem rebaseVolumes_onWindows (hos : b.windows = false) :
    b.onWindows.rebaseVolumes = b.rebaseVolumes ++ [.emptyDir Layout.networkWait.name] := by
  rw [rebaseVolumes, rebaseVolumes, osVolumes, osVolumes, hos, windows_onWindows]
  simp only [if_true, Bool.false_eq_true, if_false, List.append_nil]
  rfl

theorem pod_onWindows (hos : b.windows = false) (hcache : b.request.volumeCache = none)
    (steps : List Container) (volumes : List Volume) :
    b.onWindows.pod (steps.map (Container.withWindowsImage b.context.config))
        (volumes ++ [.emptyDir Layout.networkWait.name]) =
      (b.pod steps volumes).onWindows b.context.config b.host := by
  have hsteps : (steps.map (Container.withWindowsImage b.context.config)).map b.onWindows.adapt =
      (steps.map b.adapt).map (Container.onWindows b.context.config b.host) := by
    simp only [List.map_map, Function.comp_def, adapt_onWindows hos]
  have hcompletion : b.onWindows.adapt b.onWindows.completionStep =
      (b.adapt b.completionStep).onWindows b.context.config b.host := by
    rw [completionStep_onWindows hcache, adapt_onWindows hos]
  have hsecurity : podSecurity b.onWindows.context.builder = none := if_pos (windows_onWindows b)
  have hselector : b.onWindows.request.scheduling.nodeSelector.insert "kubernetes.io/os"
      b.onWindows.context.builder.osLabel =
        (b.request.scheduling.nodeSelector.insert "kubernetes.io/os"
          b.context.builder.osLabel).insert "kubernetes.io/os" "windows" := by
    rw [StringMap.insert_insert]
    rfl
  simp only [pod, hsteps, hcompletion, hsecurity, hselector]
  rfl

theorem rebasePod_onWindows (hos : b.windows = false) (hcache : b.request.volumeCache = none) :
    b.onWindows.rebasePod = b.rebasePod.map (Pod.onWindows b.context.config b.host) := by
  have hprevious : b.onWindows.request.previousImage = b.request.previousImage := rfl
  rw [rebasePod, rebasePod, hprevious]
  cases b.request.previousImage with
  | none => rfl
  | some image =>
    have hstep : [b.onWindows.rebaseStep image] =
        [b.rebaseStep image].map (Container.withWindowsImage b.context.config) := rfl
    simp only [Except.map, hstep, rebaseVolumes_onWindows hos, pod_onWindows hos hcache]

theorem buildPod_onWindows (hos : b.windows = false) (hcache : b.request.volumeCache = none) :
    b.onWindows.buildPod = b.buildPod.map (Pod.onWindows b.context.config b.host) := by
  have hservices : b.onWindows.request.services = b.request.services := rfl
  have htime : CreationTime.resolve b.onWindows.context.now b.onWindows.request.creationTime =
      CreationTime.resolve b.context.now b.request.creationTime := rfl
  rw [buildPod, buildPod, hservices, htime]
  cases ServiceBinding.attachAll b.request.services with
  | error e => rfl
  | ok bindings =>
    cases CreationTime.resolve b.context.now b.request.creationTime with
    | error e => rfl
    | ok epoch =>
      simp only [bind, Except.bind, pure, Except.pure, Except.map, buildSteps_onWindows hcache,
        buildVolumes_onWindows hos hcache, pod_onWindows hos hcache]

end PlanBasis

/-- Where the same version is negotiated, a plan for Windows is that for another
operating system with each step and the pod changed, or fails as that does. -/
theorem plan_onWindows {r : BuildRequest} {ctx : PlanContext} {os : String}
    (hcache : r.volumeCache = none) (hos : os ≠ "windows")
    (hapi : PlanBasis.negotiate r (ctx.onOs os) = PlanBasis.negotiate r (ctx.onOs "windows")) :
    (∃ e, plan r (ctx.onOs os) = .error e ∧ plan r (ctx.onOs "windows") = .error e) ∨
      ∃ reference pod, ImageReference.parse r.tag = .ok reference ∧
        plan r (ctx.onOs os) = .ok pod ∧
        plan r (ctx.onOs "windows") = .ok (pod.onWindows ctx.config reference.host) := by
  rcases plan_pair_cases hapi rfl with hfail | ⟨api, reference, hreference, hplan, hwindows⟩
  · exact .inl hfail
  · have hlinux : (⟨r, ctx.onOs os, api, reference.host⟩ : PlanBasis).windows = false :=
      beq_false_of_ne hos
    have hsame : plan r (ctx.onOs "windows") =
        (plan r (ctx.onOs os)).map (Pod.onWindows ctx.config reference.host) := by
      have hstack : (ctx.onOs os).builder.stackId = (ctx.onOs "windows").builder.stackId := rfl
      rw [hplan, hwindows, hstack]
      cases r.rebasable (ctx.onOs "windows").builder.stackId with
      | false => exact PlanBasis.buildPod_onWindows hlinux hcache
      | true => exact PlanBasis.rebasePod_onWindows hlinux hcache
    rw [hsame]
    cases plan r (ctx.onOs os) with
    | error e => exact .inl ⟨e, rfl, rfl⟩
    | ok pod => exact .inr ⟨reference, pod, hreference, rfl, rfl⟩

/-- A signed request with a cache in a registry. -/
def cachedRequest : BuildRequest :=
  { BuildRequest.ofTag "host/app" with
    cache := some (.registry "host/cache")
    lastBuild := some ⟨"host/app@sha256:0", "host/cache@sha256:0", "old"⟩
    signing := some ⟨some ⟨"https://notary", "notary"⟩, ∅⟩ }

theorem cached_onWindows :
    ∃ reference pod, ImageReference.parse cachedRequest.tag = .ok reference ∧
      plan cachedRequest (PlanContext.linux.onOs "linux") = .ok pod ∧
      plan cachedRequest (PlanContext.linux.onOs "windows") =
        .ok (pod.onWindows PlanConfig.default reference.host) := by
  have hapi : PlanBasis.negotiate cachedRequest (PlanContext.linux.onOs "linux") =
      PlanBasis.negotiate cachedRequest (PlanContext.linux.onOs "windows") := by
    rfl
  have hp : (plan cachedRequest (PlanContext.linux.onOs "linux")).toOption.isSome = true := by
    decide +kernel
  rcases plan_onWindows (by decide) (by decide) hapi with ⟨e, he, -⟩ | hpods
  · simp [he, Except.toOption] at hp
  · exact hpods

end ImageBuild
