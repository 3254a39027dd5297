import ImageBuild.Proofs.Plan.CreationTime

/-!
# What depends on the present time

A plan has a use for the present time only if the creation time is to be this time, and then
only if there is a build. Two plans made at two times are then the same but for the time that
the export step is told. The main statement is `plan_timeless_or_dated`.
-/
namespace ImageBuild

/-- The variable with another creation time, if it is the one that tells it. -/
def EnvVar.dateTo (time : Int64) (v : EnvVar) : EnvVar :=
  if v.name = "SOURCE_DATE_EPOCH" then { v with value := some (toString time.toInt) } else v

/-- The container with another creation time, if it is the export step. -/
def Container.dateTo (time : Int64) (c : Container) : Container :=
  if c.name = "export" then { c with env := c.env.map fun vs => vs.map (EnvVar.dateTo time) }
  else c

/-- The pod with another creation time. -/
def Pod.dateTo (time : Int64) (p : Pod) : Pod :=
  { p with
    spec := { p.spec with initContainers := p.spec.initContainers.map (Container.dateTo time) } }

theorem Container.dateTo_of_ne {c : Container} (h : c.name ≠ "export") (time : Int64) :
    c.dateTo time = c :=
  if_neg h

namespace PlanBasis

variable (b : PlanBasis) (bindings : List Attachment) (now time : Int64)

/-- The basis at another time. -/
def atTime : PlanBasis := { b with context := { b.context with now := time } }

theorem dateTo_exportStep :
    (b.adapt (b.exportStep (some now))).dateTo time = b.adapt (b.exportStep (some time)) := by
  have hname : (b.adapt (b.exportStep (some now))).name = "export" := b.adapt_name _
  rw [Container.dateTo, if_pos hname]
  unfold adapt
  cases b.windows <;>
    simp [StepPass.forOs, StepPass.applyAll, StepPass.apply, exportStep, lifecycleStep, helperStep,
      EnvVar.dateTo, StepPass.renameHome, EnvVar.of, apiEnv, Layout.homeEnv, Layout.homeName,
      Layout.userProfileName]

/-- The export step is the last step of a build, and the only one of its name. -/
theorem exists_buildSteps_eq :
    ∃ steps, (∀ c ∈ steps, c.name ≠ "export") ∧
      ∀ epoch, b.buildSteps bindings epoch = steps ++ [b.exportStep epoch] := by
  refine ⟨[b.prepareStep] ++ (if b.legacy then [b.detectStep bindings, b.analyzeStep]
    else [b.analyzeStep, b.detectStep bindings]) ++ [b.restoreStep, b.buildStep bindings], ?_, ?_⟩
  · cases b.legacy <;>
      simp [prepareStep, detectStep, analyzeStep, restoreStep, buildStep, lifecycleStep, helperStep]
  · intro epoch
    rw [buildSteps, List.append_assoc _ [_, _] [_]]
    rfl

theorem dateTo_pod (volumes : List Volume) :
    (b.pod (b.buildSteps bindings (some now)) volumes).dateTo time =
      b.pod (b.buildSteps bindings (some time)) volumes := by
  obtain ⟨steps, hsteps, hbuild⟩ := b.exists_buildSteps_eq bindings
  have hkept : steps.map (Container.dateTo time ∘ b.adapt) = steps.map b.adapt :=
    List.map_congr_left fun c hc =>
      Container.dateTo_of_ne (by rw [adapt_name]; exact hsteps c hc) time
  simp [Pod.dateTo, pod, hbuild, hkept, dateTo_exportStep]

/-- A build at another time has another creation time if this is to be the present time. -/
theorem buildPod_atTime (h : b.request.creationTime = "now") :
    (b.atTime time).buildPod = b.buildPod.map (Pod.dateTo time) := by
  have hpresent : ∀ now, CreationTime.resolve now b.request.creationTime = .ok (some now) := by
    rw [h]
    exact fun _ => rfl
  -- Of the context, a build asks only the creation time for the present time.
  have hat : (b.atTime time).buildPod = (do
      let bindings ← ServiceBinding.attachAll b.request.services
      let epoch ← CreationTime.resolve time b.request.creationTime
      return b.pod (b.buildSteps bindings epoch) (b.buildVolumes bindings)) := rfl
  rw [hat, buildPod, hpresent, hpresent]
  cases ServiceBinding.attachAll b.request.services with
  | error e => rfl
  | ok bindings => exact congrArg Except.ok (b.dateTo_pod bindings _ time _).symm

/-- Other directives are resolved without the present time. -/
theorem buildPod_atTime_of_ne (h : b.request.creationTime ≠ "now") :
    (b.atTime time).buildPod = b.buildPod := by
  have hresolve : CreationTime.resolve time b.request.creationTime =
      CreationTime.resolve b.context.now b.request.creationTime := by
    rw [CreationTime.resolve, CreationTime.resolve, if_neg h, if_neg h]
  rw [buildPod, buildPod, ← hresolve]
  rfl

end PlanBasis

section

variable (r : BuildRequest) (ctx : PlanContext)

/-- The plan has no use for the present time: the creation time is not to be this time, or
there is no build that could have one. -/
inductive Timeless : Prop
  | directive (h : r.creationTime ≠ "now")
  | rebase (h : r.rebasable ctx.builder.stackId = true)
  | failure (e : PlanError) (h : plan r ctx = .error e)

variable {r ctx}

theorem plan_atTime_of_ne (h : r.creationTime ≠ "now") (time : Int64) :
    plan r { ctx with now := time } = plan r ctx := by
  have hapi : PlanBasis.negotiate r ctx = PlanBasis.negotiate r { ctx with now := time } := rfl
  rcases plan_pair_cases hapi rfl with ⟨e, hplan, hat⟩ | ⟨api, reference, -, hplan, hat⟩
  · rw [hplan, hat]
  · have hbuild := PlanBasis.buildPod_atTime_of_ne ⟨r, ctx, api, reference.host⟩ time h
    rw [hplan, hat, ← hbuild]
    rfl

theorem plan_atTime_of_rebasable (h : r.rebasable ctx.builder.stackId = true) (time : Int64) :
    plan r { ctx with now := time } = plan r ctx := by
  have hapi : PlanBasis.negotiate r ctx = PlanBasis.negotiate r { ctx with now := time } := rfl
  rcases plan_pair_cases hapi rfl with ⟨e, hplan, hat⟩ | ⟨api, reference, -, hplan, hat⟩
  · rw [hplan, hat]
  · rw [hplan, hat, if_pos h, if_pos h]
    rfl

theorem plan_atTime_of_now (h : r.creationTime = "now")
    (hbuild : r.rebasable ctx.builder.stackId = false) (time : Int64) :
    plan r { ctx with now := time } = (plan r ctx).map (Pod.dateTo time) := by
  have hapi : PlanBasis.negotiate r ctx = PlanBasis.negotiate r { ctx with now := time } := rfl
  rcases plan_pair_cases hapi rfl with ⟨e, hplan, hat⟩ | ⟨api, reference, -, hplan, hat⟩
  · rw [hplan, hat]
    rfl
  · rw [hplan, hat, hbuild]
    exact PlanBasis.buildPod_atTime ⟨r, ctx, api, reference.host⟩ time h

theorem plan_atTime_of_timeless (h : Timeless r ctx) (time : Int64) :
    plan r { ctx with now := time } = plan r ctx := by
  by_cases hnow : r.creationTime = "now"
  · cases hr : r.rebasable ctx.builder.stackId with
    | true => exact plan_atTime_of_rebasable hr time
    | false =>
      cases h with
      | directive h => exact absurd hnow h
      | rebase h => exact absurd (hr.symm.trans h) (by decide)
      | failure e h =>
        rw [plan_atTime_of_now hnow hr, h]
        rfl
  · exact plan_atTime_of_ne hnow time

theorem dated_of_now (h : r.creationTime = "now") (hr : r.rebasable ctx.builder.stackId = false)
    {pod : Pod} (hpod : plan r ctx = .ok pod) : pod.Dated (some ctx.now) := by
  have hbuild : ¬ pod.IsRebase := by
    rw [plan_isRebase_iff hpod, hr]
    decide
  obtain ⟨epoch, hepoch, -, hdated⟩ := dated_of_plan hpod hbuild
  have hpresent : CreationTime.resolve ctx.now r.creationTime = .ok (some ctx.now) := by
    rw [h]
    rfl
  exact Except.ok.inj (hepoch.symm.trans hpresent) ▸ hdated

/-- A plan without use for the present time is the same at any two times. Any other plan is a
pod at both times, and the same pod but for the creation time that its export step is told,
which is the present time. -/
theorem plan_timeless_or_dated (r : BuildRequest) (ctx : PlanContext) (time : Int64) :
    (Timeless r ctx → plan r { ctx with now := time } = plan r ctx) ∧
      (¬ Timeless r ctx →
        ∃ pod, plan r ctx = .ok pod ∧ pod.Dated (some ctx.now) ∧
          plan r { ctx with now := time } = .ok (pod.dateTo time) ∧
          (pod.dateTo time).Dated (some time)) := by
  refine ⟨fun h => plan_atTime_of_timeless h time, fun h => ?_⟩
  have hnow : r.creationTime = "now" := by_contra fun hne => h (.directive hne)
  have hr : r.rebasable ctx.builder.stackId = false :=
    Bool.eq_false_iff.2 fun hr => h (.rebase hr)
  cases hplan : plan r ctx with
  | error e => exact absurd (.failure e hplan) h
  | ok pod =>
    have hlater : plan r { ctx with now := time } = .ok (pod.dateTo time) := by
      rw [plan_atTime_of_now hnow hr, hplan]
      rfl
    exact ⟨pod, rfl, dated_of_now hnow hr hplan, hlater,
      @dated_of_now r { ctx with now := time } hnow hr _ hlater⟩

/-- A request for an image that is dated when it is built. -/
def presentRequest : BuildRequest :=
  { BuildRequest.ofTag "host/app" with creationTime := "now" }

theorem presentRequest_dated :
    ¬ Timeless presentRequest PlanContext.linux ∧
      ∃ pod, plan presentRequest PlanContext.linux = .ok pod ∧ pod.Dated (some 0) ∧
        plan presentRequest { PlanContext.linux with now := 7 } = .ok (pod.dateTo 7) ∧
        (pod.dateTo 7).Dated (some 7) ∧
        plan rebaseRequest { PlanContext.linux with now := 7 } =
          plan rebaseRequest PlanContext.linux := by
  obtain ⟨pod, hpod⟩ : ∃ pod, plan presentRequest PlanContext.linux = .ok pod :=
    exists_eq_ok_iff.2 (by decide +kernel)
  have huse : ¬ Timeless presentRequest PlanContext.linux := by
    rintro (h | h | ⟨e, h⟩)
    · exact h rfl
    · exact absurd h (by decide)
    · rw [hpod] at h
      cases h
  obtain ⟨pod, hplan, hdated, hlater, hlaterDated⟩ :=
    (plan_timeless_or_dated presentRequest PlanContext.linux 7).2 huse
  have hrebase : Timeless rebaseRequest PlanContext.linux := .rebase (by decide)
  exact ⟨huse, pod, hplan, hdated, hlater, hlaterDated,
    (plan_timeless_or_dated rebaseRequest PlanContext.linux 7).1 hrebase⟩

end

end ImageBuild
