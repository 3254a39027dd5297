import ImageBuild.Proofs.Decimal.Canonical
import ImageBuild.Proofs.Plan.Failure
import ImageBuild.Proofs.Plan.Phases

/-!
# The creation time of an image

A directive leaves the creation time open, stands for the present time, or is a numeral for
a number of seconds; anything else is invalid. A build tells the time to its export step
alone, and spells it in one way, so that it does not matter how the request spelled it. The
main statement is `plan_dated`.
-/
namespace ImageBuild

namespace CreationTime

variable {s : String} {now n : Int64}

/-- The two words that are directives are no numerals. -/
theorem ne_of_denotes (h : Decimal.Denotes s.toList n.toInt) : s ≠ "" ∧ s ≠ "now" := by
  have hread := Decimal.readInt64_eq_ok_iff.2 h
  constructor
  · rintro rfl
    have herror : Decimal.readInt64 "".toList = .error .invalidDigit := by decide
    rw [herror] at hread
    cases hread
  · rintro rfl
    have herror : Decimal.readInt64 "now".toList = .error .invalidDigit := by decide
    rw [herror] at hread
    cases hread

theorem resolve_eq_ok_none_iff : resolve now s = .ok none ↔ s = "" := by
  constructor
  · intro h
    unfold resolve at h
    split at h
    next hopen => exact hopen
    next =>
      split at h
      · cases h
      · split at h <;> cases h
  · rintro rfl
    rfl

theorem resolve_of_denotes (h : Decimal.Denotes s.toList n.toInt) :
    resolve now s = .ok (some n) := by
  obtain ⟨hopen, hnow⟩ := ne_of_denotes h
  rw [resolve, if_neg hopen, if_neg hnow, Decimal.readInt64_eq_ok_iff.2 h]

theorem resolve_eq_ok_some_iff :
    resolve now s = .ok (some n) ↔ s = "now" ∧ n = now ∨ Decimal.Denotes s.toList n.toInt := by
  constructor
  · intro h
    unfold resolve at h
    split at h
    · cases h
    · split at h
      next hnow =>
        cases h
        exact .inl ⟨hnow, rfl⟩
      next =>
        split at h
        next hread =>
          cases h
          exact .inr (Decimal.readInt64_eq_ok_iff.1 hread)
        next => cases h
  · rintro (⟨rfl, rfl⟩ | h)
    · rfl
    · exact resolve_of_denotes h

theorem exists_resolve_eq_error_iff :
    (∃ cause, resolve now s = .error (.invalidCreationTime s cause)) ↔ ¬ IsDirective s := by
  constructor
  · rintro ⟨cause, h⟩
    exact (resolve_eq_error_iff.1 h).1
  · intro h
    obtain ⟨-, -, cause, hcause⟩ := not_isDirective_iff.1 h
    exact ⟨cause, resolve_eq_error_iff.2 ⟨h, cause, hcause, rfl⟩⟩

/-- What a directive comes to at the times at which it may be resolved. -/
structure Resolves (s : String) : Prop where
  leftOpen : ∀ now, resolve now s = .ok none ↔ s = ""
  present : (∀ now, resolve now s = .ok (some now)) ↔ s = "now"
  numeral : ∀ n : Int64, (∀ now, resolve now s = .ok (some n)) ↔ Decimal.Denotes s.toList n.toInt
  atTime : ∀ now n, resolve now s = .ok (some n) ↔
    s = "now" ∧ n = now ∨ Decimal.Denotes s.toList n.toInt
  invalid : ∀ now, (∃ cause, resolve now s = .error (.invalidCreationTime s cause)) ↔
    ¬ IsDirective s

theorem resolves (s : String) : Resolves s where
  leftOpen _ := resolve_eq_ok_none_iff
  present := by
    constructor
    · intro h
      by_contra hnow
      have hnumeral : ∀ n : Int64, Decimal.Denotes s.toList n.toInt := fun n =>
        (resolve_eq_ok_some_iff.1 (h n)).resolve_left fun hword => hnow hword.1
      -- A numeral stands for the same number at each time.
      have hread : ∀ n, resolve 0 s = .ok (some n) := fun n => resolve_of_denotes (hnumeral n)
      have hsame := (hread 0).symm.trans (hread 1)
      revert hsame
      decide
    · rintro rfl now
      rfl
  numeral n := by
    constructor
    · intro h
      -- The present time is not the same number at two times.
      rcases resolve_eq_ok_some_iff.1 (h 0) with ⟨-, rfl⟩ | hdenotes
      · exact (resolve_eq_ok_some_iff.1 (h 1)).resolve_left fun hword => absurd hword.2 (by decide)
      · exact hdenotes
    · exact fun h now => resolve_of_denotes h
  atTime _ _ := resolve_eq_ok_some_iff
  invalid _ := exists_resolve_eq_error_iff

/-- The printed form of a number is a directive for it. -/
theorem resolve_toString (n now : Int64) : resolve now (toString n.toInt) = .ok (some n) := by
  refine resolve_of_denotes ?_
  exact Decimal.denotes_toString n.toInt

end CreationTime

/-- Only the export step of a pod is told the creation time, and only if there is one. -/
structure Pod.Dated (p : Pod) (epoch : Option Int64) : Prop where
  exported : ∃ c ∈ p.steps, c.name = "export"
  told : ∀ c ∈ p.steps, c.variablesNamed "SOURCE_DATE_EPOCH" =
    if c.name = "export" then
      (epoch.map fun n => ⟨"SOURCE_DATE_EPOCH", some (toString n.toInt), none⟩).toList
    else []

namespace PlanBasis

variable {b : PlanBasis} {bindings : List Attachment} {epoch : Option Int64} {c : Container}

theorem variablesNamed_exportStep :
    (b.adapt (b.exportStep epoch)).variablesNamed "SOURCE_DATE_EPOCH" =
      (epoch.map fun n => ⟨"SOURCE_DATE_EPOCH", some (toString n.toInt), none⟩).toList := by
  have henv : (b.exportStep epoch).env = some
      ([Layout.homeEnv, b.apiEnv, .of "CNB_RUN_IMAGE" b.context.builder.runImage] ++
        (epoch.map fun n => EnvVar.of "SOURCE_DATE_EPOCH" (toString n.toInt)).toList) :=
    rfl
  rw [variablesNamed_adapt (by decide) (by decide), Container.variablesNamed, henv]
  cases epoch <;> simp [Layout.homeEnv, Layout.homeName, apiEnv, EnvVar.of]

/-- A step without a variable of a name has none on any operating system. -/
theorem variablesNamed_adapt_eq_nil {name : String} (h : ∀ v ∈ c.env.getD [], v.name ≠ name)
    (hhome : name ≠ Layout.homeName) (hprofile : name ≠ Layout.userProfileName) :
    (b.adapt c).variablesNamed name = [] := by
  rw [variablesNamed_adapt hhome hprofile, Container.variablesNamed, List.filter_eq_nil_iff]
  intro v hv
  simpa using h v hv

theorem time_not_mem (hc : c ∈ b.completionStep :: b.buildSteps bindings epoch)
    (hname : c.name ≠ "export") : ∀ v ∈ c.env.getD [], v.name ≠ "SOURCE_DATE_EPOCH" := by
  rcases List.mem_cons.1 hc with rfl | hc
  · cases htag : b.cache.tag <;>
      simp [completionStep, helperStep, htag, Layout.homeEnv, Layout.homeName, EnvVar.of]
  rcases b.mem_buildSteps.1 hc with rfl | rfl | rfl | rfl | rfl | rfl
  · have henv : b.prepareStep.env.getD [] = b.request.source.source.env ++
        [.of "SOURCE_SUB_PATH" (b.request.source.subPath.getD ""),
          .of "PLATFORM_ENV_VARS" ((Codec.list EnvVar.codec).encode b.request.env).compact,
          .of "IMAGE_TAG" b.request.tag, .of "DNS_PROBE_HOSTNAME" b.host, b.changesEnv, b.apiEnv,
          Layout.homeEnv] := rfl
    rw [henv, List.forall_mem_append]
    exact ⟨names_sourceEnv b.request.source.source (by decide),
      by simp [EnvVar.of, changesEnv, apiEnv, Layout.homeEnv, Layout.homeName]⟩
  case inr.inr.inr.inr.inr => exact absurd rfl hname
  -- The other steps have the version, and the home directory or the root of the bindings.
  all_goals
    simp [detectStep, analyzeStep, restoreStep, buildStep, lifecycleStep, helperStep, EnvVar.of,
      apiEnv, Layout.homeEnv, Layout.homeName, Layout.bindingRootEnv]

theorem pod_dated (volumes : List Volume) :
    (b.pod (b.buildSteps bindings epoch) volumes).Dated epoch where
  exported := by
    refine ⟨_, b.mem_steps_pod.2 ⟨b.exportStep epoch, ?_, rfl⟩, b.adapt_name _⟩
    exact List.mem_cons_of_mem _ (b.mem_buildSteps.2 (.inr (.inr (.inr (.inr (.inr rfl))))))
  told := by
    intro c hc
    obtain ⟨d, hd, rfl⟩ := b.mem_steps_pod.1 hc
    rw [adapt_name]
    split
    next hname =>
      rcases List.mem_cons.1 hd with rfl | hd
      · have hcompletion : b.completionStep.name = "completion" := rfl
        exact absurd (hcompletion.symm.trans hname) (by decide)
      · rw [eq_exportStep hd hname, variablesNamed_exportStep]
    next hname =>
      exact variablesNamed_adapt_eq_nil (time_not_mem hd hname) (by decide) (by decide)

end PlanBasis

variable {r : BuildRequest} {ctx : PlanContext} {pod : Pod}

/-- A plan depends on the directive by what it comes to. -/
theorem plan_congr_creationTime {s t : String}
    (h : CreationTime.resolve ctx.now s = CreationTime.resolve ctx.now t) :
    plan { r with creationTime := s } ctx = plan { r with creationTime := t } ctx := by
  have hapi : PlanBasis.negotiate { r with creationTime := s } ctx =
      PlanBasis.negotiate { r with creationTime := t } ctx := rfl
  rcases plan_pair_cases hapi rfl with ⟨e, hs, ht⟩ | ⟨api, reference, -, hs, ht⟩
  · rw [hs, ht]
  · have hbuild : PlanBasis.buildPod ⟨{ r with creationTime := s }, ctx, api, reference.host⟩ =
        PlanBasis.buildPod ⟨{ r with creationTime := t }, ctx, api, reference.host⟩ := by
      simp only [PlanBasis.buildPod, h]
      rfl
    rw [hs, ht, hbuild]
    rfl

theorem dated_of_plan (h : plan r ctx = .ok pod) (hbuild : ¬ pod.IsRebase) :
    ∃ epoch, CreationTime.resolve ctx.now r.creationTime = .ok epoch ∧
      (epoch = none ↔ r.creationTime = "") ∧ pod.Dated epoch := by
  obtain ⟨b, rfl, rfl, -, hpod⟩ := plan_cases h
  cases hpod with
  | rebase => exact absurd (b.names_rebase _ _) hbuild
  | build _ _ hepoch =>
    refine ⟨_, hepoch, ?_, PlanBasis.pod_dated _⟩
    rw [← CreationTime.resolve_eq_ok_none_iff, hepoch, Except.ok.injEq]

/-- A directive is resolved by its form, and numbers by their printed forms. A build tells
what the directive came to, in the printed form and to the export step alone, so that all
spellings of one time give one plan. -/
theorem plan_dated :
    (∀ s, CreationTime.Resolves s) ∧
      (∀ n now : Int64, CreationTime.resolve now (toString n.toInt) = .ok (some n)) ∧
      ∀ (r : BuildRequest) (ctx : PlanContext),
        (∀ pod, plan r ctx = .ok pod → ¬ pod.IsRebase →
          ∃ epoch, CreationTime.resolve ctx.now r.creationTime = .ok epoch ∧
            (epoch = none ↔ r.creationTime = "") ∧ pod.Dated epoch) ∧
        ∀ (n : Int64) (s t : String), CreationTime.resolve ctx.now s = .ok (some n) →
          CreationTime.resolve ctx.now t = .ok (some n) →
          plan { r with creationTime := s } ctx = plan { r with creationTime := t } ctx := by
  refine ⟨CreationTime.resolves, CreationTime.resolve_toString, fun r ctx =>
    ⟨fun pod => dated_of_plan, fun n s t hs ht => plan_congr_creationTime ?_⟩⟩
  rw [hs, ht]

/-- A request whose directive is no printed form. -/
def spelledRequest : BuildRequest :=
  { BuildRequest.ofTag "host/app" with creationTime := "-007" }

theorem spelled_dated :
    ∃ pod, plan spelledRequest PlanContext.linux = .ok pod ∧ ¬ pod.IsRebase ∧
      pod.Dated (some (-7)) ∧
      plan { spelledRequest with creationTime := "-7" } PlanContext.linux = .ok pod := by
  obtain ⟨-, -, hplans⟩ := plan_dated
  obtain ⟨hdated, hspelled⟩ := hplans spelledRequest PlanContext.linux
  obtain ⟨pod, hplan⟩ : ∃ pod, plan spelledRequest PlanContext.linux = .ok pod :=
    exists_eq_ok_iff.2 (by decide +kernel)
  have hbuild : ¬ pod.IsRebase := by
    rw [plan_isRebase_iff hplan]
    decide
  have hlong : CreationTime.resolve PlanContext.linux.now "-007" = .ok (some (-7)) := by decide
  have hshort : CreationTime.resolve PlanContext.linux.now "-7" = .ok (some (-7)) := by decide
  obtain ⟨epoch, hepoch, -, hpod⟩ := hdated pod hplan hbuild
  obtain rfl : some (-7) = epoch := Except.ok.inj (hlong.symm.trans hepoch)
  exact ⟨pod, hplan, hbuild, hpod, (hspelled (-7) "-7" "-007" hshort hlong).trans hplan⟩

/-- Both ends of the range are in it. -/
example :
    CreationTime.resolve 0 "-9223372036854775808" = .ok (some Int64.minValue) ∧
      CreationTime.resolve 0 "+9223372036854775807" = .ok (some Int64.maxValue) ∧
      CreationTime.resolve 0 "9223372036854775808" =
        .error (.invalidCreationTime "9223372036854775808" .tooLarge) := by
  decide +kernel

end ImageBuild
