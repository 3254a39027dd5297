import ImageBuild.Proofs.Decimal.Signed
import ImageBuild.Proofs.Plan.Rebase

/-!
# When there is no plan

A request fails for the first of several reasons that applies, in an order that
depends on whether it is served by a rebase. `PlanFailure` states the reasons
without running the planner; the main statement, `plan_eq_error_iff`, is that
the planner fails for these and no others.
-/
namespace ImageBuild

/-- A creation time that is left open, the present time, or a number of seconds. -/
def CreationTime.IsDirective (s : String) : Prop :=
  s = "" ∨ s = "now" ∨ ∃ n : Int64, Decimal.Denotes s.toList n.toInt

/-- What plans of both kinds need. -/
structure BuildRequest.HasBasis (r : BuildRequest) (ctx : PlanContext) : Prop where
  tagged : r.tags ≠ []
  negotiated : Negotiation.choose (Negotiation.supportedFor r.signed ctx.builder.isWindows)
    ctx.config.maxPlatformApi ctx.builder.platformApis ≠ none
  parsed : ∃ reference, ImageReference.parse r.tag = .ok reference

/-- Why there is no plan. No two reasons apply at once. -/
inductive PlanFailure (r : BuildRequest) (ctx : PlanContext) : PlanError → Prop
  | missingTag (h : r.tags = []) : PlanFailure r ctx .missingTag
  | unsupportedApi (htags : r.tags ≠ [])
      (h : Negotiation.choose (Negotiation.supportedFor r.signed ctx.builder.isWindows)
        ctx.config.maxPlatformApi ctx.builder.platformApis = none) :
      PlanFailure r ctx (.unsupportedApi ctx.builder.platformApis)
  | invalidReference {cause : ReferenceError} (htags : r.tags ≠ [])
      (hapi : Negotiation.choose (Negotiation.supportedFor r.signed ctx.builder.isWindows)
        ctx.config.maxPlatformApi ctx.builder.platformApis ≠ none)
      (h : ImageReference.parse r.tag = .error cause) :
      PlanFailure r ctx (.invalidReference r.tag cause)
  | missingLastBuild {last : LastBuild} (hbasis : r.HasBasis ctx)
      (hrebase : r.rebasable ctx.builder.stackId = true) (hlast : r.lastBuild = some last)
      (h : last.image = "") :
      PlanFailure r ctx .missingLastBuild
  | binding {e : PlanError} (hbasis : r.HasBasis ctx)
      (hbuild : r.rebasable ctx.builder.stackId = false)
      (h : ServiceBinding.attachAll r.services = .error e) :
      PlanFailure r ctx e
  | invalidCreationTime {bindings : List Attachment} {cause : Decimal.NumberError}
      (hbasis : r.HasBasis ctx) (hbuild : r.rebasable ctx.builder.stackId = false)
      (hbindings : ServiceBinding.attachAll r.services = .ok bindings)
      (h : ¬ CreationTime.IsDirective r.creationTime)
      (hcause : Decimal.readInt64 r.creationTime.toList = .error cause) :
      PlanFailure r ctx (.invalidCreationTime r.creationTime cause)

namespace CreationTime

variable {now : Int64} {s : String} {e : PlanError}

theorem not_isDirective_iff :
    ¬ IsDirective s ↔ s ≠ "" ∧ s ≠ "now" ∧ ∃ cause, Decimal.readInt64 s.toList = .error cause := by
  rw [Decimal.exists_readInt64_eq_error_iff, IsDirective, not_or, not_or, not_exists]

theorem resolve_eq_error_iff :
    resolve now s = .error e ↔
      ¬ IsDirective s ∧
        ∃ cause, Decimal.readInt64 s.toList = .error cause ∧ e = .invalidCreationTime s cause := by
  rw [not_isDirective_iff, resolve]
  by_cases hopen : s = ""
  · simp [hopen]
  by_cases hnow : s = "now"
  · simp [hnow]
  cases Decimal.readInt64 s.toList <;> simp [hopen, hnow, eq_comm]

end CreationTime

namespace PlanBasis

variable {r : BuildRequest} {ctx : PlanContext} {b : PlanBasis} {e : PlanError}

theorem negotiate_eq_error_iff :
    negotiate r ctx = .error e ↔
      Negotiation.choose (Negotiation.supportedFor r.signed ctx.builder.isWindows)
        ctx.config.maxPlatformApi ctx.builder.platformApis = none ∧
        e = .unsupportedApi ctx.builder.platformApis :=
  Negotiation.negotiate_eq_error_iff

theorem rebasePod_eq_error_iff :
    b.rebasePod = .error e ↔ b.request.previousImage = none ∧ e = .missingLastBuild := by
  unfold rebasePod
  cases b.request.previousImage <;> simp [eq_comm]

theorem buildPod_eq_error_iff :
    b.buildPod = .error e ↔
      ServiceBinding.attachAll b.request.services = .error e ∨
        ∃ bindings, ServiceBinding.attachAll b.request.services = .ok bindings ∧
          CreationTime.resolve b.context.now b.request.creationTime = .error e := by
  unfold buildPod
  simp [bind_eq_error_iff, pure, Except.pure]

theorem of_eq_error_iff :
    PlanBasis.of r ctx = .error e ↔
      r.tags = [] ∧ e = .missingTag ∨
        r.tags ≠ [] ∧ (negotiate r ctx = .error e ∨
          ∃ api cause, negotiate r ctx = .ok api ∧ ImageReference.parse r.tag = .error cause ∧
            e = .invalidReference r.tag cause) := by
  unfold PlanBasis.of
  by_cases htags : r.tags = []
  · simp [htags, throw, throwThe, MonadExceptOf.throw, bind, Except.bind, eq_comm]
  · have hempty : r.tags.isEmpty = false := by simpa using htags
    simp only [hempty, Bool.false_eq_true, if_false, bind_eq_error_iff, htags, false_and, false_or,
      ne_eq, not_false_eq_true, true_and]
    cases ImageReference.parse r.tag <;>
      simp [throw, throwThe, MonadExceptOf.throw, pure, Except.pure, eq_comm]

end PlanBasis

variable {r : BuildRequest} {ctx : PlanContext} {e : PlanError} {pod : Pod}

theorem BuildRequest.hasBasis_iff : r.HasBasis ctx ↔ ∃ b, PlanBasis.of r ctx = .ok b := by
  constructor
  · rintro ⟨htags, hapi, reference, hparse⟩
    obtain ⟨api, hapi⟩ := Option.ne_none_iff_exists'.1 hapi
    exact ⟨_, PlanBasis.of_eq_ok_iff.2
      ⟨htags, api, reference, PlanBasis.negotiate_eq_ok_iff.2 hapi, hparse, rfl⟩⟩
  · rintro ⟨b, hb⟩
    obtain ⟨htags, api, reference, hapi, hparse, -⟩ := PlanBasis.of_eq_ok_iff.1 hb
    exact ⟨htags, by simp [PlanBasis.negotiate_eq_ok_iff.1 hapi], reference, hparse⟩

theorem BuildRequest.previousImage_eq_none_iff {last : LastBuild} (h : r.lastBuild = some last) :
    r.previousImage = none ↔ last.image = "" := by
  simp [previousImage, h]

/-- What is left to fail once there is a basis. -/
theorem plan_of_hasBasis (h : r.HasBasis ctx) :
    ∃ b : PlanBasis, b.request = r ∧ b.context = ctx ∧
      plan r ctx = if r.rebasable ctx.builder.stackId then b.rebasePod else b.buildPod := by
  obtain ⟨b, hb⟩ := BuildRequest.hasBasis_iff.1 h
  refine ⟨b, ?_, ?_, plan_of_basis hb⟩
  all_goals
    obtain ⟨-, api, reference, -, -, rfl⟩ := PlanBasis.of_eq_ok_iff.1 hb
    rfl

theorem PlanFailure.of_plan (h : plan r ctx = .error e) : PlanFailure r ctx e := by
  by_cases hbasis : r.HasBasis ctx
  · obtain ⟨b, rfl, rfl, hplan⟩ := plan_of_hasBasis hbasis
    rw [hplan] at h
    cases hr : b.request.rebasable b.context.builder.stackId with
    | true =>
      rw [hr, if_pos rfl, PlanBasis.rebasePod_eq_error_iff] at h
      obtain ⟨himage, rfl⟩ := h
      obtain ⟨-, last, hlast, -⟩ := BuildRequest.rebasable_iff.1 hr
      exact .missingLastBuild hbasis hr hlast
        ((BuildRequest.previousImage_eq_none_iff hlast).1 himage)
    | false =>
      rw [hr, if_neg (by decide), PlanBasis.buildPod_eq_error_iff] at h
      rcases h with h | ⟨bindings, hbindings, h⟩
      · exact .binding hbasis hr h
      · obtain ⟨hdirective, cause, hcause, rfl⟩ := CreationTime.resolve_eq_error_iff.1 h
        exact .invalidCreationTime hbasis hr hbindings hdirective hcause
  · cases hb : PlanBasis.of r ctx with
    | ok b => exact absurd (BuildRequest.hasBasis_iff.2 ⟨b, hb⟩) hbasis
    | error e' =>
      obtain rfl := Except.error.inj ((plan_eq_error_of_basis hb).symm.trans h)
      rcases PlanBasis.of_eq_error_iff.1 hb with
        ⟨htags, rfl⟩ | ⟨htags, hnone | ⟨api, cause, hapi, hparse, rfl⟩⟩
      · exact .missingTag htags
      · obtain ⟨hchoose, rfl⟩ := PlanBasis.negotiate_eq_error_iff.1 hnone
        exact .unsupportedApi htags hchoose
      · exact .invalidReference htags (by simp [PlanBasis.negotiate_eq_ok_iff.1 hapi]) hparse

theorem PlanFailure.plan_eq (h : PlanFailure r ctx e) : plan r ctx = .error e := by
  cases h with
  | missingTag htags =>
    exact plan_eq_error_of_basis (PlanBasis.of_eq_error_iff.2 (.inl ⟨htags, rfl⟩))
  | unsupportedApi htags hnone =>
    have hapi := PlanBasis.negotiate_eq_error_iff.2 ⟨hnone, rfl⟩
    exact plan_eq_error_of_basis (PlanBasis.of_eq_error_iff.2 (.inr ⟨htags, .inl hapi⟩))
  | invalidReference htags hsome hparse =>
    obtain ⟨api, hsome⟩ := Option.ne_none_iff_exists'.1 hsome
    have hapi := PlanBasis.negotiate_eq_ok_iff.2 hsome
    exact plan_eq_error_of_basis
      (PlanBasis.of_eq_error_iff.2 (.inr ⟨htags, .inr ⟨api, _, hapi, hparse, rfl⟩⟩))
  | missingLastBuild hbasis hr hlast himage =>
    obtain ⟨b, rfl, rfl, hplan⟩ := plan_of_hasBasis hbasis
    rw [hplan, hr, if_pos rfl, PlanBasis.rebasePod_eq_error_iff]
    exact ⟨(BuildRequest.previousImage_eq_none_iff hlast).2 himage, rfl⟩
  | binding hbasis hr hbindings =>
    obtain ⟨b, rfl, rfl, hplan⟩ := plan_of_hasBasis hbasis
    rw [hplan, hr, if_neg (by decide), PlanBasis.buildPod_eq_error_iff]
    exact .inl hbindings
  | invalidCreationTime hbasis hr hbindings hdirective hcause =>
    obtain ⟨b, rfl, rfl, hplan⟩ := plan_of_hasBasis hbasis
    rw [hplan, hr, if_neg (by decide), PlanBasis.buildPod_eq_error_iff]
    exact .inr ⟨_, hbindings, CreationTime.resolve_eq_error_iff.2 ⟨hdirective, _, hcause, rfl⟩⟩

namespace PlanError

theorem head?_append {c : Char} {lead : String} (h : lead.toList.head? = some c) (rest : String) :
    (lead ++ rest).toList.head? = some c := by
  rw [String.toList_append, List.head?_append, h]
  rfl

end PlanError

end ImageBuild
