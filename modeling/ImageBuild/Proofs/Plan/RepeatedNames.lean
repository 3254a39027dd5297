import ImageBuild.Proofs.Plan.CredentialRule
import ImageBuild.Proofs.Plan.MountPath

/-!
# Secrets that share a name

Volumes are named by positions, but a step sees a secret at a path with its name. So
credentials that share a name clash in each step that has both of them, although their
volumes differ; where names are no paths, nothing else clashes. Pull secrets are told
apart by their names before they are attached. The main statement is
`mountPaths_distinct_iff`.
-/
namespace ImageBuild

open Attachment (paths)

theorem nodup_map_append_iff (lead : String) (names : List String) :
    (names.map fun n => lead ++ n).Nodup ↔ names.Nodup :=
  List.nodup_map_iff fun _ _ h => (String.append_right_inj lead).1 h

theorem MountPath.text_map_concat (lead names : List String) :
    (names.map fun n => lead ++ [n]).map text = names.map fun n => text lead ++ "/" ++ n := by
  rw [List.map_map]
  exact List.map_congr_left fun n _ => text_concat lead n

/-- What is attached for some members of a list is seen at the paths of these members. -/
theorem Attachment.paths_filterMap_zipIdx_eq {α : Type} {attach : α → Nat → Option Attachment}
    {p : α → Bool} {path : α → String}
    (h : ∀ x i, (attach x i).map Attachment.path = if p x then some (path x) else none)
    (xs : List α) :
    paths (xs.zipIdx.filterMap fun x => attach x.1 x.2) = (xs.filter p).map path := by
  calc paths (xs.zipIdx.filterMap fun x => attach x.1 x.2)
    _ = xs.zipIdx.filterMap fun x => if p x.1 then some (path x.1) else none := by
      rw [paths, List.map_filterMap]
      exact List.filterMap_congr fun x _ => h x.1 x.2
    _ = (xs.zipIdx.map Prod.fst).filterMap fun x => if p x then some (path x) else none := by
      rw [List.filterMap_map]
      rfl
    _ = (xs.filter p).map path := by
      rw [List.zipIdx_map_fst, ← List.filterMap_eq_map, List.filterMap_filter]
      rfl

namespace Credential

/-- The credentials of a list that a rule of the scope matches. -/
def inScope (scope : CredentialScope) (cs : List Credential) : List Credential :=
  cs.filter fun c => CredentialRule.Matches scope c

/-- The credentials of a list that hold a signing key. -/
def signingKeys (cs : List Credential) : List Credential := cs.filter signingKey

variable {scope : CredentialScope} {cs : List Credential}

theorem text_places (cs : List Credential) :
    (places cs).map MountPath.text = (cs.map name).map fun n => secretsPath ++ "/" ++ n := by
  rw [← MountPath.text_secretRoot, ← MountPath.text_map_concat, List.map_map (l := cs)]
  rfl

theorem text_signingPlaces (cs : List Credential) :
    (signingPlaces cs).map MountPath.text =
      (cs.map name).map fun n => secretsPath ++ "/cosign/" ++ n := by
  have hlead : MountPath.text (MountPath.secretRoot ++ ["cosign"]) ++ "/" =
      secretsPath ++ "/cosign/" := by
    decide
  rw [← hlead, ← MountPath.text_map_concat, List.map_map (l := cs)]
  rfl

theorem paths_attachments_eq (scope : CredentialScope) (cs : List Credential) :
    paths (attachments scope cs) =
      ((inScope scope cs).map name).map fun n => secretsPath ++ "/" ++ n := by
  rw [inScope, List.map_map]
  refine Attachment.paths_filterMap_zipIdx_eq (fun c i => ?_) cs
  rw [attachment, Option.map_map]
  cases h : c.arg scope <;> simp [CredentialRule.matches_iff, h]

theorem paths_signingAttachments_eq (cs : List Credential) :
    paths (signingAttachments cs) =
      ((signingKeys cs).map name).map fun n => secretsPath ++ "/cosign/" ++ n := by
  rw [signingKeys, List.map_map]
  refine Attachment.paths_filterMap_zipIdx_eq (fun c i => ?_) cs
  rw [signingAttachment]
  cases h : c.signingKey <;> simp

theorem paths_pullAttachments_eq (builder request : List String) :
    paths (pullAttachments builder request) =
      (names (builder ++ request)).map fun n => secretsPath ++ "/imagepull/" ++ n := by
  rw [paths, pullAttachments, List.map_map]
  conv_rhs => rw [← List.zipIdx_map_fst 0 (names (builder ++ request)), List.map_map]
  rfl

theorem paths_attachments_nodup_iff :
    (paths (attachments scope cs)).Nodup ↔ ((inScope scope cs).map name).Nodup := by
  rw [paths_attachments_eq, nodup_map_append_iff]

theorem paths_signingAttachments_nodup_iff :
    (paths (signingAttachments cs)).Nodup ↔ ((signingKeys cs).map name).Nodup := by
  rw [paths_signingAttachments_eq, nodup_map_append_iff]

theorem paths_pullAttachments_nodup (builder request : List String) :
    (paths (pullAttachments builder request)).Nodup := by
  rw [paths_pullAttachments_eq, nodup_map_append_iff]
  exact (names_areFirst _).nodup

end Credential

/-- No name of a secret or of a binding is a path. -/
structure NamesFree (r : BuildRequest) (ctx : PlanContext) : Prop where
  credentials : ∀ c ∈ ctx.credentials, '/' ∉ c.name.toList
  pulls : ∀ n ∈ r.builder.pullSecrets ++ (ctx.pullSecrets ++ r.source.source.pullSecrets),
    '/' ∉ n.toList
  services : ∀ s ∈ r.services, '/' ∉ s.name.toList

/-- The scope of the step that has the credentials. -/
def planScope (r : BuildRequest) (ctx : PlanContext) : CredentialScope :=
  if r.rebasable ctx.builder.stackId then .registryOnly else .all

namespace PlanBasis

open Credential (inScope signingKeys)

variable {b : PlanBasis} {scope : CredentialScope}

/-- A step with credentials sees its volumes apart only if those in scope do not share
a name. -/
theorem names_of_access_nodup {name image command : String} {args : List String}
    {env : List EnvVar} {shared : List VolumeMount}
    (h : (b.adapt (helperStep name image command args env
      (Attachment.mounts (b.credentials scope) ++ Attachment.mounts b.pulls ++
        shared))).mountPaths.Nodup) :
    ((inScope scope b.context.credentials).map Credential.name).Nodup := by
  rw [mountPaths_adapt, mountPaths_helperStep, List.map_append, List.map_append,
    Attachment.mountPaths_mounts] at h
  exact Credential.paths_attachments_nodup_iff.1 h.of_append_left.of_append_left.of_append_left

theorem names_of_completion_nodup (h : (b.adapt b.completionStep).mountPaths.Nodup) :
    ((signingKeys b.context.credentials).map Credential.name).Nodup := by
  rw [completionStep, mountPaths_adapt, mountPaths_helperStep, List.map_append,
    Attachment.mountPaths_mounts] at h
  exact Credential.paths_signingAttachments_nodup_iff.1 h.of_append_left.of_append_right

theorem accessAt_inScope (h : NamesFree b.request b.context)
    (hnames : ((inScope scope b.context.credentials).map Credential.name).Nodup) :
    b.AccessAt scope (Credential.places (inScope scope b.context.credentials) ++
      Credential.pullPlaces (names (b.request.builder.pullSecrets ++
        (b.context.pullSecrets ++ b.request.source.source.pullSecrets)))) where
  paths := by
    have hcredentials : paths (b.credentials scope) =
        (Credential.places (inScope scope b.context.credentials)).map MountPath.text := by
      rw [Credential.text_places]
      exact Credential.paths_attachments_eq scope b.context.credentials
    rw [List.map_append, hcredentials]
    exact (List.Sublist.refl _).append (Credential.paths_pullAttachments _ _)
  below := by
    refine Credential.below_places hnames (names_areFirst _).nodup ?_ ?_
    · exact fun c hc => h.credentials c (List.mem_of_mem_filter hc)
    · exact fun n hn => h.pulls n (mem_names.1 hn).2

theorem completion_nodup (h : NamesFree b.request b.context)
    (hnames : ((signingKeys b.context.credentials).map Credential.name).Nodup) :
    (b.adapt b.completionStep).mountPaths.Nodup := by
  have hsigning : paths b.signing =
      (Credential.signingPlaces (signingKeys b.context.credentials)).map MountPath.text := by
    rw [Credential.text_signingPlaces]
    exact Credential.paths_signingAttachments_eq b.context.credentials
  have hbelow := Credential.below_signingPlaces hnames fun c hc =>
    h.credentials c (List.mem_of_mem_filter hc)
  exact (completion_seesApart (hsigning ▸ List.Sublist.refl _) hbelow).nodup_adapt

theorem pod_nodup_iff {steps : List Container} {volumes : List Volume} :
    (∀ c ∈ (b.pod steps volumes).steps, c.mountPaths.Nodup) ↔
      (b.adapt b.completionStep).mountPaths.Nodup ∧ ∀ c ∈ steps, (b.adapt c).mountPaths.Nodup := by
  have hsteps : (∀ d ∈ b.completionStep :: steps, (b.adapt d).mountPaths.Nodup) ↔
      (b.adapt b.completionStep).mountPaths.Nodup ∧
        ∀ c ∈ steps, (b.adapt c).mountPaths.Nodup := List.forall_mem_cons
  rw [← hsteps]
  constructor
  · intro h d hd
    exact h _ (b.mem_steps_pod.2 ⟨d, hd, rfl⟩)
  · intro h c hc
    obtain ⟨d, hd, rfl⟩ := b.mem_steps_pod.1 hc
    exact h d hd

end PlanBasis

namespace Credential

variable {r : BuildRequest} {ctx : PlanContext} {pod : Pod}

theorem names_of_plan_nodup (h : plan r ctx = .ok pod)
    (hsteps : ∀ c ∈ pod.steps, c.mountPaths.Nodup) :
    ((inScope (planScope r ctx) ctx.credentials).map name).Nodup ∧
      ((signingKeys ctx.credentials).map name).Nodup := by
  obtain ⟨b, rfl, rfl, -, hpod⟩ := plan_cases h
  cases hpod with
  | rebase hr =>
    obtain ⟨hcompletion, hrebase⟩ := PlanBasis.pod_nodup_iff.1 hsteps
    rw [planScope, if_pos hr]
    exact ⟨PlanBasis.names_of_access_nodup (hrebase _ List.mem_cons_self),
      PlanBasis.names_of_completion_nodup hcompletion⟩
  | build hr =>
    obtain ⟨hcompletion, hbuild⟩ := PlanBasis.pod_nodup_iff.1 hsteps
    rw [planScope, if_neg (by simp [hr])]
    exact ⟨PlanBasis.names_of_access_nodup (hbuild _ (PlanBasis.mem_buildSteps _ |>.2 (.inl rfl))),
      PlanBasis.names_of_completion_nodup hcompletion⟩

theorem plan_nodup_of_names (hfree : NamesFree r ctx) (h : plan r ctx = .ok pod)
    (hnames : ((inScope (planScope r ctx) ctx.credentials).map name).Nodup)
    (hkeys : ((signingKeys ctx.credentials).map name).Nodup) :
    ∀ c ∈ pod.steps, c.mountPaths.Nodup := by
  obtain ⟨b, rfl, rfl, -, hpod⟩ := plan_cases h
  cases hpod with
  | rebase hr =>
    rw [planScope, if_pos hr] at hnames
    refine PlanBasis.pod_nodup_iff.2 ⟨PlanBasis.completion_nodup hfree hkeys, fun c hc => ?_⟩
    rw [List.mem_singleton.1 hc]
    exact (PlanBasis.rebase_seesApart (PlanBasis.accessAt_inScope hfree hnames) _).nodup_adapt
  | build hr hbindings =>
    rw [planScope, if_neg (by simp [hr])] at hnames
    refine PlanBasis.pod_nodup_iff.2 ⟨PlanBasis.completion_nodup hfree hkeys, fun c hc => ?_⟩
    rcases PlanBasis.buildSteps_cases hfree.services hbindings hc with rfl | hnodup
    · exact (PlanBasis.prepare_seesApart (PlanBasis.accessAt_inScope hfree hnames)).nodup_adapt
    · exact hnodup

/-- The mount paths of credentials and of signing keys are distinct exactly if those that
are mounted have different names; those of pull secrets always are. So a pod has a step
with two mounts at one path whenever two of them share a name, and, where names are no
paths, only then. -/
theorem mountPaths_distinct_iff (cs : List Credential) :
    (∀ scope, ((Attachment.mounts (attachments scope cs)).map VolumeMount.mountPath).Nodup ↔
        ((inScope scope cs).map name).Nodup) ∧
      (((Attachment.mounts (signingAttachments cs)).map VolumeMount.mountPath).Nodup ↔
        ((signingKeys cs).map name).Nodup) ∧
      (∀ builder request : List String,
        ((Attachment.mounts (pullAttachments builder request)).map VolumeMount.mountPath).Nodup) ∧
      ∀ r ctx pod, ctx.credentials = cs → plan r ctx = .ok pod →
        ((∀ c ∈ pod.steps, ((c.mounts.getD []).map VolumeMount.mountPath).Nodup) →
          ((inScope (planScope r ctx) cs).map name).Nodup ∧
            ((signingKeys cs).map name).Nodup) ∧
        (NamesFree r ctx → ((inScope (planScope r ctx) cs).map name).Nodup →
          ((signingKeys cs).map name).Nodup →
          ∀ c ∈ pod.steps, ((c.mounts.getD []).map VolumeMount.mountPath).Nodup) := by
  simp only [Attachment.mountPaths_mounts]
  refine ⟨fun scope => paths_attachments_nodup_iff, paths_signingAttachments_nodup_iff,
    paths_pullAttachments_nodup, ?_⟩
  rintro r ctx pod rfl hplan
  exact ⟨names_of_plan_nodup hplan, fun hfree => plan_nodup_of_names hfree hplan⟩

/-- A credential for registries and one for git that share a name. -/
def sharedName : List Credential :=
  [⟨"host", .dockerConfigJson, ∅, false⟩, ⟨"host", .sshAuth, ∅, false⟩]

/-- The step that prepares a build has both credentials, the step that rebases one. -/
theorem sharedName_distinct :
    ∃ built rebased,
      plan (.ofTag "host/app") { PlanContext.linux with credentials := sharedName } = .ok built ∧
      plan rebaseRequest { PlanContext.linux with credentials := sharedName } = .ok rebased ∧
      (∃ c ∈ built.steps, ¬ ((c.mounts.getD []).map VolumeMount.mountPath).Nodup) ∧
      ∀ c ∈ rebased.steps, ((c.mounts.getD []).map VolumeMount.mountPath).Nodup := by
  obtain ⟨built, hbuilt⟩ : ∃ pod, plan (.ofTag "host/app")
      { PlanContext.linux with credentials := sharedName } = .ok pod :=
    exists_eq_ok_iff.2 (by decide +kernel)
  obtain ⟨rebased, hrebased⟩ : ∃ pod, plan rebaseRequest
      { PlanContext.linux with credentials := sharedName } = .ok pod :=
    exists_eq_ok_iff.2 (by decide +kernel)
  have hshared : ¬ ((inScope .all sharedName).map name).Nodup := by decide
  have hone : ((inScope .registryOnly sharedName).map name).Nodup := by decide
  have hkeys : ((signingKeys sharedName).map name).Nodup := by decide
  have hfree : NamesFree rebaseRequest { PlanContext.linux with credentials := sharedName } :=
    ⟨by decide, by decide, by decide⟩
  have hpods := (mountPaths_distinct_iff sharedName).2.2.2
  refine ⟨built, rebased, hbuilt, hrebased, ?_, (hpods _ _ _ rfl hrebased).2 hfree hone hkeys⟩
  by_contra hclash
  push Not at hclash
  exact hshared ((hpods _ _ _ rfl hbuilt).1 hclash).1

/-- A credential that is listed twice, as by a user and by the service account. -/
def listedTwice : List Credential :=
  [⟨"registry", .dockerConfigJson, ∅, true⟩, ⟨"registry", .dockerConfigJson, ∅, true⟩]

theorem listedTwice_clash :
    (∀ scope, ¬ ((Attachment.mounts (attachments scope listedTwice)).map
      VolumeMount.mountPath).Nodup) ∧
      ¬ ((Attachment.mounts (signingAttachments listedTwice)).map VolumeMount.mountPath).Nodup ∧
      ∃ pod, plan (.ofTag "host/app") { PlanContext.linux with credentials := listedTwice } =
          .ok pod ∧
        ∃ c ∈ pod.steps, ¬ ((c.mounts.getD []).map VolumeMount.mountPath).Nodup := by
  have hnames : ∀ scope, ¬ ((inScope scope listedTwice).map name).Nodup := by
    intro scope
    cases scope <;> decide
  have hkeys : ¬ ((signingKeys listedTwice).map name).Nodup := by decide
  obtain ⟨pod, hplan⟩ : ∃ pod, plan (.ofTag "host/app")
      { PlanContext.linux with credentials := listedTwice } = .ok pod :=
    exists_eq_ok_iff.2 (by decide +kernel)
  simp only [Attachment.mountPaths_mounts]
  refine ⟨fun scope h => hnames scope (paths_attachments_nodup_iff.1 h),
    fun h => hkeys (paths_signingAttachments_nodup_iff.1 h), pod, hplan, ?_⟩
  by_contra hclash
  push Not at hclash
  exact hkeys (names_of_plan_nodup hplan hclash).2

end Credential

end ImageBuild
