import ImageBuild.Proofs.Plan.PathArguments
import ImageBuild.Proofs.Plan.Restriction

/-!
# Which mounts can be written through

What is attached to a step is mounted read-only, and a mount that can be written through
is of a volume that steps share. No such volume holds a secret or a config map but that of
the notary, which the last step mounts like a directory of its own. So all secrets of a pod
are mounted read-only unless the image is signed with a notary. The main statement is
`plan_secretsReadOnly_iff`.
-/
namespace ImageBuild

open Attachment (volumeNames)

/-- A container of the pod sees a secret or a config map by the mount. -/
structure Pod.ShowsSecret (p : Pod) (c : Container) (m : VolumeMount) : Prop where
  step : c ∈ p.steps
  mount : m ∈ c.mounts.getD []
  volume : ∃ v ∈ p.spec.volumes, v.name = m.name ∧ v.source.isSensitive = true

/-- No container can write to a secret or to a config map. -/
def Pod.SecretsReadOnly (p : Pod) : Prop := ∀ c m, p.ShowsSecret c m → m.readOnly = some true

/-- The image is to be signed with a notary. -/
def BuildRequest.Notarized (r : BuildRequest) : Prop :=
  ∃ signing notary, r.signing = some signing ∧ signing.notary = some notary ∧ notary.url ≠ ""

/-- The mount is read-only, or of a volume that all steps share. -/
def VolumeMount.Harmless (m : VolumeMount) : Prop :=
  m.readOnly = some true ∨ VolumeUse.common.Names m.name

namespace VolumeMount

variable {ms : List VolumeMount}

theorem harmless_attached (as : List Attachment) : ∀ m ∈ Attachment.mounts as, m.Harmless := by
  intro m hm
  obtain ⟨a, -, rfl⟩ := List.mem_map.1 hm
  exact .inl rfl

theorem harmless_scratch
    (h : ∀ n ∈ ms.map VolumeMount.name, n ∈ SharedVolume.scratch.map SharedVolume.name) :
    ∀ m ∈ ms, m.Harmless :=
  fun _ hm => .inr (VolumeUse.common_scratch h (List.mem_map_of_mem hm))

theorem harmless_cache (c : CacheStrategy) : ∀ m ∈ c.mounts, m.Harmless := by
  cases c with
  | volume claim => exact List.forall_mem_singleton.2 (.inr (VolumeUse.names_shared .cache))
  | none | registry => exact List.forall_mem_nil _

end VolumeMount

theorem Attachment.name_mem_volumeNames {as : List Attachment} {v : Volume}
    (h : v ∈ Attachment.volumes as) : v.name ∈ volumeNames as := by
  rw [← Attachment.volumeNames_volumes]
  exact List.mem_map_of_mem h

/-- A volume with a use of its own is none that all steps share. -/
theorem VolumeUse.Names.not_common {u : VolumeUse} {n : String} (h : u.Names n)
    (hu : u ≠ .common) : ¬ VolumeUse.common.Names n :=
  fun hcommon => hu (h.unique hcommon)

namespace PlanBasis

open VolumeMount VolumeUse

variable (b : PlanBasis) {bindings : List Attachment} {epoch : Option Int64} {c : Container}
  {m : VolumeMount} {steps : List Container} {volumes : List Volume}

theorem notarized_iff : b.request.Notarized ↔ ∃ n, b.notary = some n := by
  simp only [BuildRequest.Notarized, notary, Option.filter_eq_some_iff, Option.bind_eq_some_iff,
    Bool.not_eq_true', String.isEmpty_eq_false_iff]
  constructor
  · rintro ⟨signing, n, hsigning, hnotary, hurl⟩
    exact ⟨n, ⟨signing, hsigning, hnotary⟩, hurl⟩
  · rintro ⟨n, ⟨signing, hsigning, hnotary⟩, hurl⟩
    exact ⟨signing, n, hsigning, hnotary, hurl⟩

theorem buildSteps_harmless :
    ∀ c ∈ b.buildSteps bindings epoch, ∀ m ∈ c.mounts.getD [], m.Harmless := by
  intro c hc
  rcases b.mem_buildSteps.1 hc with rfl | rfl | rfl | rfl | rfl | rfl
  · exact List.forall_mem_append.2
      ⟨List.forall_mem_append.2 ⟨harmless_attached _, harmless_attached _⟩,
        harmless_scratch (by decide)⟩
  · exact List.forall_mem_append.2 ⟨harmless_scratch (by decide), harmless_attached _⟩
  · refine List.forall_mem_append.2 ⟨harmless_scratch (by decide), ?_⟩
    cases b.legacy with
    | false => exact List.forall_mem_nil _
    | true => exact harmless_cache b.cache
  · exact List.forall_mem_append.2 ⟨harmless_scratch (by decide), harmless_cache b.cache⟩
  · exact List.forall_mem_append.2 ⟨harmless_scratch (by decide), harmless_attached _⟩
  · exact List.forall_mem_append.2 ⟨harmless_scratch (by decide), harmless_cache b.cache⟩

theorem rebaseStep_harmless (image : String) :
    ∀ m ∈ (b.rebaseStep image).mounts.getD [], m.Harmless :=
  List.forall_mem_append.2
    ⟨List.forall_mem_append.2 ⟨harmless_attached _, harmless_attached _⟩,
      harmless_scratch (by decide)⟩

/-- The last step mounts the secret of the notary like a directory that it may write to. -/
theorem completionStep_harmless_or_notary (hm : m ∈ b.completionStep.mounts.getD []) :
    m.Harmless ∨ m = Layout.notary ∧ b.request.Notarized := by
  rcases List.mem_append.1 hm with hm | hm
  · rcases List.mem_append.1 hm with hm | hm
    · exact .inl (harmless_scratch (by decide) m hm)
    · obtain ⟨n, hn, rfl⟩ : ∃ n, b.notary = some n ∧ Layout.notary = m := by simpa using hm
      exact .inr ⟨rfl, b.notarized_iff.2 ⟨n, hn⟩⟩
  · exact .inl (harmless_attached _ m hm)

/-- What steps share holds no secrets. -/
theorem not_common_of_isSensitive (hbound : ∀ n ∈ volumeNames bindings, binding.Names n)
    {v : Volume} (hv : v ∈ b.buildVolumes bindings) (hsensitive : v.source.isSensitive = true) :
    ¬ common.Names v.name := by
  simp only [buildVolumes, List.mem_append] at hv
  rcases hv with ((((((hcredential | hsigning) | hpull) | hbinding) | hscratch) | hcache) |
    hnotary) | hos
  · exact (access_attachments (Attachment.name_mem_volumeNames hcredential)).not_common (by decide)
  · exact (signing_attachments (Attachment.name_mem_volumeNames hsigning)).not_common (by decide)
  · exact (access_pulls (Attachment.name_mem_volumeNames hpull)).not_common (by decide)
  · exact (hbound _ (Attachment.name_mem_volumeNames hbinding)).not_common (by decide)
  · obtain ⟨m, -, rfl⟩ := List.mem_map.1 hscratch
    cases hsensitive
  · unfold CacheStrategy.volumes at hcache
    split at hcache
    · obtain rfl := List.mem_singleton.1 hcache
      cases hsensitive
    · cases hcache
  · have hnames :=
      names_of_shared (s := .notary) b.names_notaryVolumes (List.mem_map_of_mem hnotary)
    exact hnames.not_common (by decide)
  · unfold osVolumes at hos
    split at hos
    · obtain rfl := List.mem_singleton.1 hos
      cases hsensitive
    · cases hos

/-- The steps write to shared volumes only, and these hold no secrets. -/
structure Guards (steps : List Container) (volumes : List Volume) : Prop where
  harmless : ∀ c ∈ steps, ∀ m ∈ c.mounts.getD [], m.Harmless
  apart : ∀ v ∈ volumes, v.source.isSensitive = true → ¬ common.Names v.name
  notary : ∀ v ∈ b.notaryVolumes, v ∈ volumes

theorem buildPod_guards (h : ServiceBinding.attachAll b.request.services = .ok bindings) :
    b.Guards (b.buildSteps bindings epoch) (b.buildVolumes bindings) where
  harmless := b.buildSteps_harmless
  apart _ hv := b.not_common_of_isSensitive (fun _ => binding_attachAll h) hv
  notary _ hv := List.mem_append_left _ (List.mem_append_right _ hv)

theorem rebasePod_guards (image : String) : b.Guards [b.rebaseStep image] b.rebaseVolumes where
  harmless := List.forall_mem_singleton.2 (b.rebaseStep_harmless image)
  apart v hv := by
    have hbuild : v ∈ b.buildVolumes [] := b.rebaseVolumes_sublist.subset hv
    exact b.not_common_of_isSensitive (List.forall_mem_nil _) hbuild
  notary _ hv := List.mem_append_left _ (List.mem_append_right _ hv)

variable {b}

theorem Guards.readOnly_or_notary (h : b.Guards steps volumes)
    (hshows : (b.pod steps volumes).ShowsSecret c m) :
    m.readOnly = some true ∨
      c.name = "completion" ∧ m = Layout.notary ∧ b.request.Notarized := by
  obtain ⟨hstep, hmount, v, hv, hname, hsensitive⟩ := hshows
  have hcommon : ¬ common.Names m.name := hname ▸ h.apart v hv hsensitive
  obtain ⟨d, hd, rfl⟩ := b.mem_steps_pod.1 hstep
  rw [mounts_adapt, List.mem_append] at hmount
  rw [adapt_name]
  rcases hmount with hmount | hlauncher
  · rcases List.mem_cons.1 hd with rfl | hd
    · rcases b.completionStep_harmless_or_notary hmount with hharmless | hnotary
      · exact .inl (hharmless.resolve_right hcommon)
      · exact .inr ⟨rfl, hnotary⟩
    · exact .inl ((h.harmless d hd m hmount).resolve_right hcommon)
  · split at hlauncher
    · rw [List.mem_singleton.1 hlauncher] at hcommon
      exact absurd (names_shared .networkWait) hcommon
    · cases hlauncher

theorem Guards.showsNotary (h : b.Guards steps volumes) (hnotary : b.request.Notarized) :
    ∃ c, c.name = "completion" ∧ (b.pod steps volumes).ShowsSecret c Layout.notary := by
  obtain ⟨n, hn⟩ := b.notarized_iff.1 hnotary
  refine ⟨b.adapt b.completionStep, b.adapt_name _, ?_⟩
  constructor
  · exact b.mem_steps_pod.2 ⟨_, List.mem_cons_self, rfl⟩
  · rw [mounts_adapt]
    simp [completionStep, helperStep, hn]
  · have hvolume : Volume.secret Layout.notary.name n.secretName ∈ b.notaryVolumes := by
      simp [notaryVolumes, hn]
    exact ⟨_, h.notary _ hvolume, rfl, rfl⟩

end PlanBasis

variable {r : BuildRequest} {ctx : PlanContext} {pod : Pod}

theorem exists_guards_of_plan (h : plan r ctx = .ok pod) :
    ∃ (b : PlanBasis) (steps : List Container) (volumes : List Volume),
      b.request = r ∧ b.Guards steps volumes ∧ pod = b.pod steps volumes := by
  obtain ⟨b, rfl, -, -, hpod⟩ := plan_cases h
  cases hpod with
  | rebase => exact ⟨b, _, _, rfl, b.rebasePod_guards _, rfl⟩
  | build _ hbindings => exact ⟨b, _, _, rfl, b.buildPod_guards hbindings, rfl⟩

theorem readOnly_or_notary_of_plan (h : plan r ctx = .ok pod) {c : Container} {m : VolumeMount}
    (hshows : pod.ShowsSecret c m) :
    m.readOnly = some true ∨ c.name = "completion" ∧ m = Layout.notary ∧ r.Notarized := by
  obtain ⟨b, steps, volumes, rfl, hguards, rfl⟩ := exists_guards_of_plan h
  exact hguards.readOnly_or_notary hshows

theorem showsNotary_of_plan (h : plan r ctx = .ok pod) (hnotary : r.Notarized) :
    ∃ c, c.name = "completion" ∧ pod.ShowsSecret c Layout.notary := by
  obtain ⟨b, steps, volumes, rfl, hguards, rfl⟩ := exists_guards_of_plan h
  exact hguards.showsNotary hnotary

/-- Unless the image is signed with a notary, all secrets of a pod are mounted read-only. If it
is, they are but for the secret of the notary, which the last step can write to. -/
theorem plan_secretsReadOnly_iff (h : plan r ctx = .ok pod) :
    (pod.SecretsReadOnly ↔ ¬ r.Notarized) ∧
      ∀ c m, pod.ShowsSecret c m →
        (m.readOnly ≠ some true ↔ c.name = "completion" ∧
          m = ⟨"/var/notary/v1", none, "notary-dir", none, none, none⟩) := by
  have hnotary : Layout.notary.readOnly ≠ some true := by decide
  refine ⟨⟨fun hreadOnly hnotarized => ?_, fun hnone c m hshows => ?_⟩, fun c m hshows => ?_⟩
  · obtain ⟨c, -, hshows⟩ := showsNotary_of_plan h hnotarized
    exact hnotary (hreadOnly c _ hshows)
  · rcases readOnly_or_notary_of_plan h hshows with hreadOnly | ⟨-, -, hnotarized⟩
    · exact hreadOnly
    · exact absurd hnotarized hnone
  · constructor
    · intro hwritable
      obtain ⟨hname, hmount, -⟩ := (readOnly_or_notary_of_plan h hshows).resolve_left hwritable
      exact ⟨hname, hmount⟩
    · rintro ⟨-, rfl⟩
      exact hnotary

/-- A request with bindings whose image is not signed. -/
def unsignedRequest : BuildRequest := { boundRequest with signing := none }

theorem unsigned_secretsReadOnly :
    ¬ unsignedRequest.Notarized ∧
      ∃ pod, plan unsignedRequest keyContext = .ok pod ∧ pod.SecretsReadOnly := by
  have hnone : ¬ unsignedRequest.Notarized := by
    rintro ⟨signing, notary, hsigning, -⟩
    cases hsigning
  obtain ⟨pod, hplan⟩ : ∃ pod, plan unsignedRequest keyContext = .ok pod :=
    exists_eq_ok_iff.2 (by decide +kernel)
  exact ⟨hnone, pod, hplan, (plan_secretsReadOnly_iff hplan).1.2 hnone⟩

/-- A request whose image is signed with a notary. -/
def notarizedRequest : BuildRequest :=
  { BuildRequest.ofTag "host/app" with
    signing := some ⟨some ⟨"https://notary", "notary"⟩, ∅⟩ }

theorem notarizedSecret_writable :
    ∃ pod, plan notarizedRequest PlanContext.linux = .ok pod ∧
      (∃ c, c.name = "completion" ∧
        pod.ShowsSecret c ⟨"/var/notary/v1", none, "notary-dir", none, none, none⟩) ∧
      ¬ pod.SecretsReadOnly := by
  have hnotarized : notarizedRequest.Notarized := ⟨_, _, rfl, rfl, by decide⟩
  obtain ⟨pod, hplan⟩ : ∃ pod, plan notarizedRequest PlanContext.linux = .ok pod :=
    exists_eq_ok_iff.2 (by decide +kernel)
  obtain ⟨c, hname, hshows⟩ := showsNotary_of_plan hplan hnotarized
  refine ⟨pod, hplan, ⟨c, hname, hshows⟩, fun h => ?_⟩
  cases h c _ hshows

end ImageBuild
