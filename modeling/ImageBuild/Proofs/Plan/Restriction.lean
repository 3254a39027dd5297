import ImageBuild.Proofs.Plan.Containment

/-!
# What a rebase leaves of a build

The pod that rebases an image is the pod that would build it with fewer steps and
fewer volumes. What a build has besides is listed as a whole, and the volumes of the
two pods are compared as lists: those of the rebase together with the others are a
rearrangement of those of the build. The main statement is `plan_rebase_restricts`.
-/
namespace ImageBuild

/-- Whether a credential is for git: a password for a repository, or a key. -/
def Credential.ForGit (c : Credential) : Prop :=
  (c.kind = .basicAuth ∧ (c.annotation Credential.gitKey).isSome) ∨ c.kind = .sshAuth

/-- The volumes that a build has and a rebase has not. -/
inductive BuildOnlyVolume (r : BuildRequest) (ctx : PlanContext) : Volume → Prop
  | credential {i : Nat} {c : Credential} (place : ctx.credentials[i]? = some c) (git : c.ForGit)
      (other : ¬ c.ForRegistry) :
      BuildOnlyVolume r ctx ⟨"secret-volume-" ++ toString i, .secret c.name⟩
  | binding {b : ServiceBinding} {as : List Attachment} {a : Attachment} (service : b ∈ r.services)
      (attached : b.attachments = .ok as) (part : a ∈ as) : BuildOnlyVolume r ctx a.volume
  | scratch {n : String} (name : n ∈ ["workspace-dir", "layers-dir", "platform-dir"]) :
      BuildOnlyVolume r ctx ⟨n, .emptyDir⟩
  | cache {claim : String} (config : r.volumeCache = some claim)
      (os : ctx.builder.isWindows = false) : BuildOnlyVolume r ctx ⟨"cache-dir", .claim claim⟩

/-- The pod that rebases differs from the pod that builds in its steps and volumes only,
and has the volumes of a build but for those that only a build needs. -/
structure Pod.Restricts (rebased built : Pod) (r : BuildRequest) (ctx : PlanContext) : Prop where
  metadata : rebased.metadata = built.metadata
  completion : rebased.spec.containers = built.spec.containers
  spec : { rebased.spec with
    initContainers := built.spec.initContainers
    volumes := built.spec.volumes } = built.spec
  volumes : rebased.spec.volumes.Sublist built.spec.volumes
  dropped : ∀ v, v ∈ built.spec.volumes ∧ v ∉ rebased.spec.volumes ↔ BuildOnlyVolume r ctx v

namespace Credential

theorem isSome_gitArg_iff {c : Credential} : c.gitArg.isSome ↔ c.ForGit := by
  unfold gitArg ForGit
  cases c.kind <;> simp

/-- The attachments of the credentials that are not for registries. -/
def gitAttachments (cs : List Credential) : List Attachment :=
  (cs.zipIdx.filter fun c => !c.1.registryArg.isSome).filterMap fun c => c.1.attachment .all c.2

/-- A credential for registries is attached alike in both scopes. -/
theorem attachments_registryOnly (cs : List Credential) :
    attachments .registryOnly cs =
      (cs.zipIdx.filter fun c => c.1.registryArg.isSome).filterMap fun c =>
        c.1.attachment .all c.2 := by
  rw [List.filterMap_filter]
  refine List.filterMap_congr fun c _ => ?_
  cases h : c.1.registryArg <;> simp [attachment, arg, h]

theorem attachments_registryOnly_sublist (cs : List Credential) :
    (attachments .registryOnly cs).Sublist (attachments .all cs) := by
  rw [attachments_registryOnly]
  exact List.filter_sublist.filterMap _

theorem attachments_perm (cs : List Credential) :
    (attachments .registryOnly cs ++ gitAttachments cs).Perm (attachments .all cs) := by
  rw [attachments_registryOnly, gitAttachments, ← List.filterMap_append]
  exact (List.filter_append_perm _ cs.zipIdx).filterMap _

theorem mem_volumes_gitAttachments {cs : List Credential} {v : Volume} :
    v ∈ Attachment.volumes (gitAttachments cs) ↔
      ∃ (i : Nat) (c : Credential), cs[i]? = some c ∧ c.ForGit ∧ ¬ c.ForRegistry ∧
        .secret ("secret-volume-" ++ toString i) c.name = v := by
  constructor
  · intro hv
    obtain ⟨a, ha, rfl⟩ := List.mem_map.1 hv
    obtain ⟨⟨c, i⟩, hc, hattach⟩ := List.mem_filterMap.1 ha
    obtain ⟨hplace, hother⟩ := List.mem_filter.1 hc
    obtain ⟨arg, harg, rfl⟩ := Option.map_eq_some_iff.1 hattach
    have hregistry : c.registryArg = none := by simpa using hother
    have hgit : c.gitArg = some arg := by simpa [Credential.arg, hregistry] using harg
    refine ⟨i, c, List.mem_zipIdx_iff_getElem?.1 hplace, ?_, ?_, rfl⟩
    · exact isSome_gitArg_iff.1 (Option.isSome_of_eq_some hgit)
    · rw [← isSome_registryArg_iff, hregistry]
      simp
  · rintro ⟨i, c, hplace, hgit, hother, rfl⟩
    rw [← isSome_registryArg_iff, Bool.not_eq_true, Option.isSome_eq_false_iff,
      Option.isNone_iff_eq_none] at hother
    obtain ⟨arg, harg⟩ := Option.isSome_iff_exists.1 (isSome_gitArg_iff.2 hgit)
    refine List.mem_map.2 ⟨_, List.mem_filterMap.2 ⟨(c, i), List.mem_filter.2 ⟨?_, ?_⟩,
      Option.map_eq_some_iff.2 ⟨arg, ?_, rfl⟩⟩, rfl⟩
    · exact List.mem_zipIdx_iff_getElem?.2 hplace
    · simp [hother]
    · simp [Credential.arg, hother, harg]

end Credential

/-- What is attached for a list of bindings is attached for one of them. -/
theorem ServiceBinding.mem_attachUnless {taken : List String} {bs : List ServiceBinding}
    {as : List Attachment} {a : Attachment} (h : attachUnless taken bs = .ok as) :
    a ∈ as ↔ ∃ b ∈ bs, ∃ here, b.attachments = .ok here ∧ a ∈ here := by
  induction bs generalizing taken as with
  | nil =>
    cases h
    simp
  | cons b bs ih =>
    obtain ⟨-, here, rest, hhere, hrest, rfl⟩ := attachUnless_cons_eq_ok_iff.1 h
    rw [List.mem_append, ih hrest, List.exists_mem_cons_iff, hhere]
    simp

theorem CacheStrategy.mem_volumes_select (r : BuildRequest) (windows : Bool) (v : Volume) :
    v ∈ (select r windows).volumes ↔
      ∃ claim, r.volumeCache = some claim ∧ windows = false ∧ ⟨"cache-dir", .claim claim⟩ = v := by
  unfold select
  cases r.volumeCache with
  | none => cases r.registryCache <;> simp [volumes]
  | some claim =>
    cases windows with
    | true => cases r.registryCache <;> simp [volumes]
    | false => simp [volumes, Layout.cache, VolumeMount.of, eq_comm]

namespace PlanBasis

variable (b : PlanBasis) {bindings : List Attachment} {v : Volume}

/-- The volumes that a build has besides those of a rebase. -/
def buildOnlyVolumes (b : PlanBasis) (bindings : List Attachment) : List Volume :=
  Attachment.volumes (Credential.gitAttachments b.context.credentials) ++
    Attachment.volumes bindings ++
    scratch [Layout.workspace, Layout.layers, Layout.platform] ++ b.cache.volumes

theorem mem_buildOnlyVolumes (h : ServiceBinding.attachAll b.request.services = .ok bindings) :
    v ∈ b.buildOnlyVolumes bindings ↔ BuildOnlyVolume b.request b.context v := by
  have hscratch : scratch [Layout.workspace, Layout.layers, Layout.platform] =
      ["workspace-dir", "layers-dir", "platform-dir"].map Volume.emptyDir := rfl
  have hcache := CacheStrategy.mem_volumes_select b.request b.windows v
  simp only [buildOnlyVolumes, List.mem_append, Credential.mem_volumes_gitAttachments, hscratch]
  constructor
  · rintro (((⟨i, c, hplace, hgit, hother, rfl⟩ | hv) | hv) | hv)
    · exact .credential hplace hgit hother
    · obtain ⟨a, ha, rfl⟩ := List.mem_map.1 hv
      obtain ⟨s, hs, as, has, ha⟩ := (ServiceBinding.mem_attachUnless h).1 ha
      exact .binding hs has ha
    · obtain ⟨n, hn, rfl⟩ := List.mem_map.1 hv
      exact .scratch hn
    · obtain ⟨claim, hclaim, hos, rfl⟩ := hcache.1 hv
      exact .cache hclaim hos
  · intro hv
    cases hv with
    | credential hplace hgit hother => exact .inl (.inl (.inl ⟨_, _, hplace, hgit, hother, rfl⟩))
    | binding hs has ha =>
      have hmem := (ServiceBinding.mem_attachUnless h).2 ⟨_, hs, _, has, ha⟩
      exact .inl (.inl (.inr (List.mem_map_of_mem hmem)))
    | scratch hn => exact .inl (.inr (List.mem_map_of_mem hn))
    | cache hclaim hos => exact .inr (hcache.2 ⟨_, hclaim, hos, rfl⟩)

theorem rebaseVolumes_sublist : b.rebaseVolumes.Sublist (b.buildVolumes bindings) := by
  have hcredentials : (Attachment.volumes (b.credentials .registryOnly)).Sublist
      (Attachment.volumes (b.credentials .all)) :=
    (Credential.attachments_registryOnly_sublist _).map _
  have hscratch : (scratch [Layout.home, Layout.report]).Sublist (scratch
      [Layout.workspace, Layout.home, Layout.layers, Layout.platform, Layout.report]) := by
    decide
  have hattached := (hcredentials.append_right (Attachment.volumes b.signing)).append_right
    (Attachment.volumes b.pulls)
  have hbound := hattached.trans (List.sublist_append_left _ (Attachment.volumes bindings))
  have hcached := (hbound.append hscratch).trans (List.sublist_append_left _ b.cache.volumes)
  exact (hcached.append_right b.notaryVolumes).append_right b.osVolumes

/-- Volumes are counted, since those of a build stand between those of a rebase. -/
theorem buildVolumes_perm (bindings : List Attachment) :
    (b.rebaseVolumes ++ b.buildOnlyVolumes bindings).Perm (b.buildVolumes bindings) := by
  have hcredentials : (Attachment.volumes (b.credentials .registryOnly) ++
      Attachment.volumes (Credential.gitAttachments b.context.credentials)).Perm
        (Attachment.volumes (b.credentials .all)) := by
    have hperm := (Credential.attachments_perm b.context.credentials).map Attachment.volume
    rwa [List.map_append] at hperm
  have hscratch : (scratch [Layout.home, Layout.report] ++
      scratch [Layout.workspace, Layout.layers, Layout.platform]).Perm (scratch
        [Layout.workspace, Layout.home, Layout.layers, Layout.platform, Layout.report]) := by
    decide
  rw [List.perm_iff_count] at hcredentials hscratch ⊢
  intro v
  have hcredential := hcredentials v
  have hshared := hscratch v
  rw [List.count_append] at hcredential hshared
  simp only [rebaseVolumes, buildOnlyVolumes, buildVolumes, List.count_append]
  omega

/-- No two volumes of a build are alike, so that those besides a rebase are no volumes
of the rebase. -/
theorem dropped_iff (h : ServiceBinding.attachAll b.request.services = .ok bindings) :
    v ∈ b.buildVolumes bindings ∧ v ∉ b.rebaseVolumes ↔ v ∈ b.buildOnlyVolumes bindings := by
  have hperm := b.buildVolumes_perm bindings
  have hnodup : (b.rebaseVolumes ++ b.buildOnlyVolumes bindings).Nodup :=
    hperm.nodup_iff.2 (List.Nodup.of_map _ (b.names_buildVolumes_nodup h))
  have hdisjoint := List.disjoint_of_nodup_append hnodup
  rw [← hperm.mem_iff, List.mem_append]
  constructor
  · rintro ⟨hrebase | honly, hnot⟩
    · exact absurd hrebase hnot
    · exact honly
  · intro honly
    exact ⟨.inr honly, fun hrebase => hdisjoint hrebase honly⟩

/-- The basis of the same plan for other reasons. -/
def withReasons (b : PlanBasis) (reasons : String) : PlanBasis :=
  { b with request := { b.request with reasons := reasons } }

/-- The reasons have no part in what a plan rests on. -/
theorem of_withReasons {r : BuildRequest} {ctx : PlanContext} {b : PlanBasis} (reasons : String)
    (h : PlanBasis.of r ctx = .ok b) :
    PlanBasis.of { r with reasons := reasons } ctx = .ok (b.withReasons reasons) := by
  obtain ⟨hne, api, reference, hapi, hparse, rfl⟩ := of_eq_ok_iff.1 h
  exact of_eq_ok_iff.2 ⟨hne, api, reference, hapi, hparse, rfl⟩

theorem pod_restricts (reasons : String) (steps others : List Container)
    (h : ServiceBinding.attachAll b.request.services = .ok bindings) :
    (b.pod steps b.rebaseVolumes).Restricts
      ((b.withReasons reasons).pod others ((b.withReasons reasons).buildVolumes bindings))
      b.request b.context where
  metadata := rfl
  completion := rfl
  spec := rfl
  volumes := b.rebaseVolumes_sublist
  dropped _ := (b.dropped_iff h).trans (b.mem_buildOnlyVolumes h)

end PlanBasis

/-- A request that is served by a rebase would, with any other reasons, be served by a
pod that the one of the rebase is a restriction of. -/
theorem plan_rebase_restricts {r : BuildRequest} {ctx : PlanContext} {reasons : String}
    {rebased built : Pod} (hr : r.rebasable ctx.builder.stackId = true)
    (hreasons : reasons ≠ "STACK") (hrebase : plan r ctx = .ok rebased)
    (hbuild : plan { r with reasons := reasons } ctx = .ok built) :
    rebased.Restricts built r ctx := by
  have hother : ¬ BuildRequest.rebasable { r with reasons := reasons }
      ctx.builder.stackId = true := by
    rw [BuildRequest.rebasable_iff, not_and_or]
    exact .inl hreasons
  obtain ⟨b, hb, ⟨-, hpod⟩ | ⟨hnot, -⟩⟩ := plan_eq_ok_iff.1 hrebase
  · obtain ⟨c, hc, ⟨hyes, -⟩ | ⟨-, hbuilt⟩⟩ := plan_eq_ok_iff.1 hbuild
    · exact absurd hyes hother
    · rw [PlanBasis.of_withReasons reasons hb] at hc
      cases hc
      obtain ⟨image, -, rfl⟩ := PlanBasis.rebasePod_eq_ok_iff.1 hpod
      obtain ⟨bindings, epoch, hbindings, -, rfl⟩ := PlanBasis.buildPod_eq_ok_iff.1 hbuilt
      obtain ⟨-, api, reference, -, -, rfl⟩ := PlanBasis.of_eq_ok_iff.1 hb
      exact PlanBasis.pod_restricts _ reasons _ _ hbindings
  · exact absurd hr (by simp [hnot])

/-- A request with bindings, a cache and a notary, after a build on the same stack. -/
def boundRebaseRequest : BuildRequest :=
  { boundRequest with
    lastBuild := some ⟨"host/app@sha256:0", "", "base"⟩
    reasons := "STACK" }

theorem bound_rebase_restricts :
    boundRebaseRequest.rebasable keyContext.builder.stackId = true ∧ "COMMIT" ≠ "STACK" ∧
      ∃ rebased built, plan boundRebaseRequest keyContext = .ok rebased ∧
        plan { boundRebaseRequest with reasons := "COMMIT" } keyContext = .ok built ∧
        rebased.Restricts built boundRebaseRequest keyContext := by
  have hr : boundRebaseRequest.rebasable keyContext.builder.stackId = true := by decide
  have hne : "COMMIT" ≠ "STACK" := by decide
  obtain ⟨rebased, hrebase⟩ : ∃ pod, plan boundRebaseRequest keyContext = .ok pod :=
    exists_eq_ok_iff.2 (by decide +kernel)
  obtain ⟨built, hbuild⟩ :
      ∃ pod, plan { boundRebaseRequest with reasons := "COMMIT" } keyContext = .ok pod :=
    exists_eq_ok_iff.2 (by decide +kernel)
  exact ⟨hr, hne, rebased, built, hrebase, hbuild, plan_rebase_restricts hr hne hrebase hbuild⟩

end ImageBuild
