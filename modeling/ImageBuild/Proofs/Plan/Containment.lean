import ImageBuild.Proofs.Plan.Rebase
import ImageBuild.Proofs.Plan.VolumeClosure

/-!
# Which steps see secrets

Each secret is for one purpose, and only the steps that serve it mount the
secret: credentials and pull secrets are for the first step, signing keys for
the last one, and bindings for the steps that run buildpacks. No other step of
the builder's image sees any secret. The purpose of a volume can be read off its
name, so that it is enough to look at names. The main statement is
`plan_secretsContained`.
-/
namespace ImageBuild

open Attachment (volumeNames)

/-- What a volume is for. -/
inductive VolumeUse where
  /-- To read the source and the images that a build starts from. -/
  | access
  /-- To sign the image. -/
  | signing
  /-- To reach services while buildpacks run. -/
  | binding
  /-- To hand files from step to step. -/
  | common
  deriving DecidableEq

def VolumeName.use : VolumeName → VolumeUse
  | .credential _ => .access
  | .pull _ => .access
  | .signing _ => .signing
  | .service _ => .binding
  | .metadata _ => .binding
  | .bindingSecret _ => .binding
  | .shared .notary => .signing
  | .shared _ => .common

namespace VolumeUse

/-- The name is that of a volume with the use. -/
def Names (u : VolumeUse) (n : String) : Prop := ∃ a : VolumeName, a.text = n ∧ a.use = u

variable {u v : VolumeUse} {n : String} {ns ms : List String}

theorem Names.unique (hu : u.Names n) (hv : v.Names n) : u = v := by
  obtain ⟨a, ha, rfl⟩ := hu
  obtain ⟨b, hb, rfl⟩ := hv
  rw [VolumeName.text_injective (ha.trans hb.symm)]

theorem names_of_sublist {as : List VolumeName} (hsub : ns.Sublist (as.map VolumeName.text))
    (huse : ∀ a ∈ as, a.use = u) (hn : n ∈ ns) : u.Names n := by
  obtain ⟨a, ha, rfl⟩ := List.mem_map.1 (hsub.subset hn)
  exact ⟨a, rfl, huse a ha⟩

theorem names_of_placed {name : Nat → VolumeName} {k : Nat}
    (hsub : ns.Sublist ((VolumeName.placed name k).map VolumeName.text))
    (huse : ∀ i, (name i).use = u) (hn : n ∈ ns) : u.Names n := by
  refine names_of_sublist hsub (fun a ha => ?_) hn
  obtain ⟨i, -, rfl⟩ := List.mem_map.1 ha
  exact huse i

theorem names_shared (s : SharedVolume) : (VolumeName.shared s).use.Names s.name :=
  ⟨.shared s, VolumeName.text_shared s, rfl⟩

theorem names_of_shared {s : SharedVolume} (hsub : ns.Sublist [s.name]) (hn : n ∈ ns) :
    (VolumeName.shared s).use.Names n := by
  rw [List.mem_singleton.1 (hsub.subset hn)]
  exact names_shared s

theorem access_attachments {scope : CredentialScope} {cs : List Credential}
    (hn : n ∈ volumeNames (Credential.attachments scope cs)) : access.Names n :=
  names_of_placed (Credential.names_attachments scope cs) (fun _ => rfl) hn

theorem access_pulls {builder request : List String}
    (hn : n ∈ volumeNames (Credential.pullAttachments builder request)) : access.Names n :=
  names_of_placed (Credential.names_pullAttachments builder request) (fun _ => rfl) hn

theorem signing_attachments {cs : List Credential}
    (hn : n ∈ volumeNames (Credential.signingAttachments cs)) : signing.Names n :=
  names_of_placed (Credential.names_signingAttachments cs) (fun _ => rfl) hn

theorem use_of_mem_ofBinding {a : VolumeName} {b : String} (h : a ∈ VolumeName.ofBinding b) :
    a.use = binding := by
  simp only [VolumeName.ofBinding, List.mem_cons, List.not_mem_nil, or_false] at h
  rcases h with rfl | rfl | rfl <;> rfl

theorem binding_attachments {b : ServiceBinding} {as : List Attachment}
    (h : b.attachments = .ok as) (hn : n ∈ volumeNames as) : binding.Names n :=
  names_of_sublist (ServiceBinding.names_attachments h) (fun _ => use_of_mem_ofBinding) hn

theorem binding_attachAll {bs : List ServiceBinding} {as : List Attachment}
    (h : ServiceBinding.attachAll bs = .ok as) (hn : n ∈ volumeNames as) : binding.Names n := by
  refine names_of_sublist (ServiceBinding.names_attachUnless h) (fun a ha => ?_) hn
  obtain ⟨b, -, hb⟩ := List.mem_flatMap.1 ha
  exact use_of_mem_ofBinding hb

theorem common_scratch (hns : ∀ n ∈ ns, n ∈ SharedVolume.scratch.map SharedVolume.name)
    (hn : n ∈ ns) : common.Names n := by
  have huse : ∀ s ∈ SharedVolume.scratch, (VolumeName.shared s).use = common := by decide
  obtain ⟨s, hs, rfl⟩ := List.mem_map.1 (hns n hn)
  rw [← huse s hs]
  exact names_shared s

/-- The names are those of volumes with the use, or of volumes that all steps share. -/
def Covers (u : VolumeUse) (ns : List String) : Prop := ∀ n ∈ ns, u.Names n ∨ common.Names n

theorem Covers.append (h : u.Covers ns) (h' : u.Covers ms) : u.Covers (ns ++ ms) := by
  intro n hn
  rcases List.mem_append.1 hn with hn | hn
  · exact h n hn
  · exact h' n hn

theorem covers_own (h : ∀ n ∈ ns, u.Names n) : u.Covers ns := fun n hn => .inl (h n hn)

theorem covers_scratch (h : ∀ n ∈ ns, n ∈ SharedVolume.scratch.map SharedVolume.name) :
    u.Covers ns :=
  fun _ hn => .inr (common_scratch h hn)

theorem covers_cacheVolumes (c : CacheStrategy) : u.Covers (c.volumes.map Volume.name) :=
  fun _ hn => .inr (names_of_shared (s := .cache) (PlanBasis.names_cacheVolumes c) hn)

theorem covers_osVolumes (b : PlanBasis) : u.Covers (b.osVolumes.map Volume.name) :=
  fun _ hn => .inr (names_of_shared (s := .networkWait) b.names_osVolumes hn)

theorem covers_notaryVolumes (b : PlanBasis) : signing.Covers (b.notaryVolumes.map Volume.name) :=
  fun _ hn => .inl (names_of_shared (s := .notary) b.names_notaryVolumes hn)

/-- The use of the secrets that a step may see. -/
def ofStep (name : String) : VolumeUse :=
  if name = "prepare" ∨ name = "rebase" then .access
  else if name = "completion" then .signing
  else if name = "detect" ∨ name = "build" then .binding
  else .common

theorem ofStep_eq_access {name : String} (h : ofStep name = access) :
    name = "prepare" ∨ name = "rebase" := by
  unfold ofStep at h
  split_ifs at h
  assumption

theorem ofStep_eq_signing {name : String} (h : ofStep name = signing) : name = "completion" := by
  unfold ofStep at h
  split_ifs at h
  assumption

theorem ofStep_eq_binding {name : String} (h : ofStep name = binding) :
    name = "detect" ∨ name = "build" := by
  unfold ofStep at h
  split_ifs at h
  assumption

end VolumeUse

/-- All that a step mounts is for its own use or shared by all steps. -/
def Container.SeesOwn (c : Container) : Prop := (VolumeUse.ofStep c.name).Covers c.mountNames

theorem Container.SeesOwn.ofStep_eq {c : Container} {u : VolumeUse} {n : String} (h : c.SeesOwn)
    (hn : n ∈ c.mountNames) (hu : u.Names n) (hown : u ≠ .common) :
    VolumeUse.ofStep c.name = u := by
  rcases h n hn with hstep | hcommon
  · exact hstep.unique hu
  · exact absurd (hu.unique hcommon) hown

namespace PlanBasis

open VolumeUse

variable (b : PlanBasis) {bindings : List Attachment} {epoch : Option Int64}

theorem covers_access (scope : CredentialScope) :
    access.Covers (volumeNames (b.credentials scope) ++ volumeNames b.pulls) :=
  (covers_own fun _ => access_attachments).append (covers_own fun _ => access_pulls)

theorem prepareStep_seesOwn : b.prepareStep.SeesOwn := by
  rw [Container.SeesOwn, mountNames_prepareStep]
  exact (b.covers_access .all).append (covers_scratch (by decide))

theorem rebaseStep_seesOwn (image : String) : (b.rebaseStep image).SeesOwn := by
  rw [Container.SeesOwn, mountNames_rebaseStep]
  exact (b.covers_access .registryOnly).append (covers_scratch (by decide))

theorem completionStep_seesOwn : b.completionStep.SeesOwn := by
  rw [Container.SeesOwn, mountNames_completionStep]
  exact ((covers_scratch (by decide)).append (covers_notaryVolumes b)).append
    (covers_own fun _ => signing_attachments)

theorem detectStep_seesOwn (h : ServiceBinding.attachAll b.request.services = .ok bindings) :
    (b.detectStep bindings).SeesOwn := by
  rw [Container.SeesOwn, mountNames_detectStep]
  exact (covers_scratch (by decide)).append (covers_own fun _ => binding_attachAll h)

theorem buildStep_seesOwn (h : ServiceBinding.attachAll b.request.services = .ok bindings) :
    (b.buildStep bindings).SeesOwn := by
  rw [Container.SeesOwn, mountNames_buildStep]
  exact (covers_scratch (by decide)).append (covers_own fun _ => binding_attachAll h)

theorem analyzeStep_seesOwn : b.analyzeStep.SeesOwn := by
  rw [Container.SeesOwn, mountNames_analyzeStep]
  refine (covers_scratch (by decide)).append ?_
  cases b.legacy with
  | false => exact fun _ hn => absurd hn List.not_mem_nil
  | true => exact covers_cacheVolumes b.cache

theorem restoreStep_seesOwn : b.restoreStep.SeesOwn := by
  rw [Container.SeesOwn, mountNames_restoreStep]
  exact (covers_scratch (by decide)).append (covers_cacheVolumes b.cache)

theorem exportStep_seesOwn : (b.exportStep epoch).SeesOwn := by
  rw [Container.SeesOwn, mountNames_exportStep]
  exact (covers_scratch (by decide)).append (covers_cacheVolumes b.cache)

theorem buildSteps_seeOwn (h : ServiceBinding.attachAll b.request.services = .ok bindings) :
    ∀ c ∈ b.buildSteps bindings epoch, c.SeesOwn := by
  intro c hc
  rcases b.mem_buildSteps.1 hc with rfl | rfl | rfl | rfl | rfl | rfl
  · exact b.prepareStep_seesOwn
  · exact b.detectStep_seesOwn h
  · exact b.analyzeStep_seesOwn
  · exact b.restoreStep_seesOwn
  · exact b.buildStep_seesOwn h
  · exact b.exportStep_seesOwn

theorem adapt_seesOwn {c : Container} (h : c.SeesOwn) : (b.adapt c).SeesOwn := by
  rw [Container.SeesOwn, adapt_name, mountNames_adapt]
  exact h.append (covers_osVolumes b)

theorem pod_seesOwn {steps : List Container} {volumes : List Volume}
    (h : ∀ c ∈ steps, c.SeesOwn) : ∀ c ∈ (b.pod steps volumes).steps, c.SeesOwn := by
  intro c hc
  obtain ⟨d, hd, rfl⟩ := b.mem_steps_pod.1 hc
  apply b.adapt_seesOwn
  rcases List.mem_cons.1 hd with rfl | hd
  · exact b.completionStep_seesOwn
  · exact h d hd

/-- The steps of the builder's image. -/
def lifecycle : List String := ["analyze", "detect", "restore", "build", "export"]

theorem lifecycle_ne : ∀ n ∈ lifecycle, n ≠ "prepare" ∧ n ≠ "rebase" ∧ n ≠ "completion" := by
  decide

theorem lifecycleStep_runsBuilder {name : String} (h : name ∈ lifecycle) (command : String)
    (args : List String) (env : List EnvVar) (mounts : List VolumeMount) :
    (b.lifecycleStep name command args env mounts).name ∈ lifecycle ∧
      (b.lifecycleStep name command args env mounts).image = some b.request.builder.image :=
  ⟨h, rfl⟩

end PlanBasis

section Steps

variable {r : BuildRequest} {ctx : PlanContext} {pod : Pod} {c : Container}

theorem plan_seesOwn (h : plan r ctx = .ok pod) : ∀ c ∈ pod.steps, c.SeesOwn := by
  obtain ⟨b, -, -, -, hpod⟩ := plan_cases h
  cases hpod with
  | rebase =>
    refine b.pod_seesOwn fun c hc => ?_
    rw [List.mem_singleton.1 hc]
    exact b.rebaseStep_seesOwn _
  | build _ hbindings => exact b.pod_seesOwn (b.buildSteps_seeOwn hbindings)

theorem plan_eq_pod (h : plan r ctx = .ok pod) :
    ∃ (b : PlanBasis) (steps : List Container) (volumes : List Volume),
      pod = b.pod steps volumes := by
  obtain ⟨b, -, -, -, hpod⟩ := plan_cases h
  cases hpod with
  | rebase => exact ⟨b, _, _, rfl⟩
  | build => exact ⟨b, _, _, rfl⟩

theorem name_of_isRebase (h : plan r ctx = .ok pod) (hr : pod.IsRebase) (hc : c ∈ pod.steps) :
    c.name = "rebase" ∨ c.name = "completion" := by
  rcases List.mem_append.1 hc with hinit | hcompletion
  · have hname : c.name ∈ pod.spec.initContainers.map Container.name := List.mem_map_of_mem hinit
    rw [hr] at hname
    exact .inl (List.mem_singleton.1 hname)
  · obtain ⟨b, steps, volumes, rfl⟩ := plan_eq_pod h
    rw [List.mem_singleton.1 hcompletion, PlanBasis.adapt_name]
    exact .inr rfl

theorem name_of_not_isRebase (h : plan r ctx = .ok pod) (hr : ¬ pod.IsRebase)
    (hc : c ∈ pod.steps) :
    c.name = "prepare" ∨ c.name = "completion" ∨
      c.name ∈ PlanBasis.lifecycle ∧ c.image = some r.builder.image := by
  obtain ⟨b, rfl, -, -, hpod⟩ := plan_cases h
  cases hpod with
  | rebase => exact absurd (b.names_rebase _ _) hr
  | build =>
    obtain ⟨d, hd, rfl⟩ := (PlanBasis.mem_steps_pod _).1 hc
    rw [PlanBasis.adapt_name, PlanBasis.adapt_image]
    rw [List.mem_cons, PlanBasis.mem_buildSteps] at hd
    rcases hd with rfl | rfl | rfl | rfl | rfl | rfl | rfl
    · exact .inr (.inl rfl)
    · exact .inl rfl
    all_goals exact .inr (.inr (PlanBasis.lifecycleStep_runsBuilder _ (by decide) _ _ _ _))

end Steps

/-- Whether a credential is for registries: a password or a file of one of two formats. -/
def Credential.ForRegistry (c : Credential) : Prop :=
  (c.kind = .basicAuth ∧ (c.annotation Credential.dockerKey).isSome) ∨
    c.kind = .dockerConfigJson ∨ c.kind = .dockerConfig

namespace Credential

theorem isSome_registryArg_iff {c : Credential} : c.registryArg.isSome ↔ c.ForRegistry := by
  unfold registryArg ForRegistry
  cases c.kind <;> simp

/-- A volume that is named by the place of a credential holds the secret at that place. -/
theorem getElem?_of_mem_attachments {scope : CredentialScope} {cs : List Credential} {i : Nat}
    (h : (VolumeName.credential i).text ∈ volumeNames (attachments scope cs)) :
    ∃ c, cs[i]? = some c ∧ (c.arg scope).isSome := by
  obtain ⟨a, ha, hname⟩ := List.mem_map.1 h
  obtain ⟨⟨c, j⟩, hc, hattach⟩ := List.mem_filterMap.1 ha
  obtain ⟨arg, harg, rfl⟩ := Option.map_eq_some_iff.1 hattach
  have hplace : VolumeName.credential j = .credential i := VolumeName.text_injective hname
  obtain rfl := VolumeName.credential.inj hplace
  exact ⟨c, List.mem_zipIdx_iff_getElem?.1 hc, Option.isSome_of_eq_some harg⟩

theorem credential_notMem_pullAttachments {builder request : List String} (i : Nat) :
    (VolumeName.credential i).text ∉ volumeNames (pullAttachments builder request) := by
  intro h
  obtain ⟨a, ha, hname⟩ := List.mem_map.1 ((names_pullAttachments builder request).subset h)
  obtain ⟨j, -, rfl⟩ := List.mem_map.1 ha
  cases VolumeName.text_injective hname

end Credential

namespace PlanBasis

open VolumeUse

variable (b : PlanBasis) {n : String}

/-- A rebase binds no services. -/
theorem not_binding_of_mem_rebaseVolumes (hn : n ∈ b.rebaseVolumes.map Volume.name) :
    ¬ binding.Names n := by
  intro hbinding
  simp only [names_rebaseVolumes, List.mem_append] at hn
  rcases hn with ((((hcredential | hsigning) | hpull) | hscratch) | hnotary) | hos
  · cases hbinding.unique (access_attachments hcredential)
  · cases hbinding.unique (signing_attachments hsigning)
  · cases hbinding.unique (access_pulls hpull)
  · cases hbinding.unique (common_scratch (by decide) hscratch)
  · cases hbinding.unique (names_of_shared (s := .notary) b.names_notaryVolumes hnotary)
  · cases hbinding.unique (names_of_shared (s := .networkWait) b.names_osVolumes hos)

/-- Volumes of credentials are for registries. -/
theorem forRegistry_of_mem_rebaseVolumes {i : Nat}
    (hn : (VolumeName.credential i).text ∈ b.rebaseVolumes.map Volume.name) :
    ∃ c, b.context.credentials[i]? = some c ∧ c.ForRegistry := by
  have haccess : access.Names (VolumeName.credential i).text := ⟨_, rfl, rfl⟩
  simp only [names_rebaseVolumes, List.mem_append] at hn
  rcases hn with ((((hcredential | hsigning) | hpull) | hscratch) | hnotary) | hos
  · obtain ⟨c, hc, harg⟩ := Credential.getElem?_of_mem_attachments hcredential
    exact ⟨c, hc, Credential.isSome_registryArg_iff.1 harg⟩
  · cases haccess.unique (signing_attachments hsigning)
  · exact absurd hpull (Credential.credential_notMem_pullAttachments i)
  · cases haccess.unique (common_scratch (by decide) hscratch)
  · cases haccess.unique (names_of_shared (s := .notary) b.names_notaryVolumes hnotary)
  · cases haccess.unique (names_of_shared (s := .networkWait) b.names_osVolumes hos)

end PlanBasis

section Plans

variable (r : BuildRequest) (ctx : PlanContext)

/-- The name is that of a volume with a credential or a pull secret. -/
def PlanContext.IsAccess (n : String) : Prop :=
  (∃ scope, n ∈ volumeNames (Credential.attachments scope ctx.credentials)) ∨
    n ∈ volumeNames (Credential.pullAttachments r.builder.pullSecrets
      (ctx.pullSecrets ++ r.source.source.pullSecrets))

/-- The name is that of a volume with a signing key or with the secret of the notary. -/
def PlanContext.IsSigning (n : String) : Prop :=
  n ∈ volumeNames (Credential.signingAttachments ctx.credentials) ∨ n = Layout.notary.name

/-- The name is that of a volume of a service binding. -/
def BuildRequest.IsBound (n : String) : Prop :=
  ∃ b ∈ r.services, ∃ as, b.attachments = .ok as ∧ n ∈ volumeNames as

/-- Secrets are seen by the steps that they are for, and by no other. -/
structure Pod.SecretsContained (p : Pod) : Prop where
  /-- Credentials and pull secrets are for the step that prepares or rebases. -/
  access : ∀ c ∈ p.steps, ∀ n ∈ c.mountNames, ctx.IsAccess r n →
    (p.IsRebase → c.name = "rebase") ∧ (¬ p.IsRebase → c.name = "prepare")
  /-- Signing keys and the secret of the notary are for the last step. -/
  signing : ∀ c ∈ p.steps, ∀ n ∈ c.mountNames, ctx.IsSigning n → c.name = "completion"
  /-- Service bindings are for the steps that run buildpacks. -/
  bound : ∀ c ∈ p.steps, ∀ n ∈ c.mountNames, r.IsBound n → c.name = "detect" ∨ c.name = "build"
  /-- What runs in the image of the builder sees no other secrets. -/
  lifecycle : ∀ c ∈ p.steps, c.name ∈ PlanBasis.lifecycle →
    c.image = some r.builder.image ∧
      ∀ n ∈ c.mountNames, ¬ ctx.IsAccess r n ∧ ¬ ctx.IsSigning n
  /-- A rebase has no service bindings. -/
  rebaseBound : p.IsRebase → ∀ v ∈ p.spec.volumes, ¬ r.IsBound v.name
  /-- Of the credentials, a rebase has those for registries only. -/
  rebaseRegistry : p.IsRebase → ∀ v ∈ p.spec.volumes, ∀ i : Nat,
    v.name = "secret-volume-" ++ toString i →
      ∃ c, ctx.credentials[i]? = some c ∧ c.ForRegistry

variable {r ctx} {n : String}

theorem PlanContext.IsAccess.names (h : ctx.IsAccess r n) : VolumeUse.access.Names n := by
  rcases h with ⟨scope, hcredential⟩ | hpull
  · exact VolumeUse.access_attachments hcredential
  · exact VolumeUse.access_pulls hpull

theorem PlanContext.IsSigning.names (h : ctx.IsSigning n) : VolumeUse.signing.Names n := by
  rcases h with hkey | rfl
  · exact VolumeUse.signing_attachments hkey
  · exact VolumeUse.names_shared .notary

theorem BuildRequest.IsBound.names (h : r.IsBound n) : VolumeUse.binding.Names n := by
  obtain ⟨b, -, as, hb, hn⟩ := h
  exact VolumeUse.binding_attachments hb hn

variable {pod : Pod} {c : Container}

theorem name_of_isAccess (h : plan r ctx = .ok pod) (hc : c ∈ pod.steps) (hn : n ∈ c.mountNames)
    (hsecret : ctx.IsAccess r n) : c.name = "prepare" ∨ c.name = "rebase" :=
  VolumeUse.ofStep_eq_access ((plan_seesOwn h c hc).ofStep_eq hn hsecret.names (by decide))

theorem name_of_isSigning (h : plan r ctx = .ok pod) (hc : c ∈ pod.steps) (hn : n ∈ c.mountNames)
    (hsecret : ctx.IsSigning n) : c.name = "completion" :=
  VolumeUse.ofStep_eq_signing ((plan_seesOwn h c hc).ofStep_eq hn hsecret.names (by decide))

theorem name_of_isBound (h : plan r ctx = .ok pod) (hc : c ∈ pod.steps) (hn : n ∈ c.mountNames)
    (hsecret : r.IsBound n) : c.name = "detect" ∨ c.name = "build" :=
  VolumeUse.ofStep_eq_binding ((plan_seesOwn h c hc).ofStep_eq hn hsecret.names (by decide))

theorem accessStep_of_isRebase (h : plan r ctx = .ok pod) (hr : pod.IsRebase) (hc : c ∈ pod.steps)
    (hname : c.name = "prepare" ∨ c.name = "rebase") : c.name = "rebase" := by
  rcases name_of_isRebase h hr hc with hrebase | hcompletion
  · exact hrebase
  · rw [hcompletion] at hname
    exact absurd hname (by decide)

theorem accessStep_of_not_isRebase (h : plan r ctx = .ok pod) (hr : ¬ pod.IsRebase)
    (hc : c ∈ pod.steps) (hname : c.name = "prepare" ∨ c.name = "rebase") :
    c.name = "prepare" := by
  rcases name_of_not_isRebase h hr hc with hprepare | hcompletion | ⟨hphase, -⟩
  · exact hprepare
  · rw [hcompletion] at hname
    exact absurd hname (by decide)
  · exact hname.resolve_right (PlanBasis.lifecycle_ne _ hphase).2.1

theorem image_of_mem_lifecycle (h : plan r ctx = .ok pod) (hc : c ∈ pod.steps)
    (hphase : c.name ∈ PlanBasis.lifecycle) : c.image = some r.builder.image := by
  obtain ⟨hprepare, hrebase, hcompletion⟩ := PlanBasis.lifecycle_ne _ hphase
  by_cases hr : pod.IsRebase
  · rcases name_of_isRebase h hr hc with hname | hname
    · exact absurd hname hrebase
    · exact absurd hname hcompletion
  · rcases name_of_not_isRebase h hr hc with hname | hname | ⟨-, himage⟩
    · exact absurd hname hprepare
    · exact absurd hname hcompletion
    · exact himage

theorem volumes_of_isRebase (h : plan r ctx = .ok pod) (hr : pod.IsRebase) :
    ∃ b : PlanBasis, b.context = ctx ∧ pod.spec.volumes = b.rebaseVolumes := by
  have hrebasable := (plan_isRebase_iff h).1 hr
  obtain ⟨b, rfl, rfl, -, hpod⟩ := plan_cases h
  cases hpod with
  | rebase => exact ⟨b, rfl, rfl⟩
  | build hneeded => exact absurd (hrebasable.symm.trans hneeded) (by decide)

/-- In each pod that is planned, secrets are seen by the steps that they are for. -/
theorem plan_secretsContained (h : plan r ctx = .ok pod) : pod.SecretsContained r ctx where
  access _ hc _ hn hsecret :=
    have hname := name_of_isAccess h hc hn hsecret
    ⟨fun hr => accessStep_of_isRebase h hr hc hname,
      fun hr => accessStep_of_not_isRebase h hr hc hname⟩
  signing _ hc _ hn hsecret := name_of_isSigning h hc hn hsecret
  bound _ hc _ hn hsecret := name_of_isBound h hc hn hsecret
  lifecycle c hc hphase := by
    obtain ⟨hprepare, hrebase, hcompletion⟩ := PlanBasis.lifecycle_ne _ hphase
    refine ⟨image_of_mem_lifecycle h hc hphase, fun n hn => ⟨fun hsecret => ?_, fun hsecret => ?_⟩⟩
    · rcases name_of_isAccess h hc hn hsecret with hname | hname
      · exact hprepare hname
      · exact hrebase hname
    · exact hcompletion (name_of_isSigning h hc hn hsecret)
  rebaseBound hr v hv hsecret := by
    obtain ⟨b, -, hvolumes⟩ := volumes_of_isRebase h hr
    rw [hvolumes] at hv
    exact b.not_binding_of_mem_rebaseVolumes (List.mem_map_of_mem hv) hsecret.names
  rebaseRegistry hr v hv i hname := by
    obtain ⟨b, hcontext, hvolumes⟩ := volumes_of_isRebase h hr
    have hcredential : (VolumeName.credential i).text ∈ b.rebaseVolumes.map Volume.name := by
      have htext : (VolumeName.credential i).text = v.name := hname.symm
      rw [htext, ← hvolumes]
      exact List.mem_map_of_mem hv
    rw [← hcontext]
    exact b.forRegistry_of_mem_rebaseVolumes hcredential

end Plans

/-- A context with a key for git, a registry and a signing key. -/
def keyContext : PlanContext :=
  { boundContext with
    credentials := ⟨"deploy", .sshAuth, ∅, false⟩ :: boundContext.credentials }

theorem bound_secretsContained :
    ∃ pod, plan boundRequest keyContext = .ok pod ∧
      pod.SecretsContained boundRequest keyContext := by
  have hp : (plan boundRequest keyContext).toOption.isSome = true := by decide +kernel
  cases hplan : plan boundRequest keyContext with
  | error e => simp [hplan, Except.toOption] at hp
  | ok pod => exact ⟨pod, rfl, plan_secretsContained hplan⟩

end ImageBuild
