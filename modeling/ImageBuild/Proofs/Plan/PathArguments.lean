import ImageBuild.Proofs.Plan.Containment
import ImageBuild.Proofs.Plan.Phases
import Mathlib.Data.Option.Basic

/-!
# Paths that steps are told

What a step of a build is told to read or to write lies on a volume that the step
mounts. A step mounts the directory of the cache exactly where it is told of it, and
the home directory exactly where a variable says so. Flags and mounts are compared
part by part: parts that fit together also fit when they are joined. The main
statement is `plan_pathsMounted`.
-/
namespace ImageBuild

open Attachment (volumeNames)

/-- The flags whose values are paths. -/
def Flag.pathNames : List String :=
  ["layers", "analyzed", "group", "plan", "app", "project-metadata", "report", "cache-dir"]

namespace VolumeMount

/-- A path is that of the mount or goes on behind it. -/
def Leads (m : VolumeMount) (path : String) : Prop :=
  path = m.mountPath ∨ ∃ rest, path = m.mountPath ++ "/" ++ rest

/-- Some mount leads to a path. -/
def Reached (mounts : List VolumeMount) (path : String) : Prop := ∃ m ∈ mounts, m.Leads path

/-- A volume is mounted at a path. -/
def Mounted (mounts : List VolumeMount) (volume path : String) : Prop :=
  ∃ m ∈ mounts, m.name = volume ∧ m.mountPath = path

instance (mounts : List VolumeMount) (volume path : String) :
    Decidable (Mounted mounts volume path) :=
  inferInstanceAs (Decidable (∃ m ∈ mounts, m.name = volume ∧ m.mountPath = path))

variable {mounts more : List VolumeMount} {m : VolumeMount} {volume path : String}

theorem Reached.mono (h : Reached mounts path) (hsub : mounts ⊆ more) : Reached more path := by
  obtain ⟨m, hm, hleads⟩ := h
  exact ⟨m, hsub hm, hleads⟩

theorem mounted_append :
    Mounted (mounts ++ more) volume path ↔
      Mounted mounts volume path ∨ Mounted more volume path := by
  simp [Mounted, or_and_right, exists_or]

theorem mounted_of_mem (h : m ∈ mounts) : Mounted mounts m.name m.mountPath := ⟨m, h, rfl, rfl⟩

/-- No attached volume is one that steps share. -/
theorem not_mounted_attached {as : List Attachment} {u : VolumeUse} {s : SharedVolume}
    (hs : (VolumeName.shared s).use = .common) (hu : u ≠ .common)
    (has : ∀ n ∈ volumeNames as, u.Names n) : ¬ Mounted (Attachment.mounts as) s.name path := by
  rintro ⟨m, hm, hname, -⟩
  have hmem : s.name ∈ volumeNames as := by
    rw [← hname, ← Attachment.volumeNames_mounts]
    exact List.mem_map_of_mem hm
  exact hu ((has _ hmem).unique (hs ▸ VolumeUse.names_shared s))

end VolumeMount

open VolumeMount (Reached Mounted)

/-- A variable has this name. -/
def Container.Declares (c : Container) (name : String) : Prop := ∃ v ∈ c.env.getD [], v.name = name

namespace Flag

variable {flags others : List Flag} {mounts more : List VolumeMount} {f : Flag}
  {name value : String} {named : '=' ∉ name.toList}

/-- Paths of flags are reached, and there is a flag for the cache exactly if there is a
mount for it. -/
structure Backed (flags : List Flag) (mounts : List VolumeMount) : Prop where
  reached : ∀ f ∈ flags, f.name ∈ pathNames → Reached mounts f.value
  cached : Flag.mk "cache-dir" Layout.cache.mountPath ∈ flags ↔
    Mounted mounts Layout.cache.name Layout.cache.mountPath

theorem Backed.append (h : Backed flags mounts) (h' : Backed others more) :
    Backed (flags ++ others) (mounts ++ more) where
  reached := by
    intro f hf hpath
    rcases List.mem_append.1 hf with hf | hf
    · exact (h.reached f hf hpath).mono (List.subset_append_left _ _)
    · exact (h'.reached f hf hpath).mono (List.subset_append_right _ _)
  cached := by
    rw [List.mem_append, VolumeMount.mounted_append, h.cached, h'.cached]

/-- If the flag is for a path, then it is for one that is reached, and not for the cache. -/
def Served (mounts : List VolumeMount) (f : Flag) : Prop :=
  f.name ∈ pathNames → f.name ≠ "cache-dir" ∧ Reached mounts f.value

theorem backed_of_served (h : ∀ f ∈ flags, Served mounts f)
    (hcache : ¬ Mounted mounts Layout.cache.name Layout.cache.mountPath) : Backed flags mounts where
  reached f hf hpath := (h f hf hpath).2
  cached := by
    have hname : "cache-dir" ∈ pathNames := by decide
    exact iff_of_false (fun hf => (h _ hf hname).1 rfl) hcache

theorem served_other (h : name ∉ pathNames) : Served mounts ⟨name, value, named⟩ :=
  fun hpath => absurd hpath h

theorem served_of_leads {m : VolumeMount} (hm : m ∈ mounts) (hname : name ≠ "cache-dir")
    (h : m.Leads value) : Served mounts ⟨name, value, named⟩ :=
  fun _ => ⟨hname, m, hm, h⟩

/-- The flags for the layers and for the files that steps leave beside them. -/
def layerPaths : List (String × String) :=
  [("layers", "/layers"), ("analyzed", "/layers/analyzed.toml"), ("group", "/layers/group.toml"),
    ("plan", "/layers/plan.toml"), ("project-metadata", "/layers/project-metadata.toml")]

theorem served_layers (hm : Layout.layers ∈ mounts) (h : (name, value) ∈ layerPaths) :
    Served mounts ⟨name, value, named⟩ := by
  have hall : ∀ e ∈ layerPaths, e.1 ≠ "cache-dir" ∧ (e.2 = Layout.layers.mountPath ∨
      e.2 = Layout.layers.mountPath ++ "/" ++ String.ofList (e.2.toList.drop 8)) := by
    decide
  obtain ⟨hname, hvalue⟩ := hall _ h
  exact served_of_leads hm hname (hvalue.imp_right fun hrest => ⟨_, hrest⟩)

/-- The flags for the secrets that the planner's own steps are told of. -/
def secretNames : List String :=
  ["basic-docker", "dockerconfig", "dockercfg", "basic-git", "ssh-git", "imagepull",
    "notary-v1-url", "cosign-annotations", "cosign-repositories", "cosign-docker-media-types"]

/-- The argument is a flag for a secret. -/
def ForSecret (arg : String) : Prop := ∃ f : Flag, f.name ∈ secretNames ∧ f.text = arg

theorem forSecret_append (name : String) (h : name ∈ secretNames) {lead : String}
    (hlead : "-" ++ name ++ "=" = lead) (value : String) : ForSecret (lead ++ value) := by
  have hall : ∀ n ∈ secretNames, '=' ∉ n.toList := by decide
  exact ⟨⟨name, value, hall name h⟩, h, by rw [text, ← hlead]⟩

theorem forSecret_entry (name : String) (h : name ∈ secretNames) {lead : String}
    (hlead : "-" ++ name ++ "=" = lead) (secret value : String) :
    ForSecret (lead ++ secret ++ "=" ++ value) := by
  rw [String.append_assoc, String.append_assoc]
  exact forSecret_append name h hlead _

theorem values_of_forSecret {args : List String} (h : ∀ a ∈ args, ForSecret a)
    (hname : name ∉ secretNames) : values name args = [] := by
  refine List.filterMap_eq_nil_iff.2 fun a ha => ?_
  obtain ⟨f, hf, rfl⟩ := h a ha
  have hother : f.name ≠ name := fun heq => hname (heq ▸ hf)
  rw [value?_text, if_neg hother]

end Flag

open ImageBuild.Flag (Backed Served ForSecret)

namespace CacheStrategy

theorem backed_nil {flags : List Flag} (h : ∀ f ∈ flags, f.name = "cache-image") :
    Backed flags [] := by
  refine Flag.backed_of_served (fun f hf hpath => ?_) (by decide)
  rw [h f hf] at hpath
  exact absurd hpath (by decide)

theorem backed_cache : Backed [.mk "cache-dir" Layout.cache.mountPath] [Layout.cache] where
  reached f hf _ := by
    rw [List.mem_singleton.1 hf]
    exact ⟨Layout.cache, List.mem_singleton_self _, .inl rfl⟩
  cached := iff_of_true (List.mem_singleton_self _) (by decide)

theorem restoreFlags_backed (c : CacheStrategy) : Backed c.restoreFlags c.mounts := by
  cases c with
  | none => exact backed_nil (by simp [restoreFlags])
  | volume claim => exact backed_cache
  | registry tag previous => exact backed_nil (by simp [restoreFlags])

theorem exportFlags_backed (c : CacheStrategy) : Backed c.exportFlags c.mounts := by
  cases c with
  | none => exact backed_nil (by simp [exportFlags])
  | volume claim => exact backed_cache
  | registry tag previous => exact backed_nil (by simp [exportFlags])

end CacheStrategy

namespace Credential

theorem forSecret_arg {scope : CredentialScope} {c : Credential} {a : String}
    (h : c.arg scope = some a) : ForSecret a := by
  have hregistry : ∀ {a : String}, c.registryArg = some a → ForSecret a := by
    intro a h
    unfold registryArg at h
    split at h
    · obtain ⟨registry, -, rfl⟩ := Option.map_eq_some_iff.1 h
      exact Flag.forSecret_entry "basic-docker" (by decide) (by decide) _ _
    · cases h
      exact Flag.forSecret_append "dockerconfig" (by decide) (by decide) _
    · cases h
      exact Flag.forSecret_append "dockercfg" (by decide) (by decide) _
    · cases h
  have hgit : ∀ {a : String}, c.gitArg = some a → ForSecret a := by
    intro a h
    unfold gitArg at h
    split at h
    · obtain ⟨url, -, rfl⟩ := Option.map_eq_some_iff.1 h
      exact Flag.forSecret_entry "basic-git" (by decide) (by decide) _ _
    · cases h
      exact Flag.forSecret_entry "ssh-git" (by decide) (by decide) _ _
    · cases h
  cases scope with
  | registryOnly => exact hregistry h
  | all =>
    rcases (Option.orElse_eq_some _ _ _).1 h with h | ⟨-, h⟩
    · exact hregistry h
    · exact hgit h

theorem forSecret_attachments {scope : CredentialScope} {cs : List Credential} :
    ∀ a ∈ Attachment.allArgs (attachments scope cs), ForSecret a := by
  intro a ha
  obtain ⟨x, hx, ha⟩ := List.mem_flatMap.1 ha
  obtain ⟨⟨c, i⟩, -, hattach⟩ := List.mem_filterMap.1 hx
  obtain ⟨arg, harg, rfl⟩ := Option.map_eq_some_iff.1 hattach
  rw [List.mem_singleton.1 ha]
  exact forSecret_arg harg

theorem forSecret_pullAttachments {builder request : List String} :
    ∀ a ∈ Attachment.allArgs (pullAttachments builder request), ForSecret a := by
  intro a ha
  obtain ⟨x, hx, ha⟩ := List.mem_flatMap.1 ha
  obtain ⟨⟨n, i⟩, -, rfl⟩ := List.mem_map.1 hx
  rw [List.mem_singleton.1 ha]
  exact Flag.forSecret_append "imagepull" (by decide) (by decide) n

theorem forSecret_signingArgs {c : Credential} : ∀ a ∈ c.signingArgs, ForSecret a := by
  intro a ha
  rcases List.mem_append.1 ha with ha | ha
  · obtain ⟨v, -, rfl⟩ := Option.map_eq_some_iff.1 (Option.mem_toList.1 ha)
    exact Flag.forSecret_entry "cosign-repositories" (by decide) (by decide) _ _
  · obtain ⟨v, -, rfl⟩ := Option.map_eq_some_iff.1 (Option.mem_toList.1 ha)
    exact Flag.forSecret_entry "cosign-docker-media-types" (by decide) (by decide) _ _

theorem forSecret_signingAttachments {cs : List Credential} :
    ∀ a ∈ Attachment.allArgs (signingAttachments cs), ForSecret a := by
  intro a ha
  obtain ⟨x, hx, ha⟩ := List.mem_flatMap.1 ha
  obtain ⟨⟨c, i⟩, -, hattach⟩ := List.mem_filterMap.1 hx
  obtain ⟨-, hx⟩ := Option.ite_none_right_eq_some.1 hattach
  rw [← Option.some.inj hx] at ha
  exact forSecret_signingArgs a ha

end Credential

namespace Container

/-- The paths that a step is told fit its mounts, where no operating system has
changed the step yet. -/
structure PathsFit (c : Container) : Prop where
  command : ∀ w ∈ c.command.getD [], w.toList.head? ≠ some '-'
  /-- Only what has a value looks like a flag. -/
  valued : c.name ∈ PlanBasis.lifecycle → ∀ a ∈ c.args.getD [], a.toList.head? = some '-' →
    '=' ∈ a.toList
  reached : c.name ∈ PlanBasis.lifecycle → ∀ f ∈ Flag.pathNames, ∀ v ∈ c.flagValues f,
    Reached (c.mounts.getD []) v
  cached : Layout.cache.mountPath ∈ c.flagValues "cache-dir" ↔
    Mounted (c.mounts.getD []) Layout.cache.name Layout.cache.mountPath
  homed : c.Declares Layout.homeName ↔
    Mounted (c.mounts.getD []) Layout.home.name Layout.home.mountPath
  /-- The variable of Windows is left to Windows. -/
  profile : ¬ c.Declares Layout.userProfileName

end Container

namespace PlanBasis

variable {b : PlanBasis} {bindings : List Attachment} {epoch : Option Int64}
  {name image command : String} {args : List String} {env : List EnvVar}
  {mounts : List VolumeMount} {flags : List Flag} {words : List String}

/-- A step of the planner has the home directory, and no cache. -/
theorem helperStep_pathsFit (hname : name ∉ lifecycle) (hcommand : command.toList.head? ≠ some '-')
    (hargs : ∀ a ∈ args, ForSecret a) (henv : Layout.homeEnv ∈ env)
    (hprofile : ∀ v ∈ env, v.name ≠ Layout.userProfileName) (hhome : Layout.home ∈ mounts)
    (hcache : ¬ Mounted mounts Layout.cache.name Layout.cache.mountPath) :
    (helperStep name image command args env mounts).PathsFit where
  command := List.forall_mem_singleton.2 hcommand
  valued hlifecycle := absurd hlifecycle hname
  reached hlifecycle := absurd hlifecycle hname
  cached := by
    have hnone : (helperStep name image command args env mounts).flagValues "cache-dir" = [] :=
      Flag.values_of_forSecret hargs (by decide)
    rw [hnone]
    exact iff_of_false List.not_mem_nil hcache
  homed := iff_of_true ⟨_, henv, rfl⟩ (VolumeMount.mounted_of_mem hhome)
  profile := by
    rintro ⟨v, hv, hname⟩
    exact hprofile v hv hname

theorem prepareStep_pathsFit : b.prepareStep.PathsFit := by
  refine helperStep_pathsFit (by decide) (by decide) ?_ (by simp) ?_ (by simp) ?_
  · exact List.forall_mem_append.2
      ⟨Credential.forSecret_attachments, Credential.forSecret_pullAttachments⟩
  · have hsource : ∀ v ∈ b.request.source.source.env, v.name ≠ Layout.userProfileName := by
      cases b.request.source.source <;> simp [Source.env, EnvVar.of, Layout.userProfileName]
    refine List.forall_mem_append.2 ⟨hsource, ?_⟩
    simp [EnvVar.of, changesEnv, apiEnv, Layout.homeEnv, Layout.homeName, Layout.userProfileName]
  · rw [VolumeMount.mounted_append, VolumeMount.mounted_append]
    rintro ((hcredential | hpull) | hshared)
    · exact VolumeMount.not_mounted_attached (s := .cache) rfl (by decide)
        (fun _ => VolumeUse.access_attachments) hcredential
    · exact VolumeMount.not_mounted_attached (s := .cache) rfl (by decide)
        (fun _ => VolumeUse.access_pulls) hpull
    · revert hshared
      decide

theorem completionStep_pathsFit : b.completionStep.PathsFit := by
  refine helperStep_pathsFit (by decide) (by decide) ?_ (by simp) ?_ (by simp) ?_
  · refine List.forall_mem_append.2 ⟨List.forall_mem_append.2 ⟨?_, ?_⟩,
      Credential.forSecret_signingAttachments⟩
    · intro a ha
      obtain ⟨n, -, rfl⟩ := Option.map_eq_some_iff.1 (Option.mem_toList.1 ha)
      exact Flag.forSecret_append "notary-v1-url" (by decide) (by decide) _
    · intro a ha
      obtain ⟨e, -, rfl⟩ := List.mem_map.1 ha
      exact Flag.forSecret_entry "cosign-annotations" (by decide) (by decide) _ _
  · refine List.forall_mem_cons.2 ⟨by decide, fun v hv => ?_⟩
    obtain ⟨tag, -, rfl⟩ := Option.map_eq_some_iff.1 (Option.mem_toList.1 hv)
    simp [EnvVar.of, Layout.userProfileName]
  · rw [VolumeMount.mounted_append]
    rintro (hshared | hsigning)
    · have hall : ¬ Mounted [Layout.report, Layout.home, Layout.notary] Layout.cache.name
          Layout.cache.mountPath := by
        decide
      cases hnotary : b.notary with
      | none =>
        rw [hnotary] at hshared
        revert hshared
        decide
      | some n =>
        rw [hnotary] at hshared
        exact hall hshared
    · exact VolumeMount.not_mounted_attached (s := .cache) rfl (by decide)
        (fun _ => VolumeUse.signing_attachments) hsigning

theorem lifecycleStep_pathsFit (hcommand : command.toList.head? ≠ some '-')
    (hargs : args = flags.map Flag.text ++ words)
    (hwords : ∀ w ∈ words, w.toList.head? ≠ some '-') (hflags : Backed flags mounts)
    (hhome : (∃ v ∈ env, v.name = Layout.homeName) ↔
      Mounted mounts Layout.home.name Layout.home.mountPath)
    (hprofile : ∀ v ∈ env, v.name ≠ Layout.userProfileName) :
    (b.lifecycleStep name command args env mounts).PathsFit := by
  have hvalues : ∀ n, (b.lifecycleStep name command args env mounts).flagValues n =
      Flag.given n flags := by
    intro n
    rw [← Flag.values_texts_append flags hwords, ← hargs]
    rfl
  exact {
    command := List.forall_mem_singleton.2 hcommand
    valued := by
      intro _ a ha hflag
      have hmem : a ∈ flags.map Flag.text ++ words := hargs ▸ ha
      rcases List.mem_append.1 hmem with hmem | hmem
      · obtain ⟨f, -, rfl⟩ := List.mem_map.1 hmem
        simp [Flag.text]
      · exact absurd hflag (hwords a hmem)
    reached := by
      intro _ n hn v hv
      rw [hvalues] at hv
      obtain ⟨f, hf, rfl, rfl⟩ := Flag.mem_given.1 hv
      exact hflags.reached f hf hn
    cached := by
      have hflag : (∃ f ∈ flags, f.name = "cache-dir" ∧ f.value = Layout.cache.mountPath) ↔
          Flag.mk "cache-dir" Layout.cache.mountPath ∈ flags := by
        constructor
        · rintro ⟨⟨n, v, hn⟩, hf, rfl, rfl⟩
          exact hf
        · intro hf
          exact ⟨_, hf, rfl, rfl⟩
      rw [hvalues, Flag.mem_given, hflag, hflags.cached]
      rfl
    homed := hhome
    profile := by
      rintro ⟨v, hv, hname⟩
      exact hprofile v hv hname }

theorem leads_appDir (b : PlanBasis) : Layout.workspace.Leads b.appDir := by
  unfold appDir
  split
  · exact .inl rfl
  · exact .inr ⟨_, rfl⟩

/-- The mounts of a step that runs buildpacks. -/
def buildpackMounts (bindings : List Attachment) : List VolumeMount :=
  [Layout.layers, Layout.platform, Layout.workspace] ++ Attachment.mounts bindings

theorem not_mounted_buildpackMounts (s : SharedVolume) (path : String)
    (hbindings : ServiceBinding.attachAll b.request.services = .ok bindings)
    (hs : (VolumeName.shared s).use = .common)
    (hfixed : ¬ Mounted [Layout.layers, Layout.platform, Layout.workspace] s.name path) :
    ¬ Mounted (buildpackMounts bindings) s.name path := by
  rw [buildpackMounts, VolumeMount.mounted_append, not_or]
  exact ⟨hfixed, VolumeMount.not_mounted_attached hs (by decide)
    fun _ => VolumeUse.binding_attachAll hbindings⟩

theorem served_buildpackFlags :
    ∀ f ∈ b.buildpackFlags, Served (buildpackMounts bindings) f := by
  have hlayers : Layout.layers ∈ buildpackMounts bindings := by simp [buildpackMounts]
  have hworkspace : Layout.workspace ∈ buildpackMounts bindings := by simp [buildpackMounts]
  simp only [buildpackFlags, List.forall_mem_cons, List.not_mem_nil, false_implies, implies_true,
    and_true]
  exact ⟨Flag.served_layers hlayers (by decide),
    Flag.served_of_leads hworkspace (by decide) b.leads_appDir,
    Flag.served_layers hlayers (by decide), Flag.served_layers hlayers (by decide)⟩

/-- A step that runs buildpacks has neither the home directory nor the cache. -/
theorem bound_pathsFit (hbindings : ServiceBinding.attachAll b.request.services = .ok bindings)
    (hcommand : command.toList.head? ≠ some '-') (hflags : flags ⊆ b.buildpackFlags) :
    (b.lifecycleStep name command (flags.map Flag.text) [Layout.bindingRootEnv, b.apiEnv]
      (buildpackMounts bindings)).PathsFit := by
  have hbacked : Backed flags (buildpackMounts bindings) :=
    Flag.backed_of_served (fun f hf => served_buildpackFlags f (hflags hf))
      (not_mounted_buildpackMounts .cache _ hbindings rfl (by decide))
  have hhome := not_mounted_buildpackMounts .home Layout.home.mountPath hbindings rfl (by decide)
  refine lifecycleStep_pathsFit hcommand (List.append_nil _).symm (by simp) hbacked
    (iff_of_false ?_ hhome) ?_
  · simp [Layout.bindingRootEnv, apiEnv, EnvVar.of, Layout.homeName]
  · simp [Layout.bindingRootEnv, apiEnv, EnvVar.of, Layout.userProfileName]

theorem detectStep_pathsFit
    (hbindings : ServiceBinding.attachAll b.request.services = .ok bindings) :
    (b.detectStep bindings).PathsFit := by
  have hflags : [Flag.mk "app" b.appDir, .mk "group" "/layers/group.toml",
      .mk "plan" "/layers/plan.toml"] ⊆ b.buildpackFlags :=
    List.subset_cons_self _ _
  exact bound_pathsFit hbindings (by decide) hflags

theorem buildStep_pathsFit
    (hbindings : ServiceBinding.attachAll b.request.services = .ok bindings) :
    (b.buildStep bindings).PathsFit :=
  bound_pathsFit hbindings (by decide) (List.Subset.refl b.buildpackFlags)

/-- The other steps have the home directory, and what is cached behind the volumes that
they share. -/
theorem cached_pathsFit {shared cached : List VolumeMount} (more : List EnvVar)
    (hcommand : command.toList.head? ≠ some '-')
    (hargs : args = flags.map Flag.text ++ words)
    (hwords : ∀ w ∈ words, w.toList.head? ≠ some '-')
    (hflags : Backed flags (shared ++ cached)) (hhome : Layout.home ∈ shared)
    (hmore : ∀ v ∈ more, v.name ≠ Layout.userProfileName) :
    (b.lifecycleStep name command args ([Layout.homeEnv, b.apiEnv] ++ more)
      (shared ++ cached)).PathsFit := by
  refine lifecycleStep_pathsFit hcommand hargs hwords hflags (iff_of_true ?_ ?_) ?_
  · exact ⟨_, List.mem_cons_self, rfl⟩
  · exact VolumeMount.mounted_of_mem (List.mem_append_left _ hhome)
  · refine List.forall_mem_append.2 ⟨?_, hmore⟩
    simp [Layout.homeEnv, apiEnv, EnvVar.of, Layout.homeName, Layout.userProfileName]

theorem restoreFlags_backed (b : PlanBasis) :
    Backed b.restoreFlags ([Layout.layers, Layout.home] ++ b.cache.mounts) := by
  have hlayers : Layout.layers ∈ [Layout.layers, Layout.home] := by decide
  have hshared : Backed [.mk "group" "/layers/group.toml", .mk "layers" "/layers"]
      [Layout.layers, Layout.home] :=
    Flag.backed_of_served (List.forall_mem_cons.2 ⟨Flag.served_layers hlayers (by decide),
      List.forall_mem_singleton.2 (Flag.served_layers hlayers (by decide))⟩) (by decide)
  exact hshared.append b.cache.restoreFlags_backed

theorem restoreStep_pathsFit : b.restoreStep.PathsFit := by
  have hargs : [groupArg, layersArg] ++ b.cache.restoreArgs =
      b.restoreFlags.map Flag.text ++ [] := by
    rw [b.restoreArgs_eq, List.append_nil]
  exact cached_pathsFit [] (by decide) hargs (by simp) b.restoreFlags_backed
    (by decide) (by simp)

/-- The analyze step is told of the cache by the versions for which it mounts it. -/
theorem analyzeFlags_cache_backed (b : PlanBasis) :
    Backed (b.cache.analyzeFlags b.api) (if b.legacy then b.cache.mounts else []) := by
  have hversion : CacheStrategy.analyzeWithoutDir ≤ b.api ↔ b.legacy = false := by
    rw [legacy, decide_eq_false_iff_not]
    exact Version.not_lt.symm
  cases hcache : b.cache with
  | none =>
    have hnone := CacheStrategy.restoreFlags_backed .none
    split <;> exact hnone
  | registry tag previous =>
    have hregistry := CacheStrategy.restoreFlags_backed (.registry tag previous)
    split <;> exact hregistry
  | volume claim =>
    rw [CacheStrategy.analyzeFlags]
    cases hlegacy : b.legacy with
    | false =>
      rw [if_pos (hversion.2 hlegacy)]
      exact CacheStrategy.backed_nil (by simp)
    | true =>
      rw [if_neg (by rw [hversion, hlegacy]; decide)]
      exact CacheStrategy.restoreFlags_backed (.volume claim)

theorem analyzeFlags_backed (b : PlanBasis) :
    Backed b.analyzeFlags ([Layout.layers, Layout.workspace, Layout.home] ++
      if b.legacy then b.cache.mounts else []) := by
  have hlayers : Layout.layers ∈ [Layout.layers, Layout.workspace, Layout.home] := by decide
  have hshared : Backed ([.mk "layers" "/layers", .mk "analyzed" "/layers/analyzed.toml"] ++
      if b.legacy then [.mk "group" "/layers/group.toml"]
      else .mk "run-image" b.context.builder.runImage ::
        b.request.additionalTags.map fun t => .mk "tag" t)
      [Layout.layers, Layout.workspace, Layout.home] := by
    refine Flag.backed_of_served (List.forall_mem_append.2 ⟨List.forall_mem_cons.2
      ⟨Flag.served_layers hlayers (by decide),
        List.forall_mem_singleton.2 (Flag.served_layers hlayers (by decide))⟩, ?_⟩) (by decide)
    split
    · exact List.forall_mem_singleton.2 (Flag.served_layers hlayers (by decide))
    · refine List.forall_mem_cons.2 ⟨Flag.served_other (by decide), fun f hf => ?_⟩
      obtain ⟨t, -, rfl⟩ := List.mem_map.1 hf
      exact Flag.served_other (by decide)
  have hprevious : Backed (b.request.previousImage.toList.map fun image =>
      .mk "previous-image" image) [] := by
    refine Flag.backed_of_served (fun f hf => ?_) (by decide)
    obtain ⟨image, -, rfl⟩ := List.mem_map.1 hf
    exact Flag.served_other (by decide)
  have hall := (hshared.append b.analyzeFlags_cache_backed).append hprevious
  rwa [List.append_nil] at hall

theorem analyzeStep_pathsFit (htags : ∀ t ∈ b.request.tags, t.toList.head? ≠ some '-')
    (hne : b.request.tags ≠ []) : b.analyzeStep.PathsFit := by
  have htag : ∀ t ∈ [b.request.tag], t.toList.head? ≠ some '-' :=
    List.forall_mem_singleton.2 (htags b.request.tag (b.request.tag_mem hne))
  exact cached_pathsFit [] (by decide) b.analyzeArgs_eq htag b.analyzeFlags_backed
    (by decide) (by simp)

theorem served_processFlags {mounts : List VolumeMount} :
    ∀ f ∈ b.processFlags, Served mounts f := by
  unfold processFlags
  split
  · exact List.forall_mem_singleton.2 (Flag.served_other (by decide))
  · split
    · exact List.forall_mem_singleton.2 (Flag.served_other (by decide))
    · simp

theorem exportFlags_backed (b : PlanBasis) :
    Backed b.exportFlags
      ([Layout.layers, Layout.workspace, Layout.home, Layout.report] ++ b.cache.mounts) := by
  have hlayers : Layout.layers ∈
      [Layout.layers, Layout.workspace, Layout.home, Layout.report] := by
    decide
  have hreport : Layout.report.Leads Layout.reportFile := .inr ⟨"report.toml", by decide⟩
  refine (Flag.backed_of_served (List.forall_mem_append.2
    ⟨List.forall_mem_append.2 ⟨?_, ?_⟩, served_processFlags⟩) (by decide)).append
      b.cache.exportFlags_backed
  · simp only [List.forall_mem_cons, List.not_mem_nil, false_implies, implies_true, and_true]
    refine ⟨Flag.served_layers hlayers (by decide),
      Flag.served_of_leads (by decide) (by decide) b.leads_appDir,
      Flag.served_layers hlayers (by decide), ?_, Flag.served_layers hlayers (by decide)⟩
    split
    · exact Flag.served_other (by decide)
    · exact Flag.served_layers hlayers (by decide)
  · split
    · exact List.forall_mem_singleton.2 (Flag.served_of_leads (by decide) (by decide) hreport)
    · simp

theorem exportStep_pathsFit (htags : ∀ t ∈ b.request.tags, t.toList.head? ≠ some '-') :
    (b.exportStep epoch).PathsFit := by
  have hmore : ∀ v ∈ EnvVar.of "CNB_RUN_IMAGE" b.context.builder.runImage ::
      (epoch.map fun n => EnvVar.of "SOURCE_DATE_EPOCH" (toString n.toInt)).toList,
      v.name ≠ Layout.userProfileName := by
    cases epoch <;> simp [EnvVar.of, Layout.userProfileName]
  exact cached_pathsFit _ (by decide) b.exportArgs_eq htags b.exportFlags_backed (by decide) hmore

theorem buildSteps_pathsFit (htags : ∀ t ∈ b.request.tags, t.toList.head? ≠ some '-')
    (hne : b.request.tags ≠ [])
    (hbindings : ServiceBinding.attachAll b.request.services = .ok bindings) :
    ∀ c ∈ b.buildSteps bindings epoch, c.PathsFit := by
  intro c hc
  rcases b.mem_buildSteps.1 hc with rfl | rfl | rfl | rfl | rfl | rfl
  · exact prepareStep_pathsFit
  · exact detectStep_pathsFit hbindings
  · exact analyzeStep_pathsFit htags hne
  · exact restoreStep_pathsFit
  · exact buildStep_pathsFit hbindings
  · exact exportStep_pathsFit htags

end PlanBasis

/-- Paths that a step is told lie behind its mounts, and it mounts the cache and the
home directory where it is told of them. -/
structure Container.PathsMounted (c : Container) (windows : Bool) : Prop where
  /-- No flag for a path stands without one. -/
  valued : c.name ∈ PlanBasis.lifecycle → ∀ f ∈ Flag.pathNames, "-" ++ f ∉ c.args.getD []
  reached : c.name ∈ PlanBasis.lifecycle → ∀ f ∈ Flag.pathNames,
    ∀ v, "-" ++ f ++ "=" ++ v ∈ c.args.getD [] → Reached (c.mounts.getD []) v
  cached : "-cache-dir=/cache" ∈ c.args.getD [] ↔ Mounted (c.mounts.getD []) "cache-dir" "/cache"
  homed : c.Declares (if windows then "USERPROFILE" else "HOME") ↔
    Mounted (c.mounts.getD []) "home-dir" "/builder/home"

namespace PlanBasis

variable {b : PlanBasis} {c : Container} {volume path name : String}

theorem mounts_adapt (b : PlanBasis) (c : Container) :
    (b.adapt c).mounts.getD [] =
      c.mounts.getD [] ++ if b.windows then [Layout.networkWait] else [] := by
  unfold adapt
  cases b.windows with
  | false => exact (List.append_nil _).symm
  | true => rfl

theorem mounted_adapt (h : volume ≠ Layout.networkWait.name) :
    Mounted ((b.adapt c).mounts.getD []) volume path ↔ Mounted (c.mounts.getD []) volume path := by
  have hlauncher : ¬ Mounted (if b.windows then [Layout.networkWait] else []) volume path := by
    rintro ⟨m, hm, hname, -⟩
    split at hm
    · rw [← hname, List.mem_singleton.1 hm] at h
      exact h rfl
    · cases hm
  rw [mounts_adapt, VolumeMount.mounted_append, or_iff_left hlauncher]

/-- The variable of the home directory is renamed on Windows. -/
theorem declares_home_adapt (h : ¬ c.Declares Layout.userProfileName) :
    (b.adapt c).Declares (if b.windows then Layout.userProfileName else Layout.homeName) ↔
      c.Declares Layout.homeName := by
  unfold Container.Declares at h ⊢
  rw [env_adapt]
  cases henv : c.env with
  | none => simp
  | some vs =>
    rw [henv] at h
    cases b.windows with
    | false => simp
    | true =>
      constructor
      · rintro ⟨v, hv, hname⟩
        obtain ⟨w, hw, rfl⟩ := List.mem_map.1 hv
        by_cases hhome : w.name = Layout.homeName
        · exact ⟨w, hw, hhome⟩
        · rw [StepPass.renameHome, if_neg hhome] at hname
          exact absurd ⟨w, hw, hname⟩ h
      · rintro ⟨w, hw, hname⟩
        refine ⟨StepPass.renameHome w, List.mem_map_of_mem hw, ?_⟩
        rw [StepPass.renameHome, if_pos hname]
        rfl

theorem adapt_pathsMounted (hhost : b.host.toList.head? ≠ some '-') (h : c.PathsFit) :
    (b.adapt c).PathsMounted b.windows where
  valued := by
    have hflag : ∀ f ∈ Flag.pathNames, ("-" ++ f).toList.head? = some '-' ∧
        '=' ∉ ("-" ++ f).toList ∧ "-" ++ f ≠ StepPass.separator := by
      decide
    intro hname f hf hmem
    obtain ⟨hdash, hvalue, hseparator⟩ := hflag f hf
    rw [adapt_name] at hname
    rw [args_adapt, List.mem_append] at hmem
    rcases hmem with hlaunch | hargs
    -- The launcher is told of the host, a separator and the command of the step.
    · unfold launch at hlaunch
      split at hlaunch
      · rcases List.mem_cons.1 hlaunch with heq | hlaunch
        · exact hhost (heq ▸ hdash)
        · rcases List.mem_cons.1 hlaunch with heq | hcommand
          · exact hseparator heq
          · exact h.command _ hcommand hdash
      · cases hlaunch
    · exact hvalue (h.valued hname _ hargs hdash)
  reached := by
    intro hname f hf v hv
    have hnames : ∀ n ∈ Flag.pathNames, '=' ∉ n.toList := by decide
    have hvalue : v ∈ (b.adapt c).flagValues f := Flag.mem_values (f := ⟨f, v, hnames f hf⟩) |>.2 hv
    rw [flagValues_adapt hhost h.command] at hvalue
    rw [adapt_name] at hname
    rw [mounts_adapt]
    exact (h.reached hname f hf v hvalue).mono (List.subset_append_left _ _)
  cached := by
    have hvalue : Layout.cache.mountPath ∈ (b.adapt c).flagValues "cache-dir" ↔
        "-cache-dir=/cache" ∈ (b.adapt c).args.getD [] :=
      Flag.mem_values (f := .mk "cache-dir" Layout.cache.mountPath)
    rw [← hvalue, flagValues_adapt hhost h.command, h.cached]
    exact (mounted_adapt (by decide)).symm
  homed := by
    exact ((declares_home_adapt h.profile).trans h.homed).trans (mounted_adapt (by decide)).symm

end PlanBasis

/-- In each pod that builds, the paths that steps are told are those of volumes that the
same steps mount, for tags that are no flags. -/
theorem plan_pathsMounted {r : BuildRequest} {ctx : PlanContext} {pod : Pod}
    (htags : ∀ t ∈ r.tags, t.toList.head? ≠ some '-') (h : plan r ctx = .ok pod)
    (hbuild : ¬ pod.IsRebase) : ∀ c ∈ pod.steps, c.PathsMounted ctx.builder.isWindows := by
  obtain ⟨b, rfl, rfl, hb, hpod⟩ := plan_cases h
  cases hpod with
  | rebase => exact absurd (b.names_rebase _ _) hbuild
  | build _ hbindings =>
    intro c hc
    obtain ⟨d, hd, rfl⟩ := (PlanBasis.mem_steps_pod _).1 hc
    refine PlanBasis.adapt_pathsMounted (hb.head?_host htags) ?_
    rcases List.mem_cons.1 hd with rfl | hd
    · exact PlanBasis.completionStep_pathsFit
    · exact PlanBasis.buildSteps_pathsFit htags hb.tagged hbindings d hd

theorem bound_pathsMounted :
    (∀ t ∈ boundRequest.tags, t.toList.head? ≠ some '-') ∧
      ∃ pod, plan boundRequest boundContext = .ok pod ∧ ¬ pod.IsRebase ∧
        ∀ c ∈ pod.steps, c.PathsMounted boundContext.builder.isWindows := by
  have htags : ∀ t ∈ boundRequest.tags, t.toList.head? ≠ some '-' := by decide
  obtain ⟨pod, hplan⟩ : ∃ pod, plan boundRequest boundContext = .ok pod :=
    exists_eq_ok_iff.2 (by decide +kernel)
  have hbuild : ¬ pod.IsRebase := by
    rw [plan_isRebase_iff hplan]
    decide
  exact ⟨htags, pod, hplan, hbuild, plan_pathsMounted htags hplan hbuild⟩

end ImageBuild
