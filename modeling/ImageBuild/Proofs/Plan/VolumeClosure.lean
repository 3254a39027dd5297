import ImageBuild.Proofs.Plan.AttachedNames
import ImageBuild.Proofs.Plan.StepPass

/-!
# The volumes of a pod and their mounts

What a pod mounts are the volumes that it has: each step mounts volumes of the
pod only, and each volume is mounted by some step. No two volumes have the same
name. The main statement is `plan_volumesClosed`.
-/
namespace ImageBuild

open Attachment (volumeNames)

/-- Volumes and mounts of the pod fit together. -/
structure Pod.VolumesClosed (p : Pod) : Prop where
  distinct : (p.spec.volumes.map Volume.name).Nodup
  mounted : ∀ c ∈ p.steps, ∀ m ∈ c.mounts.getD [], ∃ v ∈ p.spec.volumes, v.name = m.name
  used : ∀ v ∈ p.spec.volumes, ∃ c ∈ p.steps, ∃ m ∈ c.mounts.getD [], m.name = v.name

@[simp] theorem CacheStrategy.names_mounts (c : CacheStrategy) :
    c.mounts.map VolumeMount.name = c.volumes.map Volume.name := by
  cases c <;> rfl

namespace PlanBasis

variable (b : PlanBasis) {bindings : List Attachment} {epoch : Option Int64}

@[simp] theorem mountNames_helperStep (name image command : String) (args : List String)
    (env : List EnvVar) (mounts : List VolumeMount) :
    (helperStep name image command args env mounts).mountNames =
      mounts.map VolumeMount.name :=
  rfl

@[simp] theorem mountNames_lifecycleStep (name command : String) (args : List String)
    (env : List EnvVar) (mounts : List VolumeMount) :
    (b.lifecycleStep name command args env mounts).mountNames = mounts.map VolumeMount.name :=
  rfl

theorem mountNames_prepareStep :
    b.prepareStep.mountNames = volumeNames (b.credentials .all) ++ volumeNames b.pulls ++
      [Layout.platform.name, Layout.workspace.name, Layout.home.name, Layout.layers.name] := by
  have hmetadata : Layout.projectMetadata.name = Layout.layers.name := rfl
  simp [prepareStep, hmetadata]

theorem mountNames_analyzeStep :
    b.analyzeStep.mountNames =
      [Layout.layers.name, Layout.workspace.name, Layout.home.name] ++
        if b.legacy then b.cache.volumes.map Volume.name else [] := by
  unfold analyzeStep
  cases b.legacy <;> simp

theorem mountNames_detectStep :
    (b.detectStep bindings).mountNames =
      [Layout.layers.name, Layout.platform.name, Layout.workspace.name] ++
        volumeNames bindings := by
  simp [detectStep]

theorem mountNames_restoreStep :
    b.restoreStep.mountNames =
      [Layout.layers.name, Layout.home.name] ++ b.cache.volumes.map Volume.name := by
  simp [restoreStep]

theorem mountNames_buildStep :
    (b.buildStep bindings).mountNames =
      [Layout.layers.name, Layout.platform.name, Layout.workspace.name] ++
        volumeNames bindings := by
  simp [buildStep]

theorem mountNames_exportStep :
    (b.exportStep epoch).mountNames =
      [Layout.layers.name, Layout.workspace.name, Layout.home.name, Layout.report.name] ++
        b.cache.volumes.map Volume.name := by
  simp [exportStep]

theorem mountNames_completionStep :
    b.completionStep.mountNames =
      [Layout.report.name, Layout.home.name] ++ b.notaryVolumes.map Volume.name ++
        volumeNames b.signing := by
  unfold completionStep notaryVolumes
  cases b.notary <;> simp [Volume.secret]

theorem mountNames_rebaseStep (image : String) :
    (b.rebaseStep image).mountNames =
      volumeNames (b.credentials .registryOnly) ++ volumeNames b.pulls ++
        [Layout.home.name, Layout.report.name] := by
  simp [rebaseStep]

theorem names_buildVolumes :
    (b.buildVolumes bindings).map Volume.name =
      volumeNames (b.credentials .all) ++ volumeNames b.signing ++ volumeNames b.pulls ++
        volumeNames bindings ++ SharedVolume.scratch.map SharedVolume.name ++
        b.cache.volumes.map Volume.name ++ b.notaryVolumes.map Volume.name ++
        b.osVolumes.map Volume.name := by
  simp [buildVolumes, scratch, Volume.emptyDir, SharedVolume.scratch, SharedVolume.name]

theorem names_rebaseVolumes :
    b.rebaseVolumes.map Volume.name =
      volumeNames (b.credentials .registryOnly) ++ volumeNames b.signing ++
        volumeNames b.pulls ++ [Layout.home.name, Layout.report.name] ++
        b.notaryVolumes.map Volume.name ++ b.osVolumes.map Volume.name := by
  simp [rebaseVolumes, scratch, Volume.emptyDir]

theorem names_cacheVolumes (c : CacheStrategy) :
    (c.volumes.map Volume.name).Sublist [Layout.cache.name] := by
  cases c with
  | volume claim => exact List.Sublist.refl _
  | _ => exact List.nil_sublist _

theorem names_notaryVolumes :
    (b.notaryVolumes.map Volume.name).Sublist [Layout.notary.name] := by
  unfold notaryVolumes
  cases b.notary with
  | none => exact List.nil_sublist _
  | some n => exact List.Sublist.refl _

theorem names_osVolumes :
    (b.osVolumes.map Volume.name).Sublist [Layout.networkWait.name] := by
  unfold osVolumes
  cases b.windows with
  | false => exact List.nil_sublist _
  | true => exact List.Sublist.refl _

/-- The volumes that the planner names itself come last, in their own order. -/
theorem shared_sublist {scratch cached : List String}
    (hscratch : scratch.Sublist (SharedVolume.scratch.map SharedVolume.name))
    (hcached : cached.Sublist [Layout.cache.name]) :
    (scratch ++ cached ++ b.notaryVolumes.map Volume.name ++ b.osVolumes.map Volume.name).Sublist
      ((SharedVolume.all.map VolumeName.shared).map VolumeName.text) := by
  have hall : (SharedVolume.all.map VolumeName.shared).map VolumeName.text =
      SharedVolume.scratch.map SharedVolume.name ++ [Layout.cache.name] ++ [Layout.notary.name] ++
        [Layout.networkWait.name] := by
    simp [SharedVolume.all, VolumeName.text_shared, SharedVolume.name]
  rw [hall]
  exact ((hscratch.append hcached).append b.names_notaryVolumes).append b.names_osVolumes

/-- All volumes of a pod have names that could be used in it, each at most once. -/
theorem volumeNames_nodup (scope : CredentialScope) {bound scratch cached services : List String}
    (hservices : services.Nodup)
    (hbound : bound.Sublist ((services.flatMap VolumeName.ofBinding).map VolumeName.text))
    (hscratch : scratch.Sublist (SharedVolume.scratch.map SharedVolume.name))
    (hcached : cached.Sublist [Layout.cache.name]) :
    (volumeNames (b.credentials scope) ++ volumeNames b.signing ++ volumeNames b.pulls ++ bound ++
      (scratch ++ cached ++ b.notaryVolumes.map Volume.name ++
        b.osVolumes.map Volume.name)).Nodup := by
  let pulls := names (b.request.builder.pullSecrets ++
    (b.context.pullSecrets ++ b.request.source.source.pullSecrets))
  have hnodup := (VolumeName.candidates_nodup b.context.credentials.length pulls.length
    hservices).map VolumeName.text_injective
  refine hnodup.sublist ?_
  simp only [VolumeName.candidates, List.map_append]
  have hcredentials := Credential.names_attachments scope b.context.credentials
  have hsigning := Credential.names_signingAttachments b.context.credentials
  have hpulls := Credential.names_pullAttachments b.request.builder.pullSecrets
    (b.context.pullSecrets ++ b.request.source.source.pullSecrets)
  exact (((hcredentials.append hsigning).append hpulls).append hbound).append
    (b.shared_sublist hscratch hcached)

theorem names_buildVolumes_nodup
    (h : ServiceBinding.attachAll b.request.services = .ok bindings) :
    ((b.buildVolumes bindings).map Volume.name).Nodup := by
  have hservices := (ServiceBinding.attachUnless_nodup h).1
  have hnodup := b.volumeNames_nodup .all hservices (ServiceBinding.names_attachUnless h)
    (List.Sublist.refl _) (names_cacheVolumes b.cache)
  rw [names_buildVolumes]
  simpa only [List.append_assoc] using hnodup

theorem names_rebaseVolumes_nodup : (b.rebaseVolumes.map Volume.name).Nodup := by
  have hscratch : [Layout.home.name, Layout.report.name].Sublist
      (SharedVolume.scratch.map SharedVolume.name) := by
    decide
  have hnodup := b.volumeNames_nodup .registryOnly List.nodup_nil
    (List.Sublist.refl []) hscratch (List.nil_sublist _)
  rw [names_rebaseVolumes]
  simpa only [List.append_assoc, List.append_nil, List.nil_append] using hnodup

theorem mem_steps_pod {steps : List Container} {volumes : List Volume} {c : Container} :
    c ∈ (b.pod steps volumes).steps ↔ ∃ d ∈ b.completionStep :: steps, b.adapt d = c := by
  have hsteps : (b.pod steps volumes).steps = steps.map b.adapt ++ [b.adapt b.completionStep] := rfl
  rw [hsteps, List.mem_append, List.mem_map, List.mem_singleton, List.exists_mem_cons_iff, or_comm,
    eq_comm]

theorem mem_buildSteps {c : Container} :
    c ∈ b.buildSteps bindings epoch ↔
      c = b.prepareStep ∨ c = b.detectStep bindings ∨ c = b.analyzeStep ∨ c = b.restoreStep ∨
        c = b.buildStep bindings ∨ c = b.exportStep epoch := by
  unfold buildSteps
  cases b.legacy
  · simp only [Bool.false_eq_true, if_false, List.mem_append, List.mem_cons, List.not_mem_nil,
      or_false]
    tauto
  · simp only [if_true, List.mem_append, List.mem_cons, List.not_mem_nil, or_false]
    tauto

/-- The operating system adds its volumes to all steps, so that it is enough to
look at the other volumes and at the steps as they are without it. -/
theorem pod_volumesClosed {steps : List Container} {volumes : List Volume} {own : List String}
    (hnames : volumes.map Volume.name = own ++ b.osVolumes.map Volume.name)
    (hnodup : (volumes.map Volume.name).Nodup)
    (hmounted : ∀ c ∈ b.completionStep :: steps, ∀ n ∈ c.mountNames, n ∈ own)
    (hused : ∀ n ∈ own, ∃ c ∈ b.completionStep :: steps, n ∈ c.mountNames) :
    (b.pod steps volumes).VolumesClosed := by
  refine ⟨hnodup, ?_, ?_⟩
  · intro c hc m hm
    obtain ⟨d, hd, rfl⟩ := b.mem_steps_pod.1 hc
    have hmount : m.name ∈ (b.adapt d).mountNames := List.mem_map_of_mem hm
    have hvolume : m.name ∈ volumes.map Volume.name := by
      rw [mountNames_adapt, List.mem_append] at hmount
      rw [hnames, List.mem_append]
      exact hmount.imp_left (hmounted d hd m.name)
    exact List.mem_map.1 hvolume
  · intro v hv
    have hvolume : v.name ∈ volumes.map Volume.name := List.mem_map_of_mem hv
    have hstep : ∃ d ∈ b.completionStep :: steps, v.name ∈ (b.adapt d).mountNames := by
      simp only [mountNames_adapt, List.mem_append]
      rw [hnames, List.mem_append] at hvolume
      rcases hvolume with hown | hos
      · obtain ⟨d, hd, hmount⟩ := hused v.name hown
        exact ⟨d, hd, Or.inl hmount⟩
      · exact ⟨b.completionStep, List.mem_cons_self .., Or.inr hos⟩
    obtain ⟨d, hd, hmount⟩ := hstep
    exact ⟨b.adapt d, b.mem_steps_pod.2 ⟨d, hd, rfl⟩, List.mem_map.1 hmount⟩

theorem buildPod_volumesClosed
    (h : ServiceBinding.attachAll b.request.services = .ok bindings) :
    (b.pod (b.buildSteps bindings epoch) (b.buildVolumes bindings)).VolumesClosed := by
  refine b.pod_volumesClosed b.names_buildVolumes (b.names_buildVolumes_nodup h) ?_ ?_
  · intro c hc n hn
    simp only [List.mem_append, SharedVolume.mem_names_scratch]
    rw [List.mem_cons, mem_buildSteps] at hc
    rcases hc with rfl | rfl | rfl | rfl | rfl | rfl | rfl
    · simp only [mountNames_completionStep, List.mem_append, List.mem_cons] at hn
      tauto
    · simp only [mountNames_prepareStep, List.mem_append, List.mem_cons] at hn
      tauto
    · simp only [mountNames_detectStep, List.mem_append, List.mem_cons] at hn
      tauto
    · simp only [mountNames_analyzeStep, List.mem_append, List.mem_cons] at hn
      split at hn <;> tauto
    · simp only [mountNames_restoreStep, List.mem_append, List.mem_cons] at hn
      tauto
    · simp only [mountNames_buildStep, List.mem_append, List.mem_cons] at hn
      tauto
    · simp only [mountNames_exportStep, List.mem_append, List.mem_cons] at hn
      tauto
  · intro n hn
    have hprepare : b.prepareStep ∈ b.completionStep :: b.buildSteps bindings epoch := by
      simp [mem_buildSteps]
    have hdetect : b.detectStep bindings ∈ b.completionStep :: b.buildSteps bindings epoch := by
      simp [mem_buildSteps]
    have hrestore : b.restoreStep ∈ b.completionStep :: b.buildSteps bindings epoch := by
      simp [mem_buildSteps]
    have hcovered : n ∈ b.prepareStep.mountNames ∨ n ∈ (b.detectStep bindings).mountNames ∨
        n ∈ b.restoreStep.mountNames ∨ n ∈ b.completionStep.mountNames := by
      simp only [mountNames_prepareStep, mountNames_detectStep, mountNames_restoreStep,
        mountNames_completionStep, SharedVolume.mem_names_scratch, List.mem_append,
        List.mem_cons] at hn ⊢
      tauto
    rcases hcovered with h | h | h | h
    · exact ⟨_, hprepare, h⟩
    · exact ⟨_, hdetect, h⟩
    · exact ⟨_, hrestore, h⟩
    · exact ⟨_, List.mem_cons_self .., h⟩

theorem rebasePod_volumesClosed (image : String) :
    (b.pod [b.rebaseStep image] b.rebaseVolumes).VolumesClosed := by
  refine b.pod_volumesClosed b.names_rebaseVolumes b.names_rebaseVolumes_nodup ?_ ?_
  · intro c hc n hn
    simp only [List.mem_append, List.mem_cons, List.not_mem_nil, or_false]
    rw [List.mem_cons, List.mem_singleton] at hc
    rcases hc with rfl | rfl
    · simp only [mountNames_completionStep, List.mem_append, List.mem_cons] at hn
      tauto
    · simp only [mountNames_rebaseStep, List.mem_append, List.mem_cons] at hn
      tauto
  · intro n hn
    have hcovered : n ∈ (b.rebaseStep image).mountNames ∨ n ∈ b.completionStep.mountNames := by
      simp only [mountNames_rebaseStep, mountNames_completionStep, List.mem_append,
        List.mem_cons] at hn ⊢
      tauto
    rcases hcovered with h | h
    · exact ⟨_, List.mem_cons_of_mem _ (List.mem_singleton_self _), h⟩
    · exact ⟨_, List.mem_cons_self .., h⟩

end PlanBasis

/-- Each pod that is planned, for a build or for a rebase, has just the volumes
that its steps mount, under names of their own. -/
theorem plan_volumesClosed {r : BuildRequest} {ctx : PlanContext} {pod : Pod}
    (h : plan r ctx = .ok pod) : pod.VolumesClosed := by
  obtain ⟨b, -, -, -, hpod⟩ := plan_cases h
  cases hpod with
  | rebase => exact b.rebasePod_volumesClosed _
  | build _ hbindings => exact b.buildPod_volumesClosed hbindings

/-- A request whose pod has a volume of each kind. -/
def boundRequest : BuildRequest :=
  { BuildRequest.ofTag "host/app" with
    cache := some (.volume "claim")
    signing := some ⟨some ⟨"https://notary", "notary"⟩, ∅⟩
    services :=
      [.service ⟨"Secret", "db", "v1"⟩, .cnb ⟨"queue", "queue-info", some "queue-key"⟩] }

/-- A context with a registry, a signing key and a second pull secret. -/
def boundContext : PlanContext :=
  { PlanContext.linux with
    credentials := [⟨"registry", .dockerConfigJson, ∅, false⟩, ⟨"key", .other "", ∅, true⟩]
    pullSecrets := ["pull", "mirror"] }

theorem bound_volumesClosed :
    ∃ pod, plan boundRequest boundContext = .ok pod ∧ pod.VolumesClosed := by
  have hp : (plan boundRequest boundContext).toOption.isSome = true := by decide +kernel
  cases hplan : plan boundRequest boundContext with
  | error e => simp [hplan, Except.toOption] at hp
  | ok pod => exact ⟨pod, rfl, plan_volumesClosed hplan⟩

end ImageBuild
