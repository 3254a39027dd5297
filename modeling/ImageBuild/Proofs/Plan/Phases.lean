import ImageBuild.Proofs.Plan.Flag
import ImageBuild.Proofs.Plan.Rebase
import ImageBuild.Proofs.Plan.VolumeClosure

/-!
# The version that the steps of a build follow

A build is driven with one version of the platform API, and each step that
depends on the version follows this one: the order of the steps, what the
analyze and the export step are told, and the variable with the version. The
main statement is `plan_followsVersion`.
-/
namespace ImageBuild

namespace CacheStrategy

def restoreFlags : CacheStrategy → List Flag
  | .none => []
  | .volume _ => [.mk "cache-dir" Layout.cache.mountPath]
  | .registry _ previous => previous.toList.map fun image => .mk "cache-image" image

def analyzeFlags (c : CacheStrategy) (api : Version) : List Flag :=
  match c with
  | .volume _ => if analyzeWithoutDir ≤ api then [] else c.restoreFlags
  | _ => c.restoreFlags

def exportFlags : CacheStrategy → List Flag
  | .none => []
  | .volume _ => [.mk "cache-dir" Layout.cache.mountPath]
  | .registry tag _ => [.mk "cache-image" tag]

theorem text_cacheDir : (Flag.mk "cache-dir" Layout.cache.mountPath).text = dirArg := by decide

theorem text_cacheImage (image : String) : (Flag.mk "cache-image" image).text = imageArg image := by
  simp [Flag.text_mk, imageArg]

theorem restoreArgs_eq (c : CacheStrategy) : c.restoreArgs = c.restoreFlags.map Flag.text := by
  cases c with
  | none => rfl
  | volume claim => simp [restoreArgs, restoreFlags, text_cacheDir]
  | registry tag previous => cases previous <;> simp [restoreArgs, restoreFlags, text_cacheImage]

theorem analyzeArgs_eq (c : CacheStrategy) (api : Version) :
    c.analyzeArgs api = (c.analyzeFlags api).map Flag.text := by
  cases c with
  | none => rfl
  | registry tag previous => exact restoreArgs_eq (.registry tag previous)
  | volume claim =>
    simp only [analyzeArgs, analyzeFlags]
    split
    · rfl
    · exact restoreArgs_eq _

theorem exportArgs_eq (c : CacheStrategy) : c.exportArgs = c.exportFlags.map Flag.text := by
  cases c with
  | none => rfl
  | volume claim => simp [exportArgs, exportFlags, text_cacheDir]
  | registry tag previous => simp [exportArgs, exportFlags, text_cacheImage]

theorem name_of_mem_restoreFlags {c : CacheStrategy} {f : Flag} (h : f ∈ c.restoreFlags) :
    f.name = "cache-dir" ∨ f.name = "cache-image" := by
  cases c with
  | none => cases h
  | volume claim => exact .inl (List.mem_singleton.1 h ▸ rfl)
  | registry tag previous =>
    obtain ⟨image, -, rfl⟩ := List.mem_map.1 h
    exact .inr rfl

theorem name_of_mem_analyzeFlags {c : CacheStrategy} {api : Version} {f : Flag}
    (h : f ∈ c.analyzeFlags api) : f.name = "cache-dir" ∨ f.name = "cache-image" := by
  cases c with
  | none => cases h
  | registry tag previous => exact name_of_mem_restoreFlags (c := .registry tag previous) h
  | volume claim =>
    by_cases hapi : analyzeWithoutDir ≤ api
    · simp [analyzeFlags, hapi] at h
    · rw [analyzeFlags, if_neg hapi] at h
      exact name_of_mem_restoreFlags h

theorem name_of_mem_exportFlags {c : CacheStrategy} {f : Flag} (h : f ∈ c.exportFlags) :
    f.name = "cache-dir" ∨ f.name = "cache-image" := by
  cases c with
  | none => cases h
  | volume claim => exact .inl (List.mem_singleton.1 h ▸ rfl)
  | registry tag previous => exact .inr (List.mem_singleton.1 h ▸ rfl)

end CacheStrategy

theorem BuildRequest.tag_mem (r : BuildRequest) (h : r.tags ≠ []) : r.tag ∈ r.tags := by
  obtain ⟨tag, tags, hcons⟩ := List.exists_cons_of_ne_nil h
  simp [BuildRequest.tag, hcons]

/-- A registry is no flag if no tag is one. -/
theorem PlanBasis.Settled.head?_host {b : PlanBasis} (h : b.Settled)
    (htags : ∀ t ∈ b.request.tags, t.toList.head? ≠ some '-') :
    b.host.toList.head? ≠ some '-' := by
  obtain ⟨reference, hparse, hhost⟩ := h.hosted
  rw [hhost]
  exact ImageReference.head?_host hparse (htags b.request.tag (b.request.tag_mem h.tagged))

namespace PlanBasis

variable (b : PlanBasis)

def analyzeFlags : List Flag :=
  [.mk "layers" "/layers", .mk "analyzed" "/layers/analyzed.toml"] ++
    (if b.legacy then [.mk "group" "/layers/group.toml"]
     else .mk "run-image" b.context.builder.runImage ::
      b.request.additionalTags.map fun t => .mk "tag" t) ++
    b.cache.analyzeFlags b.api ++
    b.request.previousImage.toList.map fun image => .mk "previous-image" image

theorem analyzeArgs_eq : b.analyzeArgs = b.analyzeFlags.map Flag.text ++ [b.request.tag] := by
  unfold analyzeArgs analyzeFlags
  rw [CacheStrategy.analyzeArgs_eq]
  cases b.legacy <;> cases b.request.previousImage <;>
    simp [Flag.text_mk, layersArg, analyzedArg, groupArg, runImageArg]

def processFlags : List Flag :=
  if !b.request.defaultProcess.isEmpty then [.mk "process-type" b.request.defaultProcess]
  else if Negotiation.lowest < b.api ∧ b.api ≤ lastExplicitProcess then
    [.mk "process-type" "web"]
  else []

def exportFlags : List Flag :=
  [.mk "layers" "/layers", .mk "app" b.appDir, .mk "group" "/layers/group.toml",
    if b.legacy then .mk "run-image" b.context.builder.runImage
    else .mk "analyzed" "/layers/analyzed.toml",
    .mk "project-metadata" "/layers/project-metadata.toml"] ++
    (if Negotiation.lowest < b.api then [.mk "report" Layout.reportFile] else []) ++
    b.processFlags ++ b.cache.exportFlags

theorem processArgs_eq : b.processArgs = b.processFlags.map Flag.text := by
  unfold processArgs processFlags
  split
  · simp [Flag.text_mk]
  · split
    · simp [Flag.text_mk]
    · rfl

theorem exportArgs_eq : b.exportArgs = b.exportFlags.map Flag.text ++ b.request.tags := by
  have hreport : Flag.text (.mk "report" Layout.reportFile) = "-report=" ++ Layout.reportFile := by
    decide
  unfold exportArgs exportFlags
  rw [CacheStrategy.exportArgs_eq, processArgs_eq]
  by_cases hapi : Negotiation.lowest < b.api
  · cases b.legacy <;>
      simp [hapi, hreport, Flag.text_mk, layersArg, analyzedArg, groupArg, runImageArg, appArg]
  · cases b.legacy <;>
      simp [hapi, Flag.text_mk, layersArg, analyzedArg, groupArg, runImageArg, appArg]

def restoreFlags : List Flag :=
  [.mk "group" "/layers/group.toml", .mk "layers" "/layers"] ++ b.cache.restoreFlags

theorem restoreArgs_eq :
    [groupArg, layersArg] ++ b.cache.restoreArgs = b.restoreFlags.map Flag.text := by
  rw [restoreFlags, CacheStrategy.restoreArgs_eq, List.map_append]
  rfl

/-- The flags of a step that runs buildpacks. -/
def buildpackFlags : List Flag :=
  [.mk "layers" "/layers", .mk "app" b.appDir, .mk "group" "/layers/group.toml",
    .mk "plan" "/layers/plan.toml"]

variable {b} {bindings : List Attachment} {epoch : Option Int64} {name : String}

theorem flagValues_lifecycleStep (hhost : b.host.toList.head? ≠ some '-') {step command : String}
    (hcommand : command.toList.head? ≠ some '-') {args : List String} {env : List EnvVar}
    {mounts : List VolumeMount} :
    (b.adapt (b.lifecycleStep step command args env mounts)).flagValues name =
      Flag.values name args := by
  have hwords : ∀ w ∈ [command], w.toList.head? ≠ some '-' :=
    List.forall_mem_singleton.2 hcommand
  exact flagValues_adapt (c := b.lifecycleStep step command args env mounts) hhost hwords

theorem flagValues_analyzeStep (hhost : b.host.toList.head? ≠ some '-')
    (htags : ∀ t ∈ b.request.tags, t.toList.head? ≠ some '-') (hne : b.request.tags ≠ []) :
    (b.adapt b.analyzeStep).flagValues name =
      Flag.given name b.analyzeFlags := by
  have htag : ∀ t ∈ [b.request.tag], t.toList.head? ≠ some '-' := by
    rw [List.forall_mem_singleton]
    exact htags b.request.tag (b.request.tag_mem hne)
  rw [analyzeStep, flagValues_lifecycleStep hhost (by decide), analyzeArgs_eq,
    Flag.values_texts_append _ htag]

theorem flagValues_exportStep (hhost : b.host.toList.head? ≠ some '-')
    (htags : ∀ t ∈ b.request.tags, t.toList.head? ≠ some '-') :
    (b.adapt (b.exportStep epoch)).flagValues name =
      Flag.given name b.exportFlags := by
  rw [exportStep, flagValues_lifecycleStep hhost (by decide), exportArgs_eq,
    Flag.values_texts_append _ htags]

/-- No flag of the cache has another name. -/
theorem given_analyzeFlags_cache (hdir : name ≠ "cache-dir") (himage : name ≠ "cache-image") :
    Flag.given name (b.cache.analyzeFlags b.api) = [] := by
  refine Flag.given_eq_nil fun f hf => ?_
  rcases CacheStrategy.name_of_mem_analyzeFlags hf with h | h
  · exact h ▸ hdir.symm
  · exact h ▸ himage.symm

theorem given_exportFlags_cache (hdir : name ≠ "cache-dir") (himage : name ≠ "cache-image") :
    Flag.given name b.cache.exportFlags = [] := by
  refine Flag.given_eq_nil fun f hf => ?_
  rcases CacheStrategy.name_of_mem_exportFlags hf with h | h
  · exact h ▸ hdir.symm
  · exact h ▸ himage.symm

theorem given_processFlags (hprocess : name ≠ "process-type") :
    Flag.given name b.processFlags = [] := by
  unfold processFlags
  split
  · simp [hprocess.symm]
  · split <;> simp [hprocess.symm]

end PlanBasis

/-- What the analyze step is told at a version. -/
structure Container.AnalyzesAt (c : Container) (r : BuildRequest) (ctx : PlanContext)
    (v : Version) : Prop where
  runImage : c.flagValues "run-image" =
    if v < .release 0 7 0 then [] else [ctx.builder.runImage]
  group : c.flagValues "group" = if v < .release 0 7 0 then ["/layers/group.toml"] else []
  tags : c.flagValues "tag" = if v < .release 0 7 0 then [] else r.tags.drop 1
  /-- The primary tag is the last argument. -/
  last : ∃ lead, c.args = some (lead ++ [r.tag])

/-- What the export step is told at a version. -/
structure Container.ExportsAt (c : Container) (r : BuildRequest) (ctx : PlanContext)
    (v : Version) : Prop where
  runImage : c.flagValues "run-image" =
    if v < .release 0 7 0 then [ctx.builder.runImage] else []
  analyzed : c.flagValues "analyzed" =
    if v < .release 0 7 0 then [] else ["/layers/analyzed.toml"]
  report : c.flagValues "report" = if .release 0 3 0 < v then ["/var/report/report.toml"] else []
  /-- All tags stand behind the last flag, and nothing else does. -/
  last : ∃ (lead : List String) (flag : Flag), c.args = some (lead ++ flag.text :: r.tags)

namespace PlanBasis

variable {b : PlanBasis} {epoch : Option Int64} {name : String}

/-- What the flags of the analyze step give to a name that is not the cache's. -/
theorem given_analyzeFlags (hdir : name ≠ "cache-dir") (himage : name ≠ "cache-image") :
    Flag.given name b.analyzeFlags =
      Flag.given name [.mk "layers" "/layers", .mk "analyzed" "/layers/analyzed.toml"] ++
        (if b.api < .release 0 7 0 then Flag.given name [.mk "group" "/layers/group.toml"]
         else Flag.given name (.mk "run-image" b.context.builder.runImage ::
          b.request.additionalTags.map fun t => .mk "tag" t)) ++
        Flag.given name (b.request.previousImage.toList.map fun image =>
          .mk "previous-image" image) := by
  have hlegacy : b.legacy = true ↔ b.api < .release 0 7 0 := decide_eq_true_iff
  simp only [analyzeFlags, Flag.given_append, given_analyzeFlags_cache hdir himage,
    List.append_nil, hlegacy, apply_ite (Flag.given name)]

/-- What the flags of the export step give to a name that is neither the cache's nor the
name of the default process. -/
theorem given_exportFlags (hdir : name ≠ "cache-dir") (himage : name ≠ "cache-image")
    (hprocess : name ≠ "process-type") :
    Flag.given name b.exportFlags =
      Flag.given name [.mk "layers" "/layers", .mk "app" b.appDir,
        .mk "group" "/layers/group.toml"] ++
        (if b.api < .release 0 7 0 then
          Flag.given name [.mk "run-image" b.context.builder.runImage]
         else Flag.given name [.mk "analyzed" "/layers/analyzed.toml"]) ++
        Flag.given name [.mk "project-metadata" "/layers/project-metadata.toml"] ++
        (if .release 0 3 0 < b.api then
          Flag.given name [.mk "report" "/var/report/report.toml"] else []) := by
  have hlegacy : b.legacy = true ↔ b.api < .release 0 7 0 := decide_eq_true_iff
  have hlowest : Negotiation.lowest = .release 0 3 0 := rfl
  have hfile : Layout.reportFile = "/var/report/report.toml" := rfl
  -- The flag that depends on the version stands between two that do not.
  have hmiddle {f g h old new k : Flag} : [f, g, h, if b.legacy then old else new, k] =
      [f, g, h] ++ (if b.legacy then [old] else [new]) ++ [k] := by
    cases b.legacy <;> rfl
  rw [exportFlags, hmiddle]
  simp only [Flag.given_append, given_processFlags hprocess, given_exportFlags_cache hdir himage,
    List.append_nil, hlegacy, apply_ite (Flag.given name), Flag.given_nil, hlowest, hfile]

theorem analyzeStep_analyzesAt (hhost : b.host.toList.head? ≠ some '-')
    (htags : ∀ t ∈ b.request.tags, t.toList.head? ≠ some '-') (hne : b.request.tags ≠ []) :
    (b.adapt b.analyzeStep).AnalyzesAt b.request b.context b.api where
  runImage := by
    rw [flagValues_analyzeStep hhost htags hne, given_analyzeFlags (by decide) (by decide)]
    simp
  group := by
    rw [flagValues_analyzeStep hhost htags hne, given_analyzeFlags (by decide) (by decide)]
    simp
  tags := by
    have hrest : b.request.tags.drop 1 = b.request.additionalTags := rfl
    rw [flagValues_analyzeStep hhost htags hne, given_analyzeFlags (by decide) (by decide), hrest]
    simp
  last := by
    have hargs : b.analyzeStep.args = some (b.analyzeFlags.map Flag.text ++ [b.request.tag]) := by
      rw [← analyzeArgs_eq]
      rfl
    rw [args_adapt_of_some hargs, ← List.append_assoc]
    exact ⟨_, rfl⟩

theorem exportStep_exportsAt (hhost : b.host.toList.head? ≠ some '-')
    (htags : ∀ t ∈ b.request.tags, t.toList.head? ≠ some '-') :
    (b.adapt (b.exportStep epoch)).ExportsAt b.request b.context b.api where
  runImage := by
    rw [flagValues_exportStep hhost htags, given_exportFlags (by decide) (by decide) (by decide)]
    simp
  analyzed := by
    rw [flagValues_exportStep hhost htags, given_exportFlags (by decide) (by decide) (by decide)]
    simp
  report := by
    rw [flagValues_exportStep hhost htags, given_exportFlags (by decide) (by decide) (by decide)]
    simp
  last := by
    have hflags : b.exportFlags ≠ [] :=
      List.append_ne_nil_of_left_ne_nil (List.append_ne_nil_of_left_ne_nil
        (List.append_ne_nil_of_left_ne_nil (List.cons_ne_nil _ _) _) _) _
    have hsplit : b.exportFlags.map Flag.text =
        b.exportFlags.dropLast.map Flag.text ++ [(b.exportFlags.getLast hflags).text] := by
      rw [← List.map_singleton, ← List.map_append, List.dropLast_append_getLast]
    have hargs : (b.exportStep epoch).args =
        some (b.exportFlags.dropLast.map Flag.text ++
          (b.exportFlags.getLast hflags).text :: b.request.tags) := by
      rw [List.append_cons, ← hsplit, ← exportArgs_eq]
      rfl
    rw [args_adapt_of_some hargs, ← List.append_assoc]
    exact ⟨_, _, rfl⟩

theorem variablesNamed_apiEnv {c : Container} (before after : List EnvVar)
    (hc : c.env = some (before ++ b.apiEnv :: after))
    (hbefore : ∀ v ∈ before, v.name ≠ "CNB_PLATFORM_API")
    (hafter : ∀ v ∈ after, v.name ≠ "CNB_PLATFORM_API") :
    (b.adapt c).variablesNamed "CNB_PLATFORM_API" = [b.apiEnv] :=
  variablesNamed_adapt_of_env before after hc rfl hbefore hafter (by decide) (by decide)

/-- A version that a build can be driven with may still have no report. -/
theorem reported_of_choose {signing windows : Bool} {ceiling : Option Version} {apis : List String}
    {v : Version}
    (h : Negotiation.choose (Negotiation.supportedFor signing windows) ceiling apis = some v)
    (hneeded : signing = true ∨ windows = true) : .release 0 3 0 < v := by
  have hmem := (Negotiation.mem_of_choose h).1
  have hreport : Negotiation.supportedFor signing windows = Negotiation.supportedWithReport := by
    rw [Negotiation.supportedFor, if_pos (by simpa using hneeded)]
  have hall : ∀ v ∈ Negotiation.supportedWithReport, .release 0 3 0 < v := by decide +kernel
  exact hall v (hreport ▸ hmem)

/-- The names of the variables that tell of a source. -/
def sourceVariables : List String :=
  ["GIT_URL", "GIT_REVISION", "GIT_INITIALIZE_SUBMODULES", "BLOB_URL", "BLOB_STRIP_COMPONENTS",
    "BLOB_AUTH", "REGISTRY_IMAGE"]

/-- The variables of the source have names of their own. -/
theorem names_sourceEnv (s : Source) (h : name ∉ sourceVariables) :
    ∀ v ∈ s.env, v.name ≠ name := by
  have hmem : ∀ v ∈ s.env, v.name ∈ sourceVariables := by
    cases s <;> simp [Source.env, EnvVar.of, sourceVariables]
  intro v hv hname
  exact h (hname ▸ hmem v hv)

variable {bindings : List Attachment} {c : Container}

theorem variablesNamed_buildSteps (h : c ∈ b.buildSteps bindings epoch) :
    (b.adapt c).variablesNamed "CNB_PLATFORM_API" = [b.apiEnv] := by
  rcases b.mem_buildSteps.1 h with rfl | rfl | rfl | rfl | rfl | rfl
  · have henv : b.prepareStep.env = some ((b.request.source.source.env ++
        [.of "SOURCE_SUB_PATH" (b.request.source.subPath.getD ""),
          .of "PLATFORM_ENV_VARS" ((Codec.list EnvVar.codec).encode b.request.env).compact,
          .of "IMAGE_TAG" b.request.tag, .of "DNS_PROBE_HOSTNAME" b.host, b.changesEnv]) ++
        b.apiEnv :: [Layout.homeEnv]) := by
      rw [List.append_assoc]
      rfl
    refine variablesNamed_apiEnv _ _ henv ?_ (by decide)
    rw [List.forall_mem_append]
    exact ⟨names_sourceEnv b.request.source.source (by decide), by simp [EnvVar.of, changesEnv]⟩
  · exact variablesNamed_apiEnv [Layout.bindingRootEnv] [] rfl (by decide) (by simp)
  · exact variablesNamed_apiEnv [Layout.homeEnv] [] rfl (by decide) (by simp)
  · exact variablesNamed_apiEnv [Layout.homeEnv] [] rfl (by decide) (by simp)
  · exact variablesNamed_apiEnv [Layout.bindingRootEnv] [] rfl (by decide) (by simp)
  · refine variablesNamed_apiEnv [Layout.homeEnv] _ rfl (by decide) ?_
    cases epoch <;> simp [EnvVar.of]

theorem variablesNamed_completionStep :
    (b.adapt b.completionStep).variablesNamed "CNB_PLATFORM_API" = [] := by
  rw [variablesNamed_adapt (by decide) (by decide), Container.variablesNamed,
    List.filter_eq_nil_iff]
  intro v hv
  have hname : v = Layout.homeEnv ∨ ∃ tag, v = .of "CACHE_TAG" tag := by
    rcases List.mem_cons.1 hv with rfl | hv
    · exact .inl rfl
    · obtain ⟨tag, -, rfl⟩ := Option.map_eq_some_iff.1 (Option.mem_toList.1 hv)
      exact .inr ⟨tag, rfl⟩
  rcases hname with rfl | ⟨tag, rfl⟩
  · decide
  · simp [EnvVar.of]

/-- The steps of a build have different names. -/
theorem eq_of_name {d : Container} (hc : c ∈ b.buildSteps bindings epoch)
    (hd : d ∈ b.buildSteps bindings epoch) (hname : c.name = d.name) : c = d := by
  have hnames : (b.buildSteps bindings epoch).map Container.name =
      ["prepare"] ++ (if b.legacy then ["detect", "analyze"] else ["analyze", "detect"]) ++
        ["restore", "build", "export"] := by
    rw [← b.names_build bindings epoch [], pod, List.map_map]
    exact List.map_congr_left fun c _ => b.adapt_name c |>.symm
  have hnodup : ((b.buildSteps bindings epoch).map Container.name).Nodup := by
    rw [hnames]
    cases b.legacy <;> decide
  exact List.inj_on_of_nodup_map hnodup hc hd hname

theorem eq_analyzeStep (h : c ∈ b.buildSteps bindings epoch) (hname : c.name = "analyze") :
    c = b.analyzeStep :=
  eq_of_name h (b.mem_buildSteps.2 (.inr (.inr (.inl rfl)))) hname

theorem eq_exportStep (h : c ∈ b.buildSteps bindings epoch) (hname : c.name = "export") :
    c = b.exportStep epoch :=
  eq_of_name h (b.mem_buildSteps.2 (.inr (.inr (.inr (.inr (.inr rfl)))))) hname

end PlanBasis

/-- All steps of a build pod follow one version. -/
structure Pod.FollowsVersion (p : Pod) (r : BuildRequest) (ctx : PlanContext) (v : Version) :
    Prop where
  order : p.spec.initContainers.map Container.name =
    ["prepare"] ++ (if v < .release 0 7 0 then ["detect", "analyze"] else ["analyze", "detect"]) ++
      ["restore", "build", "export"]
  completion : p.spec.containers.map Container.name = ["completion"]
  told : ∀ c ∈ p.spec.initContainers,
    c.variablesNamed "CNB_PLATFORM_API" = [⟨"CNB_PLATFORM_API", some v.text, none⟩]
  untold : ∀ c ∈ p.spec.containers, c.variablesNamed "CNB_PLATFORM_API" = []
  analyzes : ∀ c ∈ p.spec.initContainers, c.name = "analyze" → c.AnalyzesAt r ctx v
  exports : ∀ c ∈ p.spec.initContainers, c.name = "export" → c.ExportsAt r ctx v
  /-- A build that needs the report has it. -/
  reported : r.signed ∨ ctx.builder.isWindows → .release 0 3 0 < v

/-- A plan that is no rebase has the steps of a build, and they follow the
version that was negotiated for it. -/
theorem plan_followsVersion {r : BuildRequest} {ctx : PlanContext} {pod : Pod}
    (htags : ∀ t ∈ r.tags, t.toList.head? ≠ some '-') (h : plan r ctx = .ok pod)
    (hbuild : ¬ pod.IsRebase) :
    ∃ v, Negotiation.choose (Negotiation.supportedFor r.signed ctx.builder.isWindows)
        ctx.config.maxPlatformApi ctx.builder.platformApis = some v ∧
      pod.FollowsVersion r ctx v := by
  obtain ⟨b, rfl, rfl, hb, hpod⟩ := plan_cases h
  cases hpod with
  | rebase => exact absurd (b.names_rebase _ _) hbuild
  | build =>
    have hhost := hb.head?_host htags
    refine ⟨b.api, hb.negotiated, ?_⟩
    exact {
      order := by
        rw [PlanBasis.names_build]
        by_cases hlegacy : b.api < .release 0 7 0 <;>
          simp [PlanBasis.legacy, PlanBasis.analyzeFirst, hlegacy]
      completion := by
        simp [PlanBasis.pod, PlanBasis.completionStep, PlanBasis.helperStep]
      told := by
        intro c hc
        obtain ⟨d, hd, rfl⟩ := List.mem_map.1 hc
        exact PlanBasis.variablesNamed_buildSteps hd
      untold := by
        intro c hc
        rw [List.mem_singleton.1 hc]
        exact PlanBasis.variablesNamed_completionStep
      analyzes := by
        intro c hc hname
        obtain ⟨d, hd, rfl⟩ := List.mem_map.1 hc
        rw [PlanBasis.adapt_name] at hname
        rw [PlanBasis.eq_analyzeStep hd hname]
        exact PlanBasis.analyzeStep_analyzesAt hhost htags hb.tagged
      exports := by
        intro c hc hname
        obtain ⟨d, hd, rfl⟩ := List.mem_map.1 hc
        rw [PlanBasis.adapt_name] at hname
        rw [PlanBasis.eq_exportStep hd hname]
        exact PlanBasis.exportStep_exportsAt hhost htags
      reported := PlanBasis.reported_of_choose hb.negotiated }

/-- A signed request for three tags. -/
def taggedRequest : BuildRequest :=
  { BuildRequest.ofTag "host/app" with
    tags := ["host/app", "host/app:1", "host/app:2"]
    signing := some ⟨none, ∅⟩ }

theorem tagged_followsVersion :
    (∀ t ∈ taggedRequest.tags, t.toList.head? ≠ some '-') ∧
      ∃ pod, plan taggedRequest PlanContext.linux = .ok pod ∧ ¬ pod.IsRebase ∧
        pod.FollowsVersion taggedRequest PlanContext.linux (.release 0 9 0) := by
  have htags : ∀ t ∈ taggedRequest.tags, t.toList.head? ≠ some '-' := by decide
  have hp : (plan taggedRequest PlanContext.linux).toOption.isSome = true := by decide +kernel
  refine ⟨htags, ?_⟩
  cases hplan : plan taggedRequest PlanContext.linux with
  | error e => simp [hplan, Except.toOption] at hp
  | ok pod =>
    have hbuild : ¬ pod.IsRebase := by
      rw [plan_isRebase_iff hplan]
      decide
    obtain ⟨v, hv, hfollows⟩ := plan_followsVersion htags hplan hbuild
    have hnine : Negotiation.choose
        (Negotiation.supportedFor taggedRequest.signed PlanContext.linux.builder.isWindows)
        PlanContext.linux.config.maxPlatformApi PlanContext.linux.builder.platformApis =
          some (.release 0 9 0) := by
      decide +kernel
    obtain rfl := Option.some.inj (hv.symm.trans hnine)
    exact ⟨pod, rfl, hbuild, hfollows⟩

end ImageBuild
