import ImageBuild.Proofs.Codec.Records
import ImageBuild.Proofs.Plan.Phases
import ImageBuild.Proofs.Plan.Windows

/-!
# The variables of a user

The variables of a request are for the buildpacks, and reach them as one text: the
prepare step has a variable that holds all of them as JSON. Reading the text gives the
variables again, whatever their names and values are and wherever their values come from.
The main statement is `plan_handsOver`.
-/
namespace ImageBuild

/-- The variables that a JSON text lists. -/
def EnvVar.listOfText? (text : String) : Option (List EnvVar) :=
  (Json.parse text).bind fun v => (Codec.list EnvVar.codec).decode v.toDocument

/-- The pod has one prepare step, and of its variables just one has the name under which
the variables of a user are handed over. These are what its text lists. -/
def Pod.HandsOver (p : Pod) (vs : List EnvVar) : Prop :=
  ∃ prepare text, p.steps.filter (·.name = "prepare") = [prepare] ∧
    prepare.variablesNamed "PLATFORM_ENV_VARS" = [⟨"PLATFORM_ENV_VARS", some text, none⟩] ∧
    EnvVar.listOfText? text = some vs

/-- A list of variables is nested four deep, and its text is read as the same list. -/
theorem EnvVar.listOfText?_compact (vs : List EnvVar) :
    listOfText? ((Codec.list codec).encode vs).compact = some vs := by
  have hkeeps : (Codec.list codec).Keeps (123 + 4) vs := Codec.list_keeps fun v _ => v.codec_keeps
  exact (Codec.Keeps.readsBack hkeeps).text

namespace PlanBasis

variable (b : PlanBasis) {bindings : List Attachment} {epoch : Option Int64}

theorem filter_prepare_steps (volumes : List Volume) :
    (b.pod (b.buildSteps bindings epoch) volumes).steps.filter (·.name = "prepare") =
      [b.adapt b.prepareStep] := by
  have hsteps : (b.pod (b.buildSteps bindings epoch) volumes).steps =
      (b.buildSteps bindings epoch ++ [b.completionStep]).map b.adapt := by
    rw [List.map_append]
    rfl
  rw [hsteps, List.filter_map]
  unfold buildSteps
  cases b.legacy <;>
    simp [prepareStep, detectStep, analyzeStep, restoreStep, buildStep, exportStep, completionStep,
      lifecycleStep, helperStep]

/-- The variables of the user stand between those of the source and those of the planner. -/
theorem variablesNamed_prepareStep :
    (b.adapt b.prepareStep).variablesNamed "PLATFORM_ENV_VARS" =
      [.of "PLATFORM_ENV_VARS" ((Codec.list EnvVar.codec).encode b.request.env).compact] := by
  have henv : b.prepareStep.env = some
      ((b.request.source.source.env ++
        [.of "SOURCE_SUB_PATH" (b.request.source.subPath.getD "")]) ++
        .of "PLATFORM_ENV_VARS" ((Codec.list EnvVar.codec).encode b.request.env).compact ::
          [.of "IMAGE_TAG" b.request.tag, .of "DNS_PROBE_HOSTNAME" b.host, b.changesEnv, b.apiEnv,
            Layout.homeEnv]) := by
    rw [List.append_assoc]
    rfl
  refine variablesNamed_adapt_of_env _ _ henv rfl ?_ ?_ (by decide) (by decide)
  · rw [List.forall_mem_append]
    exact ⟨names_sourceEnv b.request.source.source (by decide), by simp [EnvVar.of]⟩
  · simp [EnvVar.of, changesEnv, apiEnv, Layout.homeEnv, Layout.homeName]

end PlanBasis

/-- A plan that is no rebase hands over the variables of the request, all and as they are. -/
theorem plan_handsOver {r : BuildRequest} {ctx : PlanContext} {pod : Pod}
    (h : plan r ctx = .ok pod) (hbuild : ¬ pod.IsRebase) : pod.HandsOver r.env := by
  obtain ⟨b, rfl, -, -, hpod⟩ := plan_cases h
  cases hpod with
  | rebase => exact absurd (b.names_rebase _ _) hbuild
  | build =>
    exact ⟨_, _, b.filter_prepare_steps _, b.variablesNamed_prepareStep,
      EnvVar.listOfText?_compact b.request.env⟩

/-- A request with a repeated name, with names that the planner uses itself, and with
values that come from the cluster. -/
def variedRequest : BuildRequest :=
  { BuildRequest.ofTag "host/app" with
    env :=
      [⟨"HOME", some "\"\\\n\x01\x7fé", none⟩, ⟨"HOME", none, none⟩,
        ⟨"PLATFORM_ENV_VARS", some "", some ⟨none, some ⟨none, "metadata.name"⟩, none, none⟩⟩,
        ⟨"", none, some ⟨some ⟨"key", none, some false⟩, none, none, some ⟨"", some "", none⟩⟩⟩] }

theorem varied_handsOver :
    ∃ pod, plan variedRequest (PlanContext.linux.onOs "windows") = .ok pod ∧ ¬ pod.IsRebase ∧
      pod.HandsOver variedRequest.env := by
  obtain ⟨pod, hplan⟩ : ∃ pod, plan variedRequest (PlanContext.linux.onOs "windows") = .ok pod :=
    exists_eq_ok_iff.2 (by decide +kernel)
  have hbuild : ¬ pod.IsRebase := by
    rw [plan_isRebase_iff hplan]
    decide
  exact ⟨pod, hplan, hbuild, plan_handsOver hplan hbuild⟩

end ImageBuild
