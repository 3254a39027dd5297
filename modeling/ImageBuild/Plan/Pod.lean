import ImageBuild.Build.Builder
import ImageBuild.Build.Config
import ImageBuild.Build.Request
import ImageBuild.Cluster.Pod
import ImageBuild.Json.Printer
import ImageBuild.Negotiation
import ImageBuild.Plan.Attachment
import ImageBuild.Plan.Cache
import ImageBuild.Plan.Basic
import ImageBuild.Plan.StepPass
import ImageBuild.Text.Cut

/-!
# Build pods

`plan` turns a build request into the pod that builds the image. The steps of
the build are the init containers of the pod; the completion step is its only
container. Where only the stack has changed, one rebase step takes the place of
the build.
-/
namespace ImageBuild

/-- What a plan depends on besides the request. -/
structure PlanContext where
  builder : Builder
  /-- The credentials of the service account. -/
  credentials : List Credential
  /-- The pull secrets of the service account. -/
  pullSecrets : List String
  config : PlanConfig
  /-- The present time, in seconds. -/
  now : Int64

/-- What both kinds of plan rest on. -/
structure PlanBasis where
  request : BuildRequest
  context : PlanContext
  api : Version
  /-- The host that serves the primary tag. -/
  host : String

namespace PlanBasis

def windows (b : PlanBasis) : Bool := b.context.builder.isWindows

def cache (b : PlanBasis) : CacheStrategy := .select b.request b.windows

/-- Versions below have the detect step before the analyze step. -/
def analyzeFirst : Version := .release 0 7 0

def legacy (b : PlanBasis) : Bool := b.api < analyzeFirst

def apiEnv (b : PlanBasis) : EnvVar := .of "CNB_PLATFORM_API" b.api.text

def changesEnv (b : PlanBasis) : EnvVar := .of "BUILD_CHANGES" b.request.changes

/-- The attachments of pull secrets, those of the builder first. -/
def pulls (b : PlanBasis) : List Attachment :=
  Credential.pullAttachments b.request.builder.pullSecrets
    (b.context.pullSecrets ++ b.request.source.source.pullSecrets)

def signing (b : PlanBasis) : List Attachment :=
  Credential.signingAttachments b.context.credentials

def credentials (b : PlanBasis) (scope : CredentialScope) : List Attachment :=
  Credential.attachments scope b.context.credentials

/-- The notary, if its address is not empty. -/
def notary (b : PlanBasis) : Option NotaryConfig :=
  (b.request.signing.bind ImageSigning.notary).filter fun n => !n.url.isEmpty

/-- The directory of the application: the part of the workspace that is built. -/
def appDir (b : PlanBasis) : String :=
  match Text.trimSlashes (b.request.source.subPath.getD "").toList with
  | [] => Layout.workspace.mountPath
  | path => Layout.workspace.mountPath ++ "/" ++ String.ofList path

/-- A step of the planner's own images. -/
def helperStep (name image command : String) (args : List String) (env : List EnvVar)
    (mounts : List VolumeMount) : Container where
  name := name
  image := some image
  command := some [command]
  args := some args
  env := some env
  mounts := some mounts
  resources := none
  security := none
  settings := .unset

/-- A step of the builder's image, which has the resources of the request. -/
def lifecycleStep (b : PlanBasis) (name command : String) (args : List String) (env : List EnvVar)
    (mounts : List VolumeMount) : Container :=
  { helperStep name b.request.builder.image command args env mounts with
    resources := some b.request.resources }

def prepareStep (b : PlanBasis) : Container :=
  let creds := b.credentials .all
  helperStep "prepare" (b.context.config.prepareImage b.windows) "/cnb/process/build-init"
    (Attachment.allArgs creds ++ Attachment.allArgs b.pulls)
    (b.request.source.source.env ++ [
      .of "SOURCE_SUB_PATH" (b.request.source.subPath.getD ""),
      .of "PLATFORM_ENV_VARS" ((Codec.list EnvVar.codec).encode b.request.env).compact,
      .of "IMAGE_TAG" b.request.tag,
      .of "DNS_PROBE_HOSTNAME" b.host,
      b.changesEnv,
      b.apiEnv,
      Layout.homeEnv])
    (Attachment.mounts creds ++ Attachment.mounts b.pulls ++
      [Layout.platform, Layout.workspace, Layout.home, Layout.projectMetadata])

def groupArg : String := "-group=/layers/group.toml"
def planArg : String := "-plan=/layers/plan.toml"
def layersArg : String := "-layers=/layers"
def analyzedArg : String := "-analyzed=/layers/analyzed.toml"

def runImageArg (b : PlanBasis) : String := "-run-image=" ++ b.context.builder.runImage

def appArg (b : PlanBasis) : String := "-app=" ++ b.appDir

def analyzeArgs (b : PlanBasis) : List String :=
  [layersArg, analyzedArg] ++
    (if b.legacy then [groupArg]
     else b.runImageArg :: b.request.additionalTags.map fun t => "-tag=" ++ t) ++
    b.cache.analyzeArgs b.api ++
    (b.request.previousImage.map fun image => "-previous-image=" ++ image).toList ++
    [b.request.tag]

def analyzeStep (b : PlanBasis) : Container :=
  b.lifecycleStep "analyze" "/cnb/lifecycle/analyzer" b.analyzeArgs [Layout.homeEnv, b.apiEnv]
    ([Layout.layers, Layout.workspace, Layout.home] ++ if b.legacy then b.cache.mounts else [])

def detectStep (b : PlanBasis) (bindings : List Attachment) : Container :=
  b.lifecycleStep "detect" "/cnb/lifecycle/detector" [b.appArg, groupArg, planArg]
    [Layout.bindingRootEnv, b.apiEnv]
    ([Layout.layers, Layout.platform, Layout.workspace] ++ Attachment.mounts bindings)

def restoreStep (b : PlanBasis) : Container :=
  b.lifecycleStep "restore" "/cnb/lifecycle/restorer" ([groupArg, layersArg] ++ b.cache.restoreArgs)
    [Layout.homeEnv, b.apiEnv] ([Layout.layers, Layout.home] ++ b.cache.mounts)

def buildStep (b : PlanBasis) (bindings : List Attachment) : Container :=
  b.lifecycleStep "build" "/cnb/lifecycle/builder" [layersArg, b.appArg, groupArg, planArg]
    [Layout.bindingRootEnv, b.apiEnv]
    ([Layout.layers, Layout.platform, Layout.workspace] ++ Attachment.mounts bindings)

/-- The last version that has to be told the default process. -/
def lastExplicitProcess : Version := .release 0 5 0

/-- The process that the image starts. Some versions have to be told the one
that others take by default. -/
def processArgs (b : PlanBasis) : List String :=
  if !b.request.defaultProcess.isEmpty then ["-process-type=" ++ b.request.defaultProcess]
  else if Negotiation.lowest < b.api ∧ b.api ≤ lastExplicitProcess then ["-process-type=web"]
  else []

def exportArgs (b : PlanBasis) : List String :=
  [layersArg, b.appArg, groupArg, if b.legacy then b.runImageArg else analyzedArg,
    "-project-metadata=/layers/project-metadata.toml"] ++
    (if Negotiation.lowest < b.api then ["-report=" ++ Layout.reportFile] else []) ++
    b.processArgs ++ b.cache.exportArgs ++ b.request.tags

def exportStep (b : PlanBasis) (epoch : Option Int64) : Container :=
  b.lifecycleStep "export" "/cnb/lifecycle/exporter" b.exportArgs
    ([Layout.homeEnv, b.apiEnv, .of "CNB_RUN_IMAGE" b.context.builder.runImage] ++
      (epoch.map fun n => EnvVar.of "SOURCE_DATE_EPOCH" (toString n.toInt)).toList)
    ([Layout.layers, Layout.workspace, Layout.home, Layout.report] ++ b.cache.mounts)

def completionArgs (b : PlanBasis) : List String :=
  (b.notary.map fun n => "-notary-v1-url=" ++ n.url).toList ++
    ((b.request.signing.map fun s => s.annotations.toList).getD []).map
      (fun e => "-cosign-annotations=" ++ e.1 ++ "=" ++ e.2) ++
    Attachment.allArgs b.signing

def completionStep (b : PlanBasis) : Container :=
  helperStep "completion" (b.context.config.finalImage b.windows) "/cnb/process/completion"
    b.completionArgs
    (Layout.homeEnv :: (b.cache.tag.map (EnvVar.of "CACHE_TAG")).toList)
    ([Layout.report, Layout.home] ++ (b.notary.map fun _ => Layout.notary).toList ++
      Attachment.mounts b.signing)

def rebaseStep (b : PlanBasis) (lastImage : String) : Container :=
  let creds := b.credentials .registryOnly
  helperStep "rebase" b.context.config.rebaseImage "/cnb/process/rebase"
    (["--run-image", b.context.builder.runImage, "--last-built-image", lastImage,
        "--report", Layout.reportFile] ++
      Attachment.allArgs creds ++ Attachment.allArgs b.pulls ++ b.request.tags)
    [b.changesEnv, b.apiEnv, Layout.homeEnv]
    (Attachment.mounts creds ++ Attachment.mounts b.pulls ++ [Layout.home, Layout.report])

/-- Containers on Windows have no security settings. -/
def security (b : PlanBasis) : Option SecurityContext :=
  if b.windows then none else some .restricted

/-- A step as it runs on the operating system of the builder. -/
def adapt (b : PlanBasis) (c : Container) : Container :=
  StepPass.applyAll (StepPass.forOs b.windows b.host) { c with security := b.security }

/-- The volume of the notary's secret. -/
def notaryVolumes (b : PlanBasis) : List Volume :=
  (b.notary.map fun n => Volume.secret Layout.notary.name n.secretName).toList

/-- The volume of the launcher. -/
def osVolumes (b : PlanBasis) : List Volume :=
  if b.windows then [.emptyDir Layout.networkWait.name] else []

def scratch (mounts : List VolumeMount) : List Volume :=
  mounts.map fun m => Volume.emptyDir m.name

def buildVolumes (b : PlanBasis) (bindings : List Attachment) : List Volume :=
  Attachment.volumes (b.credentials .all) ++ Attachment.volumes b.signing ++
    Attachment.volumes b.pulls ++ Attachment.volumes bindings ++
    scratch [Layout.workspace, Layout.home, Layout.layers, Layout.platform, Layout.report] ++
    b.cache.volumes ++ b.notaryVolumes ++ b.osVolumes

def rebaseVolumes (b : PlanBasis) : List Volume :=
  Attachment.volumes (b.credentials .registryOnly) ++ Attachment.volumes b.signing ++
    Attachment.volumes b.pulls ++ scratch [Layout.home, Layout.report] ++
    b.notaryVolumes ++ b.osVolumes

/-- The steps of a build in the order in which they run. -/
def buildSteps (b : PlanBasis) (bindings : List Attachment) (epoch : Option Int64) :
    List Container :=
  [b.prepareStep] ++
    (if b.legacy then [b.detectStep bindings, b.analyzeStep]
     else [b.analyzeStep, b.detectStep bindings]) ++
    [b.restoreStep, b.buildStep bindings, b.exportStep epoch]

def metadata (r : BuildRequest) : PodMetadata where
  name := r.name ++ "-build-pod"
  space := if r.space.isEmpty then none else some r.space
  labels := if r.labels.isEmpty then none else some r.labels

def podSecurity (builder : Builder) : Option PodSecurity :=
  if builder.isWindows then none else some ⟨builder.uid, builder.gid, builder.gid⟩

/-- The pod of some steps and volumes. -/
def pod (b : PlanBasis) (steps : List Container) (volumes : List Volume) : Pod where
  metadata := metadata b.request
  spec :=
    let scheduling := b.request.scheduling
    { deadlineSeconds := scheduling.deadlineSeconds
      affinity := scheduling.affinity
      containers := [b.adapt b.completionStep]
      pullSecrets :=
        if b.request.builder.pullSecrets.isEmpty then none else some b.request.builder.pullSecrets
      initContainers := steps.map b.adapt
      nodeSelector := scheduling.nodeSelector.insert "kubernetes.io/os" b.context.builder.osLabel
      priorityClass := scheduling.priorityClass
      restartPolicy := "Never"
      runtimeClass := scheduling.runtimeClass
      scheduler := scheduling.scheduler
      security := podSecurity b.context.builder
      serviceAccount :=
        if b.request.serviceAccount.isEmpty then none else some b.request.serviceAccount
      tolerations := if scheduling.tolerations.isEmpty then none else some scheduling.tolerations
      volumes := volumes }

/-- The pod that rebases the image of the build before. -/
def rebasePod (b : PlanBasis) : Except PlanError Pod :=
  match b.request.previousImage with
  | some image => .ok (b.pod [b.rebaseStep image] b.rebaseVolumes)
  | none => .error .missingLastBuild

/-- The pod that builds the image. -/
def buildPod (b : PlanBasis) : Except PlanError Pod := do
  let bindings ← ServiceBinding.attachAll b.request.services
  let epoch ← CreationTime.resolve b.context.now b.request.creationTime
  return b.pod (b.buildSteps bindings epoch) (b.buildVolumes bindings)

/-- The version that the builder is driven with. -/
def negotiate (r : BuildRequest) (ctx : PlanContext) : Except PlanError Version :=
  Negotiation.negotiate (Negotiation.supportedFor r.signed ctx.builder.isWindows)
    ctx.config.maxPlatformApi ctx.builder.platformApis

/-- What a plan for the request rests on, or why there is none. -/
def of (r : BuildRequest) (ctx : PlanContext) : Except PlanError PlanBasis := do
  if r.tags.isEmpty then throw .missingTag
  let api ← negotiate r ctx
  match ImageReference.parse r.tag with
  | .ok reference => return ⟨r, ctx, api, reference.host⟩
  | .error e => throw (.invalidReference r.tag e)

end PlanBasis

/-- The pod of a build request, or why there is none. -/
def plan (r : BuildRequest) (ctx : PlanContext) : Except PlanError Pod := do
  let basis ← PlanBasis.of r ctx
  if r.rebasable ctx.builder.stackId then basis.rebasePod else basis.buildPod

end ImageBuild
