import ImageBuild.BuildLog
import ImageBuild.Cluster.ServiceAccount
import ImageBuild.Command.Invocation
import ImageBuild.Reconcile
import ImageBuild.Timestamp
import ImageBuild.Yaml.Reader

/-!
# Running commands

A command reads documents and gives a text, or the first failure. The documents,
the cluster and the time are values, so that a run depends on nothing else.
-/
namespace ImageBuild.Command

/-- What a command may read. -/
structure Inputs where
  files : String → Option String
  /-- What has not been read from standard input. -/
  stdin : String
  /-- The cluster, if it can be reached. -/
  cluster : Option Cluster
  /-- The present time, in seconds. -/
  now : Int64

inductive Failure where
  | reading (path : String)
  | parsing (path : String)
  | noServiceAccount
  | noCluster
  | resolving (cause : ResolveError)
  | ceiling (text : String)
  | now (text : String)
  | plan (cause : PlanError)
  | change (cause : ChangeError)
  deriving DecidableEq, Repr

def Failure.message : Failure → String
  | .reading path => "reading " ++ path
  | .parsing path => "parsing " ++ path
  | .noServiceAccount => "--from-cluster needs serviceAccountName on the request"
  | .noCluster => "creating kube client"
  | .resolving cause => cause.message
  | .ceiling text => "invalid platform API ceiling '" ++ text ++ "'"
  | .now text => "invalid --now '" ++ text ++ "'"
  | .plan cause => cause.message
  | .change cause => cause.message

/-- The text of a path and the inputs after reading it. A hyphen is standard
input, which can be read once. -/
def Inputs.read (inputs : Inputs) (path : String) : Except Failure (String × Inputs) :=
  if path = "-" then .ok (inputs.stdin, { inputs with stdin := "" })
  else
    match inputs.files path with
    | some text => .ok (text, inputs)
    | none => .error (.reading path)

/-- The value of the document at a path. -/
def Inputs.load (inputs : Inputs) (path : String) (f : Document → Option α) :
    Except Failure (α × Inputs) := do
  let (text, inputs) ← inputs.read path
  match (Yaml.read text).bind f with
  | some a => .ok (a, inputs)
  | none => .error (.parsing path)

/-- An option with an empty value counts as not given. -/
def unlessEmpty (value : Option String) : Option String := value.filter fun s => !s.isEmpty

/-- The highest platform API version. -/
def readCeiling (value : Option String) : Except Failure (Option Version) :=
  match unlessEmpty value with
  | none => .ok none
  | some s =>
    match Version.parseText s with
    | .ok v => .ok (some v)
    | .error _ => .error (.ceiling s)

/-- The configuration with the images that are given. -/
def ImageArguments.config (i : ImageArguments) : Except Failure PlanConfig :=
  (readCeiling i.maxPlatformApi).map fun ceiling =>
    let d := PlanConfig.default
    { buildInitImage := (unlessEmpty i.buildInit).getD d.buildInitImage
      buildInitWindowsImage := (unlessEmpty i.buildInitWindows).getD d.buildInitWindowsImage
      completionImage := (unlessEmpty i.completion).getD d.completionImage
      completionWindowsImage := (unlessEmpty i.completionWindows).getD d.completionWindowsImage
      rebaseImage := (unlessEmpty i.rebase).getD d.rebaseImage
      maxPlatformApi := ceiling }

/-- The time of a plan. -/
def readNow (present : Int64) (value : Option String) : Except Failure Int64 :=
  match value with
  | none => .ok present
  | some s =>
    match Timestamp.parse? s with
    | some t => .ok (Int64.ofInt t.seconds)
    | none => .error (.now s)

/-- What the service account of a request adds. -/
def accountCredentials (inputs : Inputs) (fromCluster : Bool) (r : BuildRequest) :
    Except Failure AccountCredentials :=
  if !fromCluster then .ok ⟨[], []⟩
  else if r.serviceAccount.isEmpty then .error .noServiceAccount
  else
    match inputs.cluster with
    | none => .error .noCluster
    | some c => (c.resolve r.space r.serviceAccount).mapError .resolving

def runPlan (inputs : Inputs) (a : PlanArguments) : Except Failure Pod := do
  let (request, inputs) ← inputs.load a.request BuildRequest.codec.decode
  let (builder, inputs) ← inputs.load a.builder Builder.codec.decode
  let (credentials, inputs) ← match a.secrets with
    | none => pure ([], inputs)
    | some path => inputs.load path (Document.list? Credential.codec.decode)
  let account ← accountCredentials inputs a.fromCluster request
  let config ← a.images.config
  let now ← readNow inputs.now a.now
  (plan request
    { builder := builder
      credentials := credentials ++ account.secrets
      pullSecrets := a.pullSecrets ++ account.imagePullSecrets
      config := config
      now := now }).mapError .plan

def runNegotiate (apis : List String) (signing windows : Bool) (maxPlatformApi : Option String) :
    Except Failure Version := do
  let ceiling ← readCeiling maxPlatformApi
  (Negotiation.negotiate (Negotiation.supportedFor signing windows) ceiling apis).mapError .plan

def runChanges (inputs : Inputs) (old new : String) : Except Failure ChangeSummary := do
  let (before, inputs) ← inputs.load old BuildSnapshot.codec.decode
  let (after, _) ← inputs.load new BuildSnapshot.codec.decode
  (before.summarize after).mapError .change

def runDiff (inputs : Inputs) (path : String) : Except Failure String := do
  let (summary, _) ← inputs.load path ChangeSummary.codec.decode
  let records ← summary.records.mapError .change
  return BuildLog.render summary.reasons records

/-- A value in an output format. -/
def OutputFormat.render (output : OutputFormat) (v : Json) : String :=
  match output with
  | .yaml => Yaml.print v
  | .json => v.pretty ++ "\n"

/-- A version in an output format. -/
def OutputFormat.renderVersion (output : OutputFormat) (v : Version) : String :=
  match output with
  | .yaml => v.text ++ "\n"
  | .json => (Json.obj [("platformApi", .str v.text)]).compact ++ "\n"

/-- The output of a task. -/
def Task.run (inputs : Inputs) (output : OutputFormat) : Task → Except Failure String
  | .plan a => (runPlan inputs a).map fun pod => output.render pod.toJson
  | .negotiate apis signing windows ceiling =>
    (runNegotiate apis signing windows ceiling).map output.renderVersion
  | .changes old new =>
    (runChanges inputs old new).map fun s => output.render (ChangeSummary.codec.encode s)
  | .diff path => runDiff inputs path

/-- The paths that a task reads, in order. -/
def Task.paths : Task → List String
  | .plan a => [a.request, a.builder] ++ a.secrets.toList
  | .negotiate _ _ _ _ => []
  | .changes old new => [old, new]
  | .diff path => [path]

def versionText : String := "kilnctl 0.1.0\n"

/-- How a run ends. -/
inductive Outcome where
  | done (stdout : String)
  | failed (e : Failure)
  | misused (e : UsageError)
  deriving DecidableEq, Repr

def Outcome.exitCode : Outcome → UInt32
  | .done _ => 0
  | .failed _ => 1
  | .misused _ => 2

def helpText : String :=
  "Usage: kilnctl [-o yaml|json] <plan|negotiate|changes|diff> [OPTIONS]\n"

/-- The outcome of an invocation. -/
def Invocation.outcome (inputs : Inputs) : Invocation → Outcome
  | .version => .done versionText
  | .help => .done helpText
  | .run output task =>
    match task.run inputs output with
    | .ok text => .done text
    | .error e => .failed e

/-- The outcome of a list of arguments. -/
def outcome (env : Environment) (inputs : Inputs) (args : List String) : Outcome :=
  match Invocation.ofArguments env args with
  | .ok i => i.outcome inputs
  | .error e => .misused e

end ImageBuild.Command
