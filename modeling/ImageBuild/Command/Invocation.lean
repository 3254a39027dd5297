import ImageBuild.Command.Option

/-!
# Invocations

What a command line asks for. The options of a command follow its name; the
output format may stand on either side of it.
-/
namespace ImageBuild.Command

inductive OutputFormat where
  | yaml
  | json
  deriving DecidableEq, Repr

/-- The images of the steps and the highest platform API version, where the
invocation gives them. -/
structure ImageArguments where
  buildInit : Option String
  buildInitWindows : Option String
  completion : Option String
  completionWindows : Option String
  rebase : Option String
  maxPlatformApi : Option String
  deriving DecidableEq, Repr

structure PlanArguments where
  request : String
  builder : String
  secrets : Option String
  pullSecrets : List String
  /-- The credentials of the service account are used too. -/
  fromCluster : Bool
  now : Option String
  images : ImageArguments
  deriving DecidableEq, Repr

inductive Task where
  | plan (arguments : PlanArguments)
  | negotiate (apis : List String) (signing windows : Bool) (maxPlatformApi : Option String)
  | changes (old new : String)
  | diff (summary : String)
  deriving DecidableEq, Repr

inductive Invocation where
  | run (output : OutputFormat) (task : Task)
  | version
  | help
  deriving DecidableEq, Repr

/-- The variables of the environment. -/
abbrev Environment := String → Option String

def outputFormat? : String → Option OutputFormat
  | "yaml" => some .yaml
  | "json" => some .json
  | _ => none

def outputOption : OptionSpec := ⟨"output", some 'o', .single, fun s => (outputFormat? s).isSome⟩

def helpOption : OptionSpec := .flag "help" (some 'h')

def versionOption : OptionSpec := .flag "version" (some 'V')

/-- The options before the name of a command. -/
def generalOptions : List OptionSpec := [outputOption, helpOption, versionOption]

def planOptions : List OptionSpec := [
  .path "request", .path "builder", .path "secrets", .texts "pull-secret",
  .flag "from-cluster" none, .text "now", .text "build-init-image",
  .text "build-init-windows-image", .text "completion-image",
  .text "completion-windows-image", .text "rebase-image", .text "max-platform-api"]

def negotiateOptions : List OptionSpec := [
  .texts "builder-apis", .flag "signing" none, .flag "windows" none, .text "max-platform-api"]

def changesOptions : List OptionSpec := [.path "old", .path "new"]

def diffOptions : List OptionSpec := [.path "summary"]

/-- The options of a command by its name. -/
def taskOptions? : String → Option (List OptionSpec)
  | "plan" => some planOptions
  | "negotiate" => some negotiateOptions
  | "changes" => some changesOptions
  | "diff" => some diffOptions
  | _ => none

/-- The values of an option. -/
def values (given : List Given) (name : String) : List String :=
  (given.filter (·.name == name)).map Given.value

def value? (given : List Given) (name : String) : Option String := (values given name).head?

def isGiven (given : List Given) (name : String) : Bool := given.any (·.name == name)

def required (given : List Given) (name : String) : Except UsageError String :=
  match value? given name with
  | some v => .ok v
  | none => .error (.missingOption name)

/-- An option, or a variable of the environment in its place. -/
def valueOr (env : Environment) (given : List Given) (name variableName : String) : Option String :=
  (value? given name).or (env variableName)

def ceiling (env : Environment) (given : List Given) : Option String :=
  valueOr env given "max-platform-api" "KILN_MAX_PLATFORM_API"

def images (env : Environment) (given : List Given) : ImageArguments where
  buildInit := valueOr env given "build-init-image" "KILN_BUILD_INIT_IMAGE"
  buildInitWindows := valueOr env given "build-init-windows-image" "KILN_BUILD_INIT_WINDOWS_IMAGE"
  completion := valueOr env given "completion-image" "KILN_COMPLETION_IMAGE"
  completionWindows := valueOr env given "completion-windows-image" "KILN_COMPLETION_WINDOWS_IMAGE"
  rebase := valueOr env given "rebase-image" "KILN_REBASE_IMAGE"
  maxPlatformApi := ceiling env given

/-- The task of a command with its options. -/
def task (env : Environment) (name : String) (given : List Given) : Except UsageError Task :=
  match name with
  | "plan" => do
    let request ← required given "request"
    let builder ← required given "builder"
    return .plan {
      request := request
      builder := builder
      secrets := value? given "secrets"
      pullSecrets := values given "pull-secret"
      fromCluster := isGiven given "from-cluster"
      now := value? given "now"
      images := images env given }
  | "negotiate" =>
    let apis := (values given "builder-apis").flatMap (·.splitOn ",")
    .ok (.negotiate apis (isGiven given "signing") (isGiven given "windows") (ceiling env given))
  | "changes" => do return .changes (← required given "old") (← required given "new")
  | "diff" => do return .diff (← required given "summary")
  | _ => .error (.unknown name)

/-- The format that is given last, or the default. -/
def output (given : List Given) : OutputFormat :=
  ((values given "output").getLast?.bind outputFormat?).getD .yaml

/-- The invocation after the name of a command. -/
def ofCommand (env : Environment) (general : List Given) (name : String) (args : List String) :
    Except UsageError Invocation :=
  match taskOptions? name with
  | none => if name = "help" then .ok .help else .error (.unknown name)
  | some specs => do
    let specs := specs ++ [outputOption, helpOption]
    let (given, rest) ← readOptions specs ["help"] (optionSteps args) [] args
    if isGiven given "help" then .ok .help
    else
      match rest with
      | a :: _ => .error (.unknown a)
      | [] => return .run (output (general ++ given)) (← task env name given)

/-- The invocation of a list of arguments. -/
def Invocation.ofArguments (env : Environment) (args : List String) :
    Except UsageError Invocation := do
  let (given, rest) ← readOptions generalOptions ["help", "version"] (optionSteps args) [] args
  if isGiven given "version" then .ok .version
  else if isGiven given "help" then .ok .help
  else
    match rest with
    | [] => .error .missingCommand
    | name :: args => ofCommand env given name args

end ImageBuild.Command
