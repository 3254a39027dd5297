import ImageBuild.Cluster.Env
import ImageBuild.Cluster.Volume
import ImageBuild.Decimal.Signed
import ImageBuild.ImageReference

/-!
# What the parts of a plan share

The volumes that the steps of a build share, where the steps see them, and the
names of the variables that the steps read; why there is no plan; and the creation
time of an image, which is left open, is the present time, or is given in seconds.
-/
namespace ImageBuild

namespace Layout

def workspace : VolumeMount := .of "workspace-dir" "/workspace"
def home : VolumeMount := .of "home-dir" "/builder/home"
def layers : VolumeMount := .of "layers-dir" "/layers"
/-- The layers, where the prepare step leaves metadata of the project. -/
def projectMetadata : VolumeMount := .of "layers-dir" "/projectMetadata"
def platform : VolumeMount := .of "platform-dir" "/platform"
def cache : VolumeMount := .of "cache-dir" "/cache"
def report : VolumeMount := .of "report-dir" "/var/report"
def notary : VolumeMount := .of "notary-dir" "/var/notary/v1"
def networkWait : VolumeMount := .of "network-wait-launcher-dir" "/networkWait"

/-- Where service bindings are mounted. -/
def bindingRoot : String := "/platform/bindings"

/-- Where the report of a build is written. -/
def reportFile : String := "/var/report/report.toml"

def homeName : String := "HOME"
def userProfileName : String := "USERPROFILE"

def homeEnv : EnvVar := .of homeName home.mountPath
def bindingRootEnv : EnvVar := .of "SERVICE_BINDING_ROOT" bindingRoot

end Layout

/-- Why there is no plan. -/
inductive PlanError where
  | unsupportedApi (advertised : List String)
  | invalidReference (reference : String) (cause : ReferenceError)
  | invalidCreationTime (directive : String) (cause : Decimal.NumberError)
  | unsupportedBinding (kind : String)
  | duplicateBinding (name : String)
  | missingTag
  | missingLastBuild
  deriving DecidableEq, Repr

def PlanError.message : PlanError → String
  | .unsupportedApi advertised =>
    "unsupported builder platform API versions: " ++ ",".intercalate advertised
  | .invalidReference reference cause =>
    "invalid image reference '" ++ reference ++ "': " ++ cause.message
  | .invalidCreationTime directive cause =>
    "invalid creation time '" ++ directive ++ "': " ++ cause.message
  | .unsupportedBinding kind => "unsupported binding type: " ++ kind
  | .duplicateBinding name => "duplicate service binding name: " ++ name
  | .missingTag => "build request has no tags"
  | .missingLastBuild => "rebase requires a previously built image"

namespace CreationTime

/-- The seconds of a directive at a time. -/
def resolve (now : Int64) (directive : String) : Except PlanError (Option Int64) :=
  if directive = "" then .ok none
  else if directive = "now" then .ok (some now)
  else
    match Decimal.readInt64 directive.toList with
    | .ok seconds => .ok (some seconds)
    | .error e => .error (.invalidCreationTime directive e)

end CreationTime

end ImageBuild
