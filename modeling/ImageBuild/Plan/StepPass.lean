import ImageBuild.Cluster.Container
import ImageBuild.Plan.Basic

/-!
# Passes over build steps

On Windows each step waits for the network before it runs, and has the home
directory in another variable. Each difference is a pass over the container.
-/
namespace ImageBuild

inductive StepPass where
  /-- The step sees the launcher. -/
  | launcherVolume
  /-- The launcher runs the step once the host can be found. -/
  | launcher (host : String)
  /-- The home directory is in the variable of Windows. -/
  | userProfile
  deriving DecidableEq, Repr

namespace StepPass

def name : StepPass → String
  | .launcherVolume => "network-wait-volume"
  | .launcher _ => "network-wait-launcher"
  | .userProfile => "userprofile-home"

def launcherCommand : String := "/networkWait/network-wait-launcher"

/-- What the launcher runs follows this argument. -/
def separator : String := "--"

/-- The variable of Windows for the home directory; other variables stay. -/
def renameHome (v : EnvVar) : EnvVar :=
  if v.name = Layout.homeName then ⟨Layout.userProfileName, v.value, v.valueFrom⟩ else v

def apply (c : Container) : StepPass → Container
  | .launcherVolume => { c with mounts := some (c.mounts.getD [] ++ [Layout.networkWait]) }
  | .launcher host =>
    { c with
      command := some [launcherCommand]
      args := some (host :: separator :: (c.command.getD [] ++ c.args.getD [])) }
  | .userProfile => { c with env := c.env.map fun vs => vs.map renameHome }

/-- The passes on an operating system. -/
def forOs (windows : Bool) (host : String) : List StepPass :=
  if windows then [.launcherVolume, .launcher host, .userProfile] else []

/-- All passes, one after the other. -/
def applyAll (passes : List StepPass) (c : Container) : Container := passes.foldl apply c

theorem applyAll_linux (host : String) (c : Container) : applyAll (forOs false host) c = c := rfl

end StepPass

end ImageBuild
