import ImageBuild.Codec

/-!
# Security settings of a container
-/
namespace ImageBuild

open Codec Format

structure Capabilities where
  add : Option (List String)
  drop : Option (List String)
  deriving DecidableEq, Repr

def Capabilities.codec : Codec Capabilities :=
  ((optional "add" (list text)).and <| optional "drop" (list text))
    |>.as (fun (add, drop) => ⟨add, drop⟩) (fun c => (c.add, c.drop))
    |>.object

structure SecurityLabels where
  level : Option String
  role : Option String
  type : Option String
  user : Option String
  deriving DecidableEq, Repr

def SecurityLabels.codec : Codec SecurityLabels :=
  ((optional "level" text).and <| (optional "role" text).and <| (optional "type" text).and <|
    optional "user" text)
    |>.as (fun (level, role, type, user) => ⟨level, role, type, user⟩)
      (fun l => (l.level, l.role, l.type, l.user))
    |>.object

structure SeccompProfile where
  localhostProfile : Option String
  type : String
  deriving DecidableEq, Repr

def SeccompProfile.codec : Codec SeccompProfile :=
  ((optional "localhostProfile" text).and <| filled "type" "" text)
    |>.as (fun (profile, type) => ⟨profile, type⟩) (fun p => (p.localhostProfile, p.type))
    |>.object

structure WindowsOptions where
  credentialSpec : Option String
  credentialSpecName : Option String
  hostProcess : Option Bool
  userName : Option String
  deriving DecidableEq, Repr

def WindowsOptions.codec : Codec WindowsOptions :=
  ((optional "gmsaCredentialSpec" text).and <| (optional "gmsaCredentialSpecName" text).and <|
    (optional "hostProcess" bool).and <| optional "runAsUserName" text)
    |>.as (fun (spec, name, process, user) => ⟨spec, name, process, user⟩)
      (fun o => (o.credentialSpec, o.credentialSpecName, o.hostProcess, o.userName))
    |>.object

structure SecurityContext where
  allowPrivilegeEscalation : Option Bool
  capabilities : Option Capabilities
  privileged : Option Bool
  procMount : Option String
  readOnlyRoot : Option Bool
  runAsGroup : Option Int64
  runAsNonRoot : Option Bool
  runAsUser : Option Int64
  labels : Option SecurityLabels
  seccompProfile : Option SeccompProfile
  windowsOptions : Option WindowsOptions
  deriving DecidableEq, Repr

namespace SecurityContext

def codec : Codec SecurityContext :=
  ((optional "allowPrivilegeEscalation" bool).and <|
    (optional "capabilities" Capabilities.codec).and <|
    (optional "privileged" bool).and <|
    (optional "procMount" text).and <|
    (optional "readOnlyRootFilesystem" bool).and <|
    (optional "runAsGroup" int64).and <|
    (optional "runAsNonRoot" bool).and <|
    (optional "runAsUser" int64).and <|
    (optional "seLinuxOptions" SecurityLabels.codec).and <|
    (optional "seccompProfile" SeccompProfile.codec).and <|
    optional "windowsOptions" WindowsOptions.codec)
    |>.as (fun (escalation, capabilities, privileged, proc, readOnly, group, nonRoot, user, labels,
        seccomp, windows) =>
        ⟨escalation, capabilities, privileged, proc, readOnly, group, nonRoot, user, labels,
          seccomp, windows⟩)
      (fun c => (c.allowPrivilegeEscalation, c.capabilities, c.privileged, c.procMount,
        c.readOnlyRoot, c.runAsGroup, c.runAsNonRoot, c.runAsUser, c.labels, c.seccompProfile,
        c.windowsOptions))
    |>.object

/-- Neither a privileged user nor a way to become one. -/
def restricted : SecurityContext where
  allowPrivilegeEscalation := some false
  capabilities := some ⟨none, some ["ALL"]⟩
  privileged := some false
  procMount := none
  readOnlyRoot := none
  runAsGroup := none
  runAsNonRoot := some true
  runAsUser := none
  labels := none
  seccompProfile := some ⟨none, "RuntimeDefault"⟩
  windowsOptions := none

end SecurityContext

end ImageBuild
