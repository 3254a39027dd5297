import ImageBuild.Build.Binding
import ImageBuild.Build.Credential
import ImageBuild.Plan.Basic

/-!
# Secrets that are attached to steps

An attachment is a volume, the path where a step sees it, and the arguments
that tell the step about it. Credentials, signing keys and pull secrets each
give a list of attachments. So do service bindings, each seen at its own path,
so that no name may be used twice.
-/
namespace ImageBuild

structure Attachment where
  volume : Volume
  path : String
  args : List String
  deriving DecidableEq, Repr

namespace Attachment

/-- Steps cannot write to what is attached. -/
def mount (a : Attachment) : VolumeMount := .fixed a.volume.name a.path

/-- The volumes, the mounts and the arguments of a list of attachments. -/
def volumes (as : List Attachment) : List Volume := as.map Attachment.volume

def mounts (as : List Attachment) : List VolumeMount := as.map mount

def allArgs (as : List Attachment) : List String := as.flatMap args

end Attachment

/-- Which credentials a step may have: those for registries, or those for git
as well. -/
inductive CredentialScope where
  | all
  | registryOnly
  deriving DecidableEq, Repr

namespace Credential

def gitKey : String := "kiln.dev/git"
def dockerKey : String := "kiln.dev/docker"
def cosignRepositoryKey : String := "kiln.dev/cosign.repository"
def cosignMediaTypesKey : String := "kiln.dev/cosign.docker-media-types"

/-- The argument for a credential for registries. -/
def registryArg (c : Credential) : Option String :=
  match c.kind with
  | .basicAuth =>
    (c.annotation dockerKey).map fun registry => "-basic-docker=" ++ c.name ++ "=" ++ registry
  | .dockerConfigJson => some ("-dockerconfig=" ++ c.name)
  | .dockerConfig => some ("-dockercfg=" ++ c.name)
  | _ => none

/-- The argument for a credential for git. -/
def gitArg (c : Credential) : Option String :=
  match c.kind with
  | .basicAuth => (c.annotation gitKey).map fun url => "-basic-git=" ++ c.name ++ "=" ++ url
  | .sshAuth => some ("-ssh-git=" ++ c.name ++ "=" ++ (c.annotation gitKey).getD "")
  | _ => none

/-- The argument for a credential; registries go before git. -/
def arg (scope : CredentialScope) (c : Credential) : Option String :=
  match scope with
  | .all => c.registryArg <|> c.gitArg
  | .registryOnly => c.registryArg

/-- The arguments for a signing key. -/
def signingArgs (c : Credential) : List String :=
  ((c.annotation cosignRepositoryKey).map fun v =>
      "-cosign-repositories=" ++ c.name ++ "=" ++ v).toList ++
    ((c.annotation cosignMediaTypesKey).map fun v =>
      "-cosign-docker-media-types=" ++ c.name ++ "=" ++ v).toList

def secretsPath : String := "/var/build-secrets"

/-- The attachment of the credential at a position in its list. -/
def attachment (scope : CredentialScope) (c : Credential) (position : Nat) : Option Attachment :=
  (c.arg scope).map fun arg =>
    ⟨.secret ("secret-volume-" ++ toString position) c.name, secretsPath ++ "/" ++ c.name, [arg]⟩

/-- The attachments of the credentials in scope. -/
def attachments (scope : CredentialScope) (cs : List Credential) : List Attachment :=
  cs.zipIdx.filterMap fun c => c.1.attachment scope c.2

/-- The attachment of the signing key at a position in its list. -/
def signingAttachment (c : Credential) (position : Nat) : Option Attachment :=
  if c.signingKey then
    some ⟨.secret ("secret-volume-cosign-" ++ toString position) c.name,
      secretsPath ++ "/cosign/" ++ c.name, c.signingArgs⟩
  else none

/-- The attachments of the signing keys. -/
def signingAttachments (cs : List Credential) : List Attachment :=
  cs.zipIdx.filterMap fun c => c.1.signingAttachment c.2

/-- The attachment of a pull secret at a position in its list. -/
def pullAttachment (name : String) (position : Nat) : Attachment :=
  ⟨.secret ("image-pull-secret-volume-" ++ toString position) name,
    secretsPath ++ "/imagepull/" ++ name, ["-imagepull=" ++ name]⟩

/-- The attachments of the pull secrets of the builder and of the request. -/
def pullAttachments (builder request : List String) : List Attachment :=
  (names (builder ++ request)).zipIdx.map fun n => pullAttachment n.1 n.2

end Credential

namespace ServiceBinding

/-- The attachments of one binding. Only secrets can be attached as services. -/
def attachments : ServiceBinding → Except PlanError (List Attachment)
  | .service r =>
    if r.kind = "Secret" then
      .ok [⟨.secret ("service-binding-secret-" ++ r.name) r.name,
        Layout.bindingRoot ++ "/" ++ r.name, []⟩]
    else .error (.unsupportedBinding r.kind)
  | .cnb b =>
    let metadata : Attachment :=
      ⟨⟨"binding-metadata-" ++ b.name, .configMap b.metadata⟩,
        Layout.bindingRoot ++ "/" ++ b.name ++ "/metadata", []⟩
    let secret := (b.secret.filter fun s => !s.isEmpty).map fun s => (
      ⟨.secret ("binding-secret-" ++ b.name) s,
        Layout.bindingRoot ++ "/" ++ b.name ++ "/secret", []⟩ : Attachment)
    .ok (metadata :: secret.toList)

/-- The attachments of the bindings whose names are not taken. -/
def attachUnless (taken : List String) : List ServiceBinding → Except PlanError (List Attachment)
  | [] => .ok []
  | b :: bs =>
    if taken.contains b.name then .error (.duplicateBinding b.name)
    else do
      let here ← b.attachments
      let rest ← attachUnless (b.name :: taken) bs
      return here ++ rest

/-- The attachments of all bindings. -/
def attachAll (bs : List ServiceBinding) : Except PlanError (List Attachment) := attachUnless [] bs

end ServiceBinding

end ImageBuild
