import ImageBuild.Codec

/-!
# Credentials

What a build has to know of a secret: its name, its type, its annotations, and
whether it holds a signing key.
-/
namespace ImageBuild

open Codec Format

/-- The type of a secret. -/
inductive SecretKind where
  | basicAuth
  | sshAuth
  | dockerConfigJson
  | dockerConfig
  | other (type : String)
  deriving DecidableEq, Repr

namespace SecretKind

/-- The types that have a meaning of their own. -/
def known : List SecretKind := [.basicAuth, .sshAuth, .dockerConfigJson, .dockerConfig]

def text : SecretKind → String
  | .basicAuth => "kubernetes.io/basic-auth"
  | .sshAuth => "kubernetes.io/ssh-auth"
  | .dockerConfigJson => "kubernetes.io/dockerconfigjson"
  | .dockerConfig => "kubernetes.io/dockercfg"
  | .other type => type

def ofText (s : String) : SecretKind := (known.find? (·.text == s)).getD (.other s)

end SecretKind

structure Credential where
  name : String
  kind : SecretKind
  annotations : StringMap String
  signingKey : Bool
  deriving DecidableEq, Repr

namespace Credential

def codec : Codec Credential :=
  ((required "name" text).and <|
    (required "type" (text.as SecretKind.ofText SecretKind.text)).and <|
    (omitted "annotations" ∅ (map text)).and <| defaulted "signingKey" false bool)
    |>.as (fun (name, kind, annotations, key) => ⟨name, kind, annotations, key⟩)
      (fun c => (c.name, c.kind, c.annotations, c.signingKey))
    |>.record

/-- The credential with one more annotation. -/
def annotate (c : Credential) (key value : String) : Credential :=
  ⟨c.name, c.kind, c.annotations.insert key value, c.signingKey⟩

/-- The value of an annotation, if it is not empty. -/
def annotation (c : Credential) (key : String) : Option String :=
  (c.annotations.get? key).filter fun v => !v.isEmpty

end Credential

/-- The names of secrets that are not empty, first occurrences only. -/
def names (as : List String) : List String := (as.filter fun s => !s.isEmpty).eraseDups

end ImageBuild
