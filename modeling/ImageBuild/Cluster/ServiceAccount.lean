import ImageBuild.Cluster.Secret

/-!
# Service accounts

A build may use the secrets of its service account. Resolving an account reads
the account and its secrets from the cluster; a secret that is gone is left out.
-/
namespace ImageBuild

open Codec Format

/-- A reference to an object of the cluster. -/
structure ObjectReference where
  apiVersion : Option String
  fieldPath : Option String
  kind : Option String
  name : Option String
  space : Option String
  resourceVersion : Option String
  uid : Option String
  deriving DecidableEq, Repr

def ObjectReference.codec : Codec ObjectReference :=
  ((optional "apiVersion" text).and <| (optional "fieldPath" text).and <|
    (optional "kind" text).and <| (optional "name" text).and <|
    (optional "namespace" text).and <| (optional "resourceVersion" text).and <|
    optional "uid" text)
    |>.as (fun (api, path, kind, name, space, version, uid) =>
        ⟨api, path, kind, name, space, version, uid⟩)
      (fun r => (r.apiVersion, r.fieldPath, r.kind, r.name, r.space, r.resourceVersion, r.uid))
    |>.object

/-- A reference to an object by its name. -/
structure NameReference where
  name : Option String
  deriving DecidableEq, Repr

def NameReference.codec : Codec NameReference :=
  ((optional "name" text).as NameReference.mk NameReference.name).object

structure ServiceAccount where
  metadata : ObjectMetadata
  automountToken : Option Bool
  secrets : List ObjectReference
  imagePullSecrets : List NameReference
  deriving DecidableEq, Repr

namespace ServiceAccount

def decode (d : Document) : Option ServiceAccount := do
  let fs ← d.fields?.filter fun fs => fs.areOf "ServiceAccount"
  let metadata ← fs.optional "metadata" ObjectMetadata.codec.decode
  let automount ← fs.optional "automountServiceAccountToken" Document.bool?
  let secrets ← fs.optional "secrets" (list ObjectReference.codec).decode
  let pulls ← fs.optional "imagePullSecrets" (list NameReference.codec).decode
  return ⟨metadata.getD .none, automount, secrets.getD [], pulls.getD []⟩

/-- The names of the secrets. -/
def secretNames (a : ServiceAccount) : List String :=
  names (a.secrets.filterMap ObjectReference.name)

/-- The names of the pull secrets. -/
def pullSecretNames (a : ServiceAccount) : List String :=
  names (a.imagePullSecrets.filterMap NameReference.name)

end ServiceAccount

/-- What reading one object from the cluster gives. -/
inductive ReadResult (α : Type) where
  | found (object : α)
  | missing
  | failed
  deriving DecidableEq, Repr

/-- The objects of a cluster by namespace and name. -/
structure Cluster where
  account : String → String → ReadResult ServiceAccount
  secret : String → String → ReadResult Secret

inductive ResolveError where
  | account (space name : String)
  | secret (space name : String)
  deriving DecidableEq, Repr

def ResolveError.message : ResolveError → String
  | .account space name => "getting service account " ++ space ++ "/" ++ name
  | .secret space name => "getting secret " ++ space ++ "/" ++ name

/-- What a build may use of a service account. -/
structure AccountCredentials where
  secrets : List Credential
  imagePullSecrets : List String
  deriving DecidableEq, Repr

namespace Cluster

/-- A secret that is gone gives nothing, and so does one without a name. -/
def credential? (c : Cluster) (space name : String) : Except ResolveError (Option Credential) :=
  match c.secret space name with
  | .found s => .ok s.credential
  | .missing => .ok none
  | .failed => .error (.secret space name)

/-- The credentials of the secrets with these names. The first failure counts. -/
def credentials (c : Cluster) (space : String) : List String → Except ResolveError (List Credential)
  | [] => .ok []
  | name :: rest =>
    match c.credential? space name with
    | .error e => .error e
    | .ok found =>
      match c.credentials space rest with
      | .error e => .error e
      | .ok more => .ok (found.toList ++ more)

/-- The credentials of a service account, which has to be there. -/
def resolve (c : Cluster) (space name : String) : Except ResolveError AccountCredentials :=
  match c.account space name with
  | .found account =>
    match c.credentials space account.secretNames with
    | .ok credentials => .ok ⟨credentials, account.pullSecretNames⟩
    | .error e => .error e
  | _ => .error (.account space name)

end Cluster

end ImageBuild
