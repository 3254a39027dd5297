import ImageBuild.Cluster.Env
import ImageBuild.Decimal.Signed

/-!
# The source of a build

A source is a git repository, an archive or an image. It is written as a field
with the name of its kind, beside the path of the part that is built.
-/
namespace ImageBuild

open Codec Format

structure GitSource where
  url : String
  revision : String
  submodules : Bool
  deriving DecidableEq, Repr

def GitSource.codec : Codec GitSource :=
  ((required "url" text).and <| (defaulted "revision" "" text).and <|
    defaulted "initializeSubmodules" false bool)
    |>.as (fun (url, revision, submodules) => ⟨url, revision, submodules⟩)
      (fun g => (g.url, g.revision, g.submodules))
    |>.record

structure BlobSource where
  url : String
  stripComponents : Int64
  auth : Bool
  deriving DecidableEq, Repr

def BlobSource.codec : Codec BlobSource :=
  ((required "url" text).and <| (defaulted "stripComponents" 0 int64).and <|
    defaulted "auth" false bool)
    |>.as (fun (url, strip, auth) => ⟨url, strip, auth⟩)
      (fun b => (b.url, b.stripComponents, b.auth))
    |>.record

structure RegistrySource where
  image : String
  pullSecrets : List String
  deriving DecidableEq, Repr

def RegistrySource.codec : Codec RegistrySource :=
  ((required "image" text).and <| omitted "imagePullSecrets" [] (list text))
    |>.as (fun (image, secrets) => ⟨image, secrets⟩) (fun r => (r.image, r.pullSecrets))
    |>.record

inductive Source where
  | git (g : GitSource)
  | blob (b : BlobSource)
  | registry (r : RegistrySource)
  deriving DecidableEq, Repr

def boolText (b : Bool) : String := if b then "true" else "false"

namespace Source

/-- The variables that tell the prepare step where the source is. -/
def env : Source → List EnvVar
  | .git g => [
      .of "GIT_URL" g.url,
      .of "GIT_REVISION" g.revision,
      .of "GIT_INITIALIZE_SUBMODULES" (boolText g.submodules)]
  | .blob b => [
      .of "BLOB_URL" b.url,
      .of "BLOB_STRIP_COMPONENTS" (toString b.stripComponents.toInt),
      .of "BLOB_AUTH" (boolText b.auth)]
  | .registry r => [.of "REGISTRY_IMAGE" r.image]

/-- The pull secrets that the source itself needs. -/
def pullSecrets : Source → List String
  | .registry r => r.pullSecrets
  | _ => []

/-- The name of the kind, and the source. -/
def toField : Source → String × Json
  | .git g => ("git", GitSource.codec.encode g)
  | .blob b => ("blob", BlobSource.codec.encode b)
  | .registry r => ("registry", RegistrySource.codec.encode r)

def kinds : List String := ["git", "blob", "registry"]

def decodeKind (kind : String) (d : Document) : Option Source :=
  match kind with
  | "git" => (GitSource.codec.decode d).map .git
  | "blob" => (BlobSource.codec.decode d).map .blob
  | "registry" => (RegistrySource.codec.decode d).map .registry
  | _ => none

end Source

/-- A source, and the path of the part that is built. -/
structure SourceConfig where
  source : Source
  subPath : Option String
  deriving DecidableEq, Repr

namespace SourceConfig

def encode (s : SourceConfig) : Json :=
  .obj (s.source.toField :: (s.subPath.map fun p => ("subPath", Json.str p)).toList)

/-- The kind of every field but the path is settled first; then the first field
with the name of a kind is the source. -/
def decode (d : Document) : Option SourceConfig := do
  let fields ← d.fields?.filter (Document.givenOnce ["subPath"])
  let subPath ← fields.optional "subPath" Document.string?
  let others ← (fields.filter fun e => e.1 != "subPath").mapM fun (e : String × Document) =>
    e.2.fixed?.map (e.1, ·)
  let (kind, content) ← others.find? fun e => Source.kinds.contains e.1
  let source ← Source.decodeKind kind content
  return ⟨source, subPath⟩

def codec : Codec SourceConfig := ⟨encode, decode⟩

/-- The revision of a git source. -/
def revision (s : SourceConfig) : Option String :=
  match s.source with
  | .git g => some g.revision
  | _ => none

/-- The source with an empty revision if it is a git source. -/
def withoutRevision (s : SourceConfig) : SourceConfig :=
  match s.source with
  | .git g => ⟨.git ⟨g.url, "", g.submodules⟩, s.subPath⟩
  | _ => s

end SourceConfig

end ImageBuild
