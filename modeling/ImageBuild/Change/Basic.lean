import ImageBuild.Build.Request
import ImageBuild.Change.Record
import ImageBuild.ImageReference

/-!
# Changes

A change has an old and a new value. Whether it requires a build is decided by
its values: a moved revision is a commit, and not a change of configuration,
and run images are compared by their digests.
-/
namespace ImageBuild

open Codec Format

/-- A buildpack or an extension that took part in a build. -/
structure Buildpack where
  id : String
  version : String
  deriving DecidableEq, Repr

namespace Buildpack

def codec : Codec Buildpack :=
  ((required "id" text).and <| defaulted "version" "" text)
    |>.as (fun (id, version) => ⟨id, version⟩) (fun b => (b.id, b.version))
    |>.record

/-- The order by name, then by version. -/
def le (a b : Buildpack) : Bool := a.id < b.id || (a.id == b.id && a.version ≤ b.version)

def sort (bs : List Buildpack) : List Buildpack := bs.mergeSort le

def listJson (bs : List Buildpack) : Json := (Codec.list codec).encode bs

end Buildpack

/-- What counts as the configuration of a build. -/
structure BuildConfig where
  env : List EnvVar
  resources : ResourceRequirements
  services : List ServiceBinding
  source : SourceConfig
  deriving DecidableEq, Repr

namespace BuildConfig

def codec : Codec BuildConfig :=
  ((defaulted "env" [] (list EnvVar.codec)).and <|
    (defaulted "resources" .none ResourceRequirements.codec).and <|
    (defaulted "services" [] (list ServiceBinding.codec)).and <|
    required "source" SourceConfig.codec)
    |>.as (fun (env, resources, services, source) => ⟨env, resources, services, source⟩)
      (fun c => (c.env, c.resources, c.services, c.source))
    |>.record

def withoutRevision (c : BuildConfig) : BuildConfig :=
  { c with source := c.source.withoutRevision }

end BuildConfig

inductive Change where
  | trigger (message : String)
  | commit (old new : String)
  | config (old new : BuildConfig)
  | buildpacks (reason : BuildReason) (old new : List Buildpack)
  /-- The run images. -/
  | stack (old new : String)
  deriving DecidableEq, Repr

/-- Why a run image has no digest to compare. -/
inductive RunImageError where
  | invalid (image : String) (cause : ReferenceError)
  | noDigest (image : String)
  deriving DecidableEq, Repr

def RunImageError.message : RunImageError → String
  | .invalid image cause => "parsing run image '" ++ image ++ "': " ++ cause.message
  | .noDigest image => "run image '" ++ image ++ "' has no digest"

/-- The run images that cannot be compared, one or both. -/
structure StackError where
  images : List RunImageError
  deriving DecidableEq, Repr

def StackError.message (e : StackError) : String :=
  "; ".intercalate (e.images.map RunImageError.message)

/-- The digest of a run image. -/
def runImageDigest (image : String) : Except RunImageError String :=
  match ImageReference.parse image with
  | .error e => .error (.invalid image e)
  | .ok reference =>
    match reference.digest with
    | some digest => .ok digest
    | none => .error (.noDigest image)

namespace Change

/-- A build that was asked for at a time. -/
def triggered (time : String) : Change :=
  .trigger ("A new build was manually triggered on " ++ time)

/-- A change of buildpacks, in order. -/
def ofBuildpacks (old new : List Buildpack) : Change :=
  .buildpacks .buildpack (Buildpack.sort old) (Buildpack.sort new)

/-- A change of extensions, in order. -/
def ofExtensions (old new : List Buildpack) : Change :=
  .buildpacks .extension (Buildpack.sort old) (Buildpack.sort new)

def reason : Change → BuildReason
  | .trigger _ => .trigger
  | .commit _ _ => .commit
  | .config _ _ => .config
  | .buildpacks reason _ _ => reason
  | .stack _ _ => .stack

def priority : Change → Priority
  | .trigger _ | .commit _ _ | .config _ _ => .high
  | .buildpacks _ _ _ | .stack _ _ => .low

/-- The old value, with its fields in key order. -/
def oldValue : Change → Json
  | .trigger _ => .str ""
  | .commit old _ | .stack old _ => .str old
  | .config old _ => (BuildConfig.codec.encode old).sorted
  | .buildpacks _ old _ => (Buildpack.listJson old).sorted

/-- The new value, with its fields in key order. -/
def newValue : Change → Json
  | .trigger message => .str message
  | .commit _ new | .stack _ new => .str new
  | .config _ new => (BuildConfig.codec.encode new).sorted
  | .buildpacks _ _ new => (Buildpack.listJson new).sorted

/-- Whether two run images differ. Both need a digest. -/
def stackRequired (old new : String) : Except StackError Bool :=
  match runImageDigest old, runImageDigest new with
  | .ok a, .ok b => .ok (a != b)
  | .error a, .error b => .error ⟨[a, b]⟩
  | .error a, .ok _ => .error ⟨[a]⟩
  | .ok _, .error b => .error ⟨[b]⟩

/-- Whether the change requires a build. -/
def required : Change → Except StackError Bool
  | .trigger message => .ok (!message.isEmpty)
  | .commit old new => .ok (old != new)
  | .config old new => .ok (old.withoutRevision != new.withoutRevision)
  | .buildpacks _ old new => .ok (Buildpack.sort old != Buildpack.sort new)
  | .stack old new => stackRequired old new

/-- The record of the change in a payload. -/
def record (c : Change) : ChangeRecord := ⟨c.reason, c.oldValue, c.newValue⟩

end Change

end ImageBuild
