import ImageBuild.Build.Binding
import ImageBuild.Build.Source
import ImageBuild.Cluster.Scheduling
import ImageBuild.Reason

/-!
# Build requests

All that is wanted of one build: the image to publish, its source, and the
result of the build before.
-/
namespace ImageBuild

open Codec Format

/-- The image that builds, and the secrets to pull it. -/
structure BuilderRef where
  image : String
  pullSecrets : List String
  deriving DecidableEq, Repr

def BuilderRef.codec : Codec BuilderRef :=
  ((required "image" text).and <| omitted "imagePullSecrets" [] (list text))
    |>.as (fun (image, secrets) => ⟨image, secrets⟩) (fun b => (b.image, b.pullSecrets))
    |>.record

/-- Where layers are kept between builds: on a volume or in a registry. -/
inductive CacheConfig where
  | volume (claim : String)
  | registry (tag : String)
  deriving DecidableEq, Repr

namespace CacheConfig

def volumeCodec : Codec String := (required "claimName" text).record

def registryCodec : Codec String := (required "tag" text).record

def encode : CacheConfig → Json
  | .volume claim => .obj [("volume", volumeCodec.encode claim)]
  | .registry tag => .obj [("registry", registryCodec.encode tag)]

def decode (d : Document) : Option CacheConfig :=
  match d.variant? with
  | some ("volume", content) => (volumeCodec.decode content).map .volume
  | some ("registry", content) => (registryCodec.decode content).map .registry
  | _ => none

def codec : Codec CacheConfig := ⟨encode, decode⟩

end CacheConfig

/-- What the build before left: its image, its cache image and its stack. -/
structure LastBuild where
  image : String
  cacheImage : String
  stackId : String
  deriving DecidableEq, Repr

def LastBuild.codec : Codec LastBuild :=
  ((defaulted "image" "" text).and <| (defaulted "cacheImage" "" text).and <|
    defaulted "stackId" "" text)
    |>.as (fun (image, cache, stack) => ⟨image, cache, stack⟩)
      (fun b => (b.image, b.cacheImage, b.stackId))
    |>.record

structure NotaryConfig where
  url : String
  secretName : String
  deriving DecidableEq, Repr

def NotaryConfig.codec : Codec NotaryConfig :=
  ((required "url" text).and <| required "secretName" text)
    |>.as (fun (url, secret) => ⟨url, secret⟩) (fun n => (n.url, n.secretName))
    |>.record

structure ImageSigning where
  notary : Option NotaryConfig
  annotations : StringMap String
  deriving DecidableEq, Repr

def ImageSigning.codec : Codec ImageSigning :=
  ((optional "notary" NotaryConfig.codec).and <| omitted "cosignAnnotations" ∅ (map text))
    |>.as (fun (notary, annotations) => ⟨notary, annotations⟩) (fun s => (s.notary, s.annotations))
    |>.record

/-- Where and how the pod of the build is to run. -/
structure Scheduling where
  tolerations : List Toleration
  affinity : Option Affinity
  nodeSelector : StringMap String
  runtimeClass : Option String
  scheduler : Option String
  priorityClass : Option String
  deadlineSeconds : Option Int64
  deriving DecidableEq, Repr

namespace Scheduling

def none : Scheduling := ⟨[], .none, ∅, .none, .none, .none, .none⟩

def codec : Codec Scheduling :=
  ((omitted "tolerations" [] (list Toleration.codec)).and <|
    (optional "affinity" Affinity.codec).and <|
    (omitted "nodeSelector" ∅ (map text)).and <|
    (optional "runtimeClassName" text).and <|
    (optional "schedulerName" text).and <|
    (optional "priorityClassName" text).and <|
    optional "activeDeadlineSeconds" int64)
    |>.as (fun (tolerations, affinity, nodes, runtime, scheduler, priority, deadline) =>
        ⟨tolerations, affinity, nodes, runtime, scheduler, priority, deadline⟩)
      (fun s => (s.tolerations, s.affinity, s.nodeSelector, s.runtimeClass, s.scheduler,
        s.priorityClass, s.deadlineSeconds))
    |>.record

end Scheduling

structure BuildRequest where
  name : String
  /-- The namespace, or nothing. -/
  space : String
  labels : StringMap String
  /-- The tags to publish, the primary one first. -/
  tags : List String
  builder : BuilderRef
  serviceAccount : String
  source : SourceConfig
  cache : Option CacheConfig
  lastBuild : Option LastBuild
  resources : ResourceRequirements
  signing : Option ImageSigning
  services : List ServiceBinding
  env : List EnvVar
  scheduling : Scheduling
  /-- Nothing, the word now, or a number of seconds. -/
  creationTime : String
  defaultProcess : String
  /-- The reasons of the build with commas between them. -/
  reasons : String
  /-- The payload of the changes that led to the build. -/
  changes : String
  deriving DecidableEq, Repr

namespace BuildRequest

def codec : Codec BuildRequest :=
  ((required "name" text).and <|
    (defaulted "namespace" "" text).and <|
    (omitted "labels" ∅ (map text)).and <|
    (required "tags" (list text)).and <|
    (required "builder" BuilderRef.codec).and <|
    (defaulted "serviceAccountName" "" text).and <|
    (required "source" SourceConfig.codec).and <|
    (optional "cache" CacheConfig.codec).and <|
    (optional "lastBuild" LastBuild.codec).and <|
    (defaulted "resources" .none ResourceRequirements.codec).and <|
    (optional "signing" ImageSigning.codec).and <|
    (omitted "services" [] (list ServiceBinding.codec)).and <|
    (omitted "env" [] (list EnvVar.codec)).and <|
    (defaulted "scheduling" .none Scheduling.codec).and <|
    (defaulted "creationTime" "" text).and <|
    (defaulted "defaultProcess" "" text).and <|
    (defaulted "buildReason" "" text).and <|
    defaulted "buildChanges" "" text)
    |>.as (fun (name, space, labels, tags, builder, account, source, cache, last, resources,
        signing, services, env, scheduling, time, process, reasons, changes) =>
        ⟨name, space, labels, tags, builder, account, source, cache, last, resources,
          signing, services, env, scheduling, time, process, reasons, changes⟩)
      (fun r => (r.name, r.space, r.labels, r.tags, r.builder, r.serviceAccount, r.source,
        r.cache, r.lastBuild, r.resources, r.signing, r.services, r.env, r.scheduling,
        r.creationTime, r.defaultProcess, r.reasons, r.changes))
    |>.record

/-- The primary tag. -/
def tag (r : BuildRequest) : String := r.tags.headD ""

def additionalTags (r : BuildRequest) : List String := r.tags.drop 1

/-- The claim of a volume cache, if it is not empty. -/
def volumeCache (r : BuildRequest) : Option String :=
  match r.cache with
  | some (.volume claim) => if claim.isEmpty then none else some claim
  | _ => none

/-- The tag of a registry cache, if it is not empty. -/
def registryCache (r : BuildRequest) : Option String :=
  match r.cache with
  | some (.registry tag) => if tag.isEmpty then none else some tag
  | _ => none

def signed (r : BuildRequest) : Bool := r.signing.isSome

def previousImage (r : BuildRequest) : Option String :=
  (r.lastBuild.map LastBuild.image).filter fun s => !s.isEmpty

def previousCacheImage (r : BuildRequest) : Option String :=
  (r.lastBuild.map LastBuild.cacheImage).filter fun s => !s.isEmpty

/-- Only the stack has changed, and the build before was made on the stack that
the builder has now. -/
def rebasable (r : BuildRequest) (stack : String) : Bool :=
  r.reasons == BuildReason.stack.text && r.lastBuild.any fun b => b.stackId == stack

end BuildRequest

end ImageBuild
