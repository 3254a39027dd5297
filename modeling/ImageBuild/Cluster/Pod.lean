import ImageBuild.Cluster.Container

/-!
# Pods

The pods that builds run in. A pod is written with its fields in the order of
their names.
-/
namespace ImageBuild

open Codec

structure PodSecurity where
  user : Int64
  group : Int64
  filesGroup : Int64
  deriving DecidableEq, Repr

def PodSecurity.toJson (s : PodSecurity) : Json :=
  .obj [
    ("fsGroup", int64.encode s.filesGroup),
    ("runAsGroup", int64.encode s.group),
    ("runAsUser", int64.encode s.user)]

structure PodMetadata where
  name : String
  space : Option String
  labels : Option (StringMap String)
  deriving DecidableEq, Repr

def PodMetadata.toJson (m : PodMetadata) : Json :=
  .record [
    ("labels", m.labels.map (map text).encode),
    ("name", some (.str m.name)),
    ("namespace", m.space.map .str)]

structure PodSpec where
  deadlineSeconds : Option Int64
  affinity : Option Affinity
  containers : List Container
  pullSecrets : Option (List String)
  initContainers : List Container
  nodeSelector : StringMap String
  priorityClass : Option String
  restartPolicy : String
  runtimeClass : Option String
  scheduler : Option String
  security : Option PodSecurity
  serviceAccount : Option String
  tolerations : Option (List Toleration)
  volumes : List Volume
  deriving DecidableEq, Repr

def PodSpec.toJson (s : PodSpec) : Json :=
  .record [
    ("activeDeadlineSeconds", s.deadlineSeconds.map int64.encode),
    ("affinity", s.affinity.map Affinity.codec.encode),
    ("containers", some ((list Container.codec).encode s.containers)),
    ("imagePullSecrets", s.pullSecrets.map fun names =>
      .arr (names.map fun name => .obj [("name", .str name)])),
    ("initContainers", some ((list Container.codec).encode s.initContainers)),
    ("nodeSelector", some ((map text).encode s.nodeSelector)),
    ("priorityClassName", s.priorityClass.map .str),
    ("restartPolicy", some (.str s.restartPolicy)),
    ("runtimeClassName", s.runtimeClass.map .str),
    ("schedulerName", s.scheduler.map .str),
    ("securityContext", s.security.map PodSecurity.toJson),
    ("serviceAccountName", s.serviceAccount.map .str),
    ("tolerations", s.tolerations.map (list Toleration.codec).encode),
    ("volumes", some (.arr (s.volumes.map Volume.toJson)))]

structure Pod where
  metadata : PodMetadata
  spec : PodSpec
  deriving DecidableEq, Repr

namespace Pod

def toJson (p : Pod) : Json :=
  .obj [
    ("apiVersion", .str "v1"),
    ("kind", .str "Pod"),
    ("metadata", p.metadata.toJson),
    ("spec", p.spec.toJson)]

/-- The containers in the order in which they run. -/
def steps (p : Pod) : List Container := p.spec.initContainers ++ p.spec.containers

end Pod

end ImageBuild
