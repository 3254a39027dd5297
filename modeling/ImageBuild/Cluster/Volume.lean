import ImageBuild.Codec

/-!
# Volumes and their mounts
-/
namespace ImageBuild

open Codec Format

/-- What a volume of a pod holds. -/
inductive VolumeSource where
  | emptyDir
  | secret (name : String)
  | configMap (name : String)
  | claim (name : String)
  deriving DecidableEq, Repr

namespace VolumeSource

/-- The name of the kind, and the source. -/
def toField : VolumeSource → String × Json
  | .emptyDir => ("emptyDir", .obj [])
  | .secret name => ("secret", .obj [("secretName", .str name)])
  | .configMap name => ("configMap", .obj [("name", .str name)])
  | .claim name => ("persistentVolumeClaim", .obj [("claimName", .str name)])

/-- Secrets and config maps hold what others must not change. -/
def isSensitive : VolumeSource → Bool
  | .secret _ | .configMap _ => true
  | _ => false

end VolumeSource

structure Volume where
  name : String
  source : VolumeSource
  deriving DecidableEq, Repr

namespace Volume

def emptyDir (name : String) : Volume := ⟨name, .emptyDir⟩

def secret (name secretName : String) : Volume := ⟨name, .secret secretName⟩

def toJson (v : Volume) : Json := .obj (sortEntries [("name", .str v.name), v.source.toField])

end Volume

/-- Where a container sees a volume. -/
structure VolumeMount where
  mountPath : String
  propagation : Option String
  name : String
  readOnly : Option Bool
  subPath : Option String
  subPathExpr : Option String
  deriving DecidableEq, Repr

namespace VolumeMount

def of (name path : String) : VolumeMount := ⟨path, none, name, none, none, none⟩

/-- A mount that the container cannot write to. -/
def fixed (name path : String) : VolumeMount := ⟨path, none, name, some true, none, none⟩

def codec : Codec VolumeMount :=
  ((filled "mountPath" "" text).and <| (optional "mountPropagation" text).and <|
    (filled "name" "" text).and <| (optional "readOnly" bool).and <|
    (optional "subPath" text).and <| optional "subPathExpr" text)
    |>.as (fun (path, propagation, name, readOnly, subPath, subPathExpr) =>
        ⟨path, propagation, name, readOnly, subPath, subPathExpr⟩)
      (fun m => (m.mountPath, m.propagation, m.name, m.readOnly, m.subPath, m.subPathExpr))
    |>.object

end VolumeMount

end ImageBuild
