import ImageBuild.Codec

/-!
# Environment variables of a container

A variable has a value, or refers to a value that the cluster knows.
-/
namespace ImageBuild

open Codec Format

/-- A key of a config map or of a secret. -/
structure KeySelector where
  key : String
  name : Option String
  isOptional : Option Bool
  deriving DecidableEq, Repr

def KeySelector.codec : Codec KeySelector :=
  ((filled "key" "" text).and <| (optional "name" text).and <| optional "optional" bool)
    |>.as (fun (key, name, isOptional) => ⟨key, name, isOptional⟩)
      (fun s => (s.key, s.name, s.isOptional))
    |>.object

/-- A field of the pod. -/
structure FieldSelector where
  apiVersion : Option String
  fieldPath : String
  deriving DecidableEq, Repr

def FieldSelector.codec : Codec FieldSelector :=
  ((optional "apiVersion" text).and <| filled "fieldPath" "" text)
    |>.as (fun (version, path) => ⟨version, path⟩) (fun s => (s.apiVersion, s.fieldPath))
    |>.object

/-- A resource of a container. -/
structure ResourceSelector where
  containerName : Option String
  divisor : Option String
  resource : String
  deriving DecidableEq, Repr

def ResourceSelector.codec : Codec ResourceSelector :=
  ((optional "containerName" text).and <| (optional "divisor" text).and <|
    filled "resource" "" text)
    |>.as (fun (name, divisor, resource) => ⟨name, divisor, resource⟩)
      (fun s => (s.containerName, s.divisor, s.resource))
    |>.object

/-- Where the value of a variable comes from. -/
structure EnvSource where
  configMapKey : Option KeySelector
  field : Option FieldSelector
  resource : Option ResourceSelector
  secretKey : Option KeySelector
  deriving DecidableEq, Repr

def EnvSource.codec : Codec EnvSource :=
  ((optional "configMapKeyRef" KeySelector.codec).and <|
    (optional "fieldRef" FieldSelector.codec).and <|
    (optional "resourceFieldRef" ResourceSelector.codec).and <|
    optional "secretKeyRef" KeySelector.codec)
    |>.as (fun (config, field, resource, secret) => ⟨config, field, resource, secret⟩)
      (fun s => (s.configMapKey, s.field, s.resource, s.secretKey))
    |>.object

structure EnvVar where
  name : String
  value : Option String
  valueFrom : Option EnvSource
  deriving DecidableEq, Repr

namespace EnvVar

/-- A variable with a value. -/
def of (name value : String) : EnvVar := ⟨name, some value, none⟩

def codec : Codec EnvVar :=
  ((filled "name" "" text).and <| (optional "value" text).and <|
    optional "valueFrom" EnvSource.codec)
    |>.as (fun (name, value, source) => ⟨name, value, source⟩)
      (fun v => (v.name, v.value, v.valueFrom))
    |>.object

end EnvVar

end ImageBuild
