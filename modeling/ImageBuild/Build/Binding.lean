import ImageBuild.Codec

/-!
# Service bindings

A binding makes a secret available to a build. The older form has its metadata
in a config map and may go without a secret.
-/
namespace ImageBuild

open Codec Format

/-- A reference to an object of the cluster. -/
structure ServiceRef where
  kind : String
  name : String
  apiVersion : String
  deriving DecidableEq, Repr

def ServiceRef.codec : Codec ServiceRef :=
  ((required "kind" text).and <| (required "name" text).and <| omitted "apiVersion" "" text)
    |>.as (fun (kind, name, version) => ⟨kind, name, version⟩)
      (fun r => (r.kind, r.name, r.apiVersion))
    |>.record

/-- A config map with metadata, and the secret of the binding. -/
structure MetadataBinding where
  name : String
  metadata : String
  secret : Option String
  deriving DecidableEq, Repr

def MetadataBinding.codec : Codec MetadataBinding :=
  ((required "name" text).and <| (required "metadataRef" text).and <| optional "secretRef" text)
    |>.as (fun (name, metadata, secret) => ⟨name, metadata, secret⟩)
      (fun b => (b.name, b.metadata, b.secret))
    |>.record

inductive ServiceBinding where
  | service (r : ServiceRef)
  | cnb (b : MetadataBinding)
  deriving DecidableEq, Repr

namespace ServiceBinding

def name : ServiceBinding → String
  | .service r => r.name
  | .cnb b => b.name

def encode : ServiceBinding → Json
  | .service r => .obj [("service", ServiceRef.codec.encode r)]
  | .cnb b => .obj [("cnb", MetadataBinding.codec.encode b)]

def decode (d : Document) : Option ServiceBinding :=
  match d.variant? with
  | some ("service", content) => (ServiceRef.codec.decode content).map .service
  | some ("cnb", content) => (MetadataBinding.codec.decode content).map .cnb
  | _ => none

def codec : Codec ServiceBinding := ⟨encode, decode⟩

end ServiceBinding

end ImageBuild
