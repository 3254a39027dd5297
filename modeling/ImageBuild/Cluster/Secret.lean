import ImageBuild.Build.Credential

/-!
# Secrets

A secret of the cluster, and the credential that a build sees of it. Its data are
bytes in base 64: four characters stand for three bytes, and the last four may end
in padding, where the bits that are left over are zero.
-/
namespace ImageBuild

open Codec Format

/-- What the cluster keeps about an object. -/
structure ObjectMetadata where
  annotations : Option (StringMap String)
  finalizers : Option (List String)
  generateName : Option String
  generation : Option Int64
  labels : Option (StringMap String)
  name : Option String
  space : Option String
  resourceVersion : Option String
  uid : Option String
  deriving DecidableEq, Repr

namespace ObjectMetadata

/-- Nothing is known. -/
def none : ObjectMetadata :=
  ⟨.none, .none, .none, .none, .none, .none, .none, .none, .none⟩

def codec : Codec ObjectMetadata :=
  ((optional "annotations" (map text)).and <| (optional "finalizers" (list text)).and <|
    (optional "generateName" text).and <| (optional "generation" int64).and <|
    (optional "labels" (map text)).and <| (optional "name" text).and <|
    (optional "namespace" text).and <| (optional "resourceVersion" text).and <|
    optional "uid" text)
    |>.as (fun (annotations, finalizers, generate, generation, labels, name, space, version, uid) =>
        ⟨annotations, finalizers, generate, generation, labels, name, space, version, uid⟩)
      (fun m => (m.annotations, m.finalizers, m.generateName, m.generation, m.labels, m.name,
        m.space, m.resourceVersion, m.uid))
    |>.object

end ObjectMetadata

/-- Whether a field has this text if it is there at all. -/
def Fields.agrees (fs : Fields) (name value : String) : Bool :=
  fs.defaulted name value Document.string? = some value

/-- Whether the fields may be those of an object of this kind. -/
def Fields.areOf (fs : Fields) (kind : String) : Bool :=
  fs.agrees "apiVersion" "v1" && fs.agrees "kind" kind

namespace Base64

/-- The six bits of a character. -/
def sextet? (c : Char) : Option Nat :=
  if 'A' ≤ c ∧ c ≤ 'Z' then some (c.toNat - 65)
  else if 'a' ≤ c ∧ c ≤ 'z' then some (c.toNat - 71)
  else if '0' ≤ c ∧ c ≤ '9' then some (c.toNat + 4)
  else if c = '+' then some 62
  else if c = '/' then some 63
  else none

/-- The bytes of a text. -/
def decode? : List Char → Option (List UInt8)
  | [] => some []
  | [a, b, '=', '='] => do
    let n := (← sextet? a) * 64 + (← sextet? b)
    if n % 16 = 0 then some [UInt8.ofNat (n / 16)] else none
  | [a, b, c, '='] => do
    let n := ((← sextet? a) * 64 + (← sextet? b)) * 64 + (← sextet? c)
    if n % 4 = 0 then some [UInt8.ofNat (n / 1024), UInt8.ofNat (n / 4)] else none
  | a :: b :: c :: d :: rest => do
    let n := (((← sextet? a) * 64 + (← sextet? b)) * 64 + (← sextet? c)) * 64 + (← sextet? d)
    return UInt8.ofNat (n / 65536) :: UInt8.ofNat (n / 256) :: UInt8.ofNat n :: (← decode? rest)
  | _ => none

end Base64

structure Secret where
  metadata : ObjectMetadata
  type : Option String
  data : Option (StringMap (List UInt8))
  isImmutable : Option Bool
  deriving DecidableEq, Repr

namespace Secret

/-- The bytes of an entry; null stands for none. -/
def bytes? (d : Document) : Option (List UInt8) := do
  match ← d.optional? Document.string? with
  | some s => Base64.decode? s.toList
  | none => some []

def decode (d : Document) : Option Secret := do
  let fs ← d.fields?.filter fun fs => fs.areOf "Secret"
  let metadata ← fs.optional "metadata" ObjectMetadata.codec.decode
  let type ← fs.optional "type" Document.string?
  let data ← fs.optional "data" (Document.map? bytes?)
  let isImmutable ← fs.optional "immutable" Document.bool?
  let _ ← fs.optional "stringData" (Document.map? Document.string?)
  return ⟨metadata.getD .none, type, data, isImmutable⟩

/-- The type of a secret that names none. -/
def defaultType : String := "Opaque"

/-- The entry that holds the key for signing images. -/
def signingEntry : String := "cosign.key"

/-- The credential of a secret with a name. -/
def credential (s : Secret) : Option Credential :=
  (s.metadata.name.filter fun n => !n.isEmpty).map fun name => {
    name := name
    kind := .ofText (s.type.getD defaultType)
    annotations := s.metadata.annotations.getD ∅
    signingKey := (s.data.map fun m => m.contains signingEntry).getD false }

end Secret

end ImageBuild
