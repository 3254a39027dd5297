import ImageBuild.Codec

/-!
# Where a pod may run

Resources that a container asks for, taints that a pod tolerates, and nodes and
pods that it wants to be near to or far from.
-/
namespace ImageBuild

open Codec Format

/-- The name of a claim on a resource. -/
structure ResourceClaim where
  name : String
  deriving DecidableEq, Repr

def ResourceClaim.codec : Codec ResourceClaim :=
  (filled "name" "" text).as (fun name => ⟨name⟩) (fun c => c.name) |>.object

/-- Quantities are texts, which are kept as they are. -/
structure ResourceRequirements where
  claims : Option (List ResourceClaim)
  limits : Option (StringMap String)
  requests : Option (StringMap String)
  deriving DecidableEq, Repr

namespace ResourceRequirements

def none : ResourceRequirements := ⟨.none, .none, .none⟩

def codec : Codec ResourceRequirements :=
  ((optional "claims" (list ResourceClaim.codec)).and <|
    (optional "limits" (map text)).and <| optional "requests" (map text))
    |>.as (fun (claims, limits, requests) => ⟨claims, limits, requests⟩)
      (fun r => (r.claims, r.limits, r.requests))
    |>.object

end ResourceRequirements

structure Toleration where
  effect : Option String
  key : Option String
  operator : Option String
  seconds : Option Int64
  value : Option String
  deriving DecidableEq, Repr

def Toleration.codec : Codec Toleration :=
  ((optional "effect" text).and <| (optional "key" text).and <| (optional "operator" text).and <|
    (optional "tolerationSeconds" int64).and <| optional "value" text)
    |>.as (fun (effect, key, operator, seconds, value) => ⟨effect, key, operator, seconds, value⟩)
      (fun t => (t.effect, t.key, t.operator, t.seconds, t.value))
    |>.object

/-- A condition on the labels of a node, a pod or a namespace. -/
structure LabelExpression where
  key : String
  operator : String
  values : Option (List String)
  deriving DecidableEq, Repr

def LabelExpression.codec : Codec LabelExpression :=
  ((filled "key" "" text).and <| (filled "operator" "" text).and <| optional "values" (list text))
    |>.as (fun (key, operator, values) => ⟨key, operator, values⟩)
      (fun e => (e.key, e.operator, e.values))
    |>.object

structure NodeTerm where
  expressions : Option (List LabelExpression)
  fields : Option (List LabelExpression)
  deriving DecidableEq, Repr

namespace NodeTerm

def any : NodeTerm := ⟨none, none⟩

def codec : Codec NodeTerm :=
  ((optional "matchExpressions" (list LabelExpression.codec)).and <|
    optional "matchFields" (list LabelExpression.codec))
    |>.as (fun (expressions, fields) => ⟨expressions, fields⟩) (fun t => (t.expressions, t.fields))
    |>.object

end NodeTerm

structure NodeSelector where
  terms : List NodeTerm
  deriving DecidableEq, Repr

def NodeSelector.codec : Codec NodeSelector :=
  (filled "nodeSelectorTerms" [] (list NodeTerm.codec)).as (fun terms => ⟨terms⟩) (fun s => s.terms)
    |>.object

structure PreferredNodeTerm where
  preference : NodeTerm
  weight : Int32
  deriving DecidableEq, Repr

def PreferredNodeTerm.codec : Codec PreferredNodeTerm :=
  ((filled "preference" NodeTerm.any NodeTerm.codec).and <| filled "weight" 0 int32)
    |>.as (fun (preference, weight) => ⟨preference, weight⟩) (fun t => (t.preference, t.weight))
    |>.object

structure NodeAffinity where
  preferred : Option (List PreferredNodeTerm)
  required : Option NodeSelector
  deriving DecidableEq, Repr

def NodeAffinity.codec : Codec NodeAffinity :=
  ((optional "preferredDuringSchedulingIgnoredDuringExecution"
    (list PreferredNodeTerm.codec)).and <|
    optional "requiredDuringSchedulingIgnoredDuringExecution" NodeSelector.codec)
    |>.as (fun (preferred, required) => ⟨preferred, required⟩) (fun a => (a.preferred, a.required))
    |>.object

structure LabelSelector where
  expressions : Option (List LabelExpression)
  labels : Option (StringMap String)
  deriving DecidableEq, Repr

def LabelSelector.codec : Codec LabelSelector :=
  ((optional "matchExpressions" (list LabelExpression.codec)).and <|
    optional "matchLabels" (map text))
    |>.as (fun (expressions, labels) => ⟨expressions, labels⟩) (fun s => (s.expressions, s.labels))
    |>.object

structure PodTerm where
  labels : Option LabelSelector
  matchKeys : Option (List String)
  mismatchKeys : Option (List String)
  namespaceLabels : Option LabelSelector
  namespaces : Option (List String)
  topologyKey : String
  deriving DecidableEq, Repr

namespace PodTerm

def any : PodTerm := ⟨none, none, none, none, none, ""⟩

def codec : Codec PodTerm :=
  ((optional "labelSelector" LabelSelector.codec).and <|
    (optional "matchLabelKeys" (list text)).and <|
    (optional "mismatchLabelKeys" (list text)).and <|
    (optional "namespaceSelector" LabelSelector.codec).and <|
    (optional "namespaces" (list text)).and <|
    filled "topologyKey" "" text)
    |>.as (fun (labels, keys, others, spaceLabels, spaces, topology) =>
        ⟨labels, keys, others, spaceLabels, spaces, topology⟩)
      (fun t =>
        (t.labels, t.matchKeys, t.mismatchKeys, t.namespaceLabels, t.namespaces, t.topologyKey))
    |>.object

end PodTerm

structure PreferredPodTerm where
  term : PodTerm
  weight : Int32
  deriving DecidableEq, Repr

def PreferredPodTerm.codec : Codec PreferredPodTerm :=
  ((filled "podAffinityTerm" PodTerm.any PodTerm.codec).and <| filled "weight" 0 int32)
    |>.as (fun (term, weight) => ⟨term, weight⟩) (fun t => (t.term, t.weight))
    |>.object

structure PodAffinity where
  preferred : Option (List PreferredPodTerm)
  required : Option (List PodTerm)
  deriving DecidableEq, Repr

def PodAffinity.codec : Codec PodAffinity :=
  ((optional "preferredDuringSchedulingIgnoredDuringExecution" (list PreferredPodTerm.codec)).and <|
    optional "requiredDuringSchedulingIgnoredDuringExecution" (list PodTerm.codec))
    |>.as (fun (preferred, required) => ⟨preferred, required⟩) (fun a => (a.preferred, a.required))
    |>.object

structure Affinity where
  nodes : Option NodeAffinity
  pods : Option PodAffinity
  otherPods : Option PodAffinity
  deriving DecidableEq, Repr

def Affinity.codec : Codec Affinity :=
  ((optional "nodeAffinity" NodeAffinity.codec).and <|
    (optional "podAffinity" PodAffinity.codec).and <|
    optional "podAntiAffinity" PodAffinity.codec)
    |>.as (fun (nodes, pods, others) => ⟨nodes, pods, others⟩)
      (fun a => (a.nodes, a.pods, a.otherPods))
    |>.object

end ImageBuild
