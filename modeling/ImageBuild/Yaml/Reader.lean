import ImageBuild.Document
import ImageBuild.Yaml.Lexer
import ImageBuild.Yaml.Node

/-!
# Reading YAML

A text is cut into tokens, the tokens make nodes, and the nodes a document.
There is nothing to read where one of these steps fails, and none of two
documents in one text can be read.

Anchors are numbered: an anchor gets the count of names that were in use before
it, and an alias stands for the last node of its number. A part that would
contain itself, or is nested too deeply, cannot be read.
-/
namespace ImageBuild.Yaml

/-- The number of each name in use. -/
abbrev AnchorNumbers := List (String × Nat)

namespace AnchorNumbers

/-- Give a name the next number. -/
def bind (ns : AnchorNumbers) (name : String) : AnchorNumbers :=
  (name, ns.length) :: ns.filter (·.1 != name)

/-- Number the anchor of a node. -/
def label (ns : AnchorNumbers) (l : Labels String) : Labels Nat × AnchorNumbers :=
  match l.anchor with
  | none => (⟨none, l.tag⟩, ns)
  | some name => (⟨some ns.length, l.tag⟩, ns.bind name)

end AnchorNumbers

namespace Node

mutual

/-- The node with numbers for names. An alias needs a name in use. -/
def number (ns : AnchorNumbers) : Node String → Option (Node Nat × AnchorNumbers)
  | .alias name => (ns.lookup name).map fun n => (.alias n, ns)
  | .scalar l isPlain text =>
    let (l, ns) := ns.label l
    some (.scalar l isPlain text, ns)
  | .sequence l items =>
    let (l, ns) := ns.label l
    (numberItems ns items).map fun r => (.sequence l r.1, r.2)
  | .mapping l entries =>
    let (l, ns) := ns.label l
    (numberEntries ns entries).map fun r => (.mapping l r.1, r.2)

def numberItems (ns : AnchorNumbers) : List (Node String) → Option (List (Node Nat) × AnchorNumbers)
  | [] => some ([], ns)
  | v :: vs =>
    match number ns v with
    | none => none
    | some (v, ns) => (numberItems ns vs).map fun r => (v :: r.1, r.2)

def numberEntries (ns : AnchorNumbers) :
    List (Node String × Node String) → Option (List (Node Nat × Node Nat) × AnchorNumbers)
  | [] => some ([], ns)
  | (k, v) :: es =>
    match number ns k with
    | none => none
    | some (k, ns) =>
      match number ns v with
      | none => none
      | some (v, ns) => (numberEntries ns es).map fun r => ((k, v) :: r.1, r.2)

end

/-- A node before the nodes inside it, if it has an anchor. -/
def target (l : Labels Nat) (v : Node Nat) : List (Nat × Node Nat) :=
  (l.anchor.map fun n => (n, v)).toList

mutual

/-- The nodes with anchors, in the order in which they start. -/
def targets : Node Nat → List (Nat × Node Nat)
  | .alias _ => []
  | .scalar l isPlain text => target l (.scalar l isPlain text)
  | .sequence l items => target l (.sequence l items) ++ targetsOfItems items
  | .mapping l entries => target l (.mapping l entries) ++ targetsOfEntries entries

def targetsOfItems : List (Node Nat) → List (Nat × Node Nat)
  | [] => []
  | v :: vs => v.targets ++ targetsOfItems vs

def targetsOfEntries : List (Node Nat × Node Nat) → List (Nat × Node Nat)
  | [] => []
  | (k, v) :: es => k.targets ++ v.targets ++ targetsOfEntries es

end

/-- The meaning of a full tag. A tag with an exclamation mark names a variant. -/
def tagOf (tag : String) : Tag :=
  match tag.toList with
  | '!' :: name => .variant (String.ofList name)
  | _ =>
    if tag = "tag:yaml.org,2002:null" then .null
    else if tag = "tag:yaml.org,2002:bool" then .bool
    else if tag = "tag:yaml.org,2002:int" then .int
    else if tag = "tag:yaml.org,2002:float" then .float
    else .other

/-- A document under the tag of its node. -/
def tagged (tag : Option String) (d : Document) : Document :=
  match tag with
  | none => d
  | some t => .tagged (tagOf t) d

/-- A scalar whose tag is a mark alone has no tag. -/
def scalarTag (tag : Option String) : Option String := tag.filter (· != "!")

/-- How deep a document may be nested. -/
def maxDepth : Nat := 128

/-- The document of an anchor's number. -/
def documentOf (known : List (Nat × Document)) (n : Nat) : Document :=
  ((known.filter (·.1 == n)).getLast?.map (·.2)).getD .unreadable

mutual

/-- The document of a node, with documents for the aliases. -/
def toDocument (known : List (Nat × Document)) (depth : Nat) : Node Nat → Document
  | .alias n => documentOf known n
  | .scalar l isPlain text => tagged (scalarTag l.tag) (if isPlain then .plain text else .str text)
  | .sequence l items =>
    if depth = 0 then .unreadable
    else tagged l.tag (.sequence (toDocuments known (depth - 1) items))
  | .mapping l entries =>
    if depth = 0 then .unreadable else tagged l.tag (.mapping (toEntries known (depth - 1) entries))

def toDocuments (known : List (Nat × Document)) (depth : Nat) : List (Node Nat) → List Document
  | [] => []
  | v :: vs => v.toDocument known depth :: toDocuments known depth vs

def toEntries (known : List (Nat × Document)) (depth : Nat) :
    List (Node Nat × Node Nat) → List (Document × Document)
  | [] => []
  | (k, v) :: es => (k.toDocument known depth, v.toDocument known depth) :: toEntries known depth es

end

/-- The documents of all anchors after a number of rounds. Every round settles
the anchors whose aliases the rounds before it have settled. -/
def settled (anchors : List (Nat × Node Nat)) : Nat → List (Nat × Document)
  | 0 => []
  | rounds + 1 =>
    let known := settled anchors rounds
    anchors.map fun a => (a.1, a.2.toDocument known maxDepth)

/-- The document of a node without numbers. -/
def document? (v : Node String) : Option Document :=
  (v.number []).map fun (v, _) =>
    v.toDocument (settled v.targets v.targets.length) maxDepth

end Node

/-- The document of a text. A text without a document is like an empty one. -/
def read (text : String) : Option Document :=
  (tokens? text.toList).bind fun ts =>
    (Node.ofTokens? ts).bind fun node =>
      match node with
      | none => some (.plain "")
      | some v => v.document?

end ImageBuild.Yaml
