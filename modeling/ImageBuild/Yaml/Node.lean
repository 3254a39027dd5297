import ImageBuild.Yaml.Token

/-!
# From tokens to nodes

A node is a scalar, a sequence, a mapping or an alias, and may have an anchor
and a tag. A missing node is an empty plain scalar. Every reader takes tokens
from the front of a list and gives the rest.
-/
namespace ImageBuild.Yaml

/-- What may stand before a node. The tag is given in full. -/
structure Labels (α : Type) where
  anchor : Option α
  tag : Option String
  deriving DecidableEq, Repr

/-- A node with a type of anchors. -/
inductive Node (α : Type) where
  | alias (target : α)
  | scalar (labels : Labels α) (isPlain : Bool) (text : String)
  | sequence (labels : Labels α) (items : List (Node α))
  | mapping (labels : Labels α) (entries : List (Node α × Node α))
  deriving Repr

/-- Handles of tags and what they stand for. -/
abbrev TagHandles := List (String × String)

/-- The handles that need no directive. -/
def defaultHandles : TagHandles := [("!", "!"), ("!!", "tag:yaml.org,2002:")]

/-- A tag in full. -/
def expandTag (handles : TagHandles) (handle suffix : String) : Option String :=
  if handle.isEmpty then some suffix
  else (handles.find? (·.1 == handle)).map fun h => h.2 ++ suffix

namespace Node

/-- The node that is not there. -/
def missing (labels : Labels String) : Node String := .scalar labels true ""

def noLabels : Labels String := ⟨none, none⟩

/-- An anchor and a tag in either order. -/
def readLabels (handles : TagHandles) : List Token → Option (Labels String × List Token)
  | .anchor a :: .tag h s :: ts => (expandTag handles h s).map fun t => (⟨some a, some t⟩, ts)
  | .anchor a :: ts => some (⟨some a, none⟩, ts)
  | .tag h s :: .anchor a :: ts => (expandTag handles h s).map fun t => (⟨some a, some t⟩, ts)
  | .tag h s :: ts => (expandTag handles h s).map fun t => (⟨none, some t⟩, ts)
  | ts => some (noLabels, ts)

/-- Whether one of these tokens comes next. -/
def isNext (stops : List Token) (ts : List Token) : Bool := ts.head?.any stops.contains

/-- Items, and what follows them. -/
abbrev Items := List (Node String) × List Token

/-- Entries of a mapping, and what follows them. -/
abbrev Entries := List (Node String × Node String) × List Token

mutual

/-- A node. In a block it may be a block itself, and as the value of a key a
sequence in the column of the key. -/
def read (handles : TagHandles) :
    Nat → (inBlock isValue : Bool) → List Token → Option (Node String × List Token)
  | 0, _, _, _ => none
  | _ + 1, _, _, .alias name :: ts => some (.alias name, ts)
  | fuel + 1, inBlock, isValue, ts =>
    match readLabels handles ts with
    | none => none
    | some (labels, ts) =>
      match ts with
      | .scalar isPlain text :: ts => some (.scalar labels isPlain text, ts)
      | .openBracket :: ts =>
        (readBracket handles fuel true ts).map fun r => (.sequence labels r.1, r.2)
      | .openBrace :: ts => (readBrace handles fuel true ts).map fun r => (.mapping labels r.1, r.2)
      | .item :: rest =>
        if isValue then
          (readColumn handles fuel (.item :: rest)).map fun r => (.sequence labels r.1, r.2)
        else if labels = noLabels then none
        else some (missing labels, .item :: rest)
      | ts =>
        match inBlock, ts with
        | true, .blockSequence :: ts =>
          (readItems handles fuel ts).map fun r => (.sequence labels r.1, r.2)
        | true, .blockMapping :: ts =>
          (readEntries handles fuel ts).map fun r => (.mapping labels r.1, r.2)
        | _, ts => if labels = noLabels then none else some (missing labels, ts)

/-- A node that is missing where one of some tokens comes next. -/
def readUnless (handles : TagHandles) :
    Nat → (inBlock isValue : Bool) → List Token → List Token → Option (Node String × List Token)
  | 0, _, _, _, _ => none
  | fuel + 1, inBlock, isValue, stops, ts =>
    if isNext stops ts then some (missing noLabels, ts) else read handles fuel inBlock isValue ts

/-- The items of a sequence that is a block, to its end. -/
def readItems (handles : TagHandles) : Nat → List Token → Option Items
  | 0, _ => none
  | fuel + 1, .item :: ts =>
    match readUnless handles fuel true false [.item, .blockEnd] ts with
    | none => none
    | some (v, ts) => (readItems handles fuel ts).map fun r => (v :: r.1, r.2)
  | _ + 1, .blockEnd :: ts => some ([], ts)
  | _ + 1, _ => none

/-- The items of a sequence in the column of its key, which has no end mark. -/
def readColumn (handles : TagHandles) : Nat → List Token → Option Items
  | 0, _ => none
  | fuel + 1, .item :: ts =>
    match readUnless handles fuel true false [.item, .key, .value, .blockEnd] ts with
    | none => none
    | some (v, ts) => (readColumn handles fuel ts).map fun r => (v :: r.1, r.2)
  | _ + 1, ts => some ([], ts)

/-- The value after a key, if there is one. -/
def readValue (handles : TagHandles) :
    Nat → (inBlock : Bool) → List Token → List Token → Option (Node String × List Token)
  | 0, _, _, _ => none
  | fuel + 1, inBlock, stops, .value :: ts => readUnless handles fuel inBlock inBlock stops ts
  | _ + 1, _, _, ts => some (missing noLabels, ts)

/-- The entries of a mapping that is a block, to its end. -/
def readEntries (handles : TagHandles) : Nat → List Token → Option Entries
  | 0, _ => none
  | fuel + 1, .key :: ts =>
    match readUnless handles fuel true true [.key, .value, .blockEnd] ts with
    | none => none
    | some (k, ts) =>
      match readValue handles fuel true [.key, .value, .blockEnd] ts with
      | none => none
      | some (v, ts) => (readEntries handles fuel ts).map fun r => ((k, v) :: r.1, r.2)
  | _ + 1, .blockEnd :: ts => some ([], ts)
  | _ + 1, _ => none

/-- The items between square brackets. A key makes a mapping with one entry. -/
def readBracket (handles : TagHandles) : Nat → (isFirst : Bool) → List Token → Option Items
  | 0, _, _ => none
  | _ + 1, _, .closeBracket :: ts => some ([], ts)
  | fuel + 1, false, .comma :: ts => readBracket handles fuel true ts
  | _ + 1, false, _ => none
  | fuel + 1, true, .key :: ts =>
    match read handles fuel false false ts with
    | none => none
    | some (k, ts) =>
      match readValue handles fuel false [.comma, .closeBracket] ts with
      | none => none
      | some (v, ts) =>
        (readBracket handles fuel false ts).map fun r => (.mapping noLabels [(k, v)] :: r.1, r.2)
  | fuel + 1, true, ts =>
    match read handles fuel false false ts with
    | none => none
    | some (v, ts) => (readBracket handles fuel false ts).map fun r => (v :: r.1, r.2)

/-- The entries between braces. A node without a key mark is a key without a
value. -/
def readBrace (handles : TagHandles) : Nat → (isFirst : Bool) → List Token → Option Entries
  | 0, _, _ => none
  | _ + 1, _, .closeBrace :: ts => some ([], ts)
  | fuel + 1, false, .comma :: ts => readBrace handles fuel true ts
  | _ + 1, false, _ => none
  | fuel + 1, true, .key :: ts =>
    match readUnless handles fuel false false [.value, .comma, .closeBrace] ts with
    | none => none
    | some (k, ts) =>
      match readValue handles fuel false [.comma, .closeBrace] ts with
      | none => none
      | some (v, ts) => (readBrace handles fuel false ts).map fun r => ((k, v) :: r.1, r.2)
  | fuel + 1, true, ts =>
    match read handles fuel false false ts with
    | none => none
    | some (k, ts) =>
      (readBrace handles fuel false ts).map fun r => ((k, missing noLabels) :: r.1, r.2)

end

/-- The directives before a document: at most one version, and each handle at
most once. -/
def readDirectives (hasVersion : Bool) (handles : TagHandles) :
    List Token → Option (TagHandles × List Token)
  | .version major minor :: ts =>
    if hasVersion || major ≠ 1 || (minor ≠ 1 && minor ≠ 2) then none
    else readDirectives true handles ts
  | .tagHandle handle expansion :: ts =>
    if handles.any (·.1 == handle) then none
    else readDirectives hasVersion (handles ++ [(handle, expansion)]) ts
  | ts => some (handles, ts)

/-- Whether a document that has been started has no node. -/
def atDocumentEnd (ts : List Token) : Bool :=
  match ts with
  | [] => true
  | .version _ _ :: _ | .tagHandle _ _ :: _ | .documentStart :: _ | .documentEnd :: _ => true
  | _ => false

/-- How many steps reading a list of tokens may take. -/
def steps (ts : List Token) : Nat := 4 * ts.length + 4

/-- The node of a document, if there is a document. -/
def readDocument (ts : List Token) : Option (Option (Node String) × List Token) :=
  if ts = [] then some (none, [])
  else
    (readDirectives false [] ts).bind fun (handles, rest) =>
      let handles := handles ++ defaultHandles
      match rest with
      | .documentStart :: ts =>
        if atDocumentEnd ts then some (some (missing noLabels), ts)
        else (read handles (steps ts) true false ts).map fun r => (some r.1, r.2)
      | rest =>
        if rest.length = ts.length then
          (read handles (steps ts) true false ts).map fun r => (some r.1, r.2)
        else none

/-- The node of a text with at most one document. -/
def ofTokens? (ts : List Token) : Option (Option (Node String)) :=
  (readDocument ts).bind fun (node, rest) =>
    if (rest.dropWhile (· == .documentEnd)).isEmpty then some node else none

end Node

end ImageBuild.Yaml
