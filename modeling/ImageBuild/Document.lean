import ImageBuild.Json.Basic
import ImageBuild.Yaml.Plain

/-!
# Documents

A document is a tree as a decoder meets it. Its nodes are of two sorts: values
of a fixed kind, and nodes as they were written, where a plain scalar takes the
kind that is asked for and a variant is named by a tag. Each decoder gives
nothing where a node does not fit.
-/
namespace ImageBuild

/-- The tag of a written node. -/
inductive Tag where
  | variant (name : String)
  | null
  | bool
  | int
  | float
  | other
  deriving DecidableEq, Repr

inductive Document where
  | null
  | bool (b : Bool)
  | int (i : Int)
  | float
  | str (s : String)
  | array (items : List Document)
  | object (fields : List (String × Document))
  | plain (text : String)
  | sequence (items : List Document)
  | mapping (entries : List (Document × Document))
  | tagged (tag : Tag) (value : Document)
  /-- A part that has no end or lies too deep, which no decoder accepts. -/
  | unreadable
  deriving Repr, Inhabited

/-- Named parts of a document. -/
abbrev Fields := List (String × Document)

mutual

/-- A JSON value as a document. -/
def Json.toDocument : Json → Document
  | .null => .null
  | .bool b => .bool b
  | .int i => .int i
  | .float _ => .float
  | .str s => .str s
  | .arr items => .array (Json.toDocuments items)
  | .obj fields => .object (Json.toFields fields)

def Json.toDocuments : List Json → List Document
  | [] => []
  | v :: vs => v.toDocument :: Json.toDocuments vs

def Json.toFields : List (String × Json) → Fields
  | [] => []
  | (k, v) :: fs => (k, v.toDocument) :: Json.toFields fs

end

namespace Document

def string? : Document → Option String
  | .str s => some s
  | .plain text => some text
  | .tagged _ d => d.string?
  | _ => none

def bool? : Document → Option Bool
  | .bool b => some b
  | .plain text => Yaml.bool? text.toList
  | .tagged _ (.plain text) => Yaml.bool? text.toList
  | _ => none

/-- An integer within bounds. -/
def int? (low high : Int) (d : Document) : Option Int :=
  let value := match d with
    | .int i => some i
    | .plain text => Yaml.int? text.toList
    | .tagged _ (.plain text) => Yaml.int? text.toList
    | _ => none
  value.filter fun i => low ≤ i && i ≤ high

def int64? (d : Document) : Option Int64 :=
  (int? Int64.minValue.toInt Int64.maxValue.toInt d).map Int64.ofInt

def int32? (d : Document) : Option Int32 :=
  (int? Int32.minValue.toInt Int32.maxValue.toInt d).map Int32.ofInt

theorem int64?_toInt (n : Int64) : int64? (.int n.toInt) = some n := by
  have h1 := Int64.minValue_le_toInt n
  have h2 := Int64.toInt_le n
  simp only [int64?, int?, Option.filter, h1, h2, decide_true, Bool.and_self, if_true, Option.map,
    Int64.ofInt_toInt]

/-- The items of a list. -/
def items? : Document → Option (List Document)
  | .array items => some items
  | .sequence items => some items
  | .plain text => if text.isEmpty then some [] else none
  | .tagged _ d => d.items?
  | _ => none

/-- A list, each item decoded. -/
def list? (f : Document → Option α) (d : Document) : Option (List α) :=
  d.items?.bind fun items => items.mapM f

def entryNames? : List (Document × Document) → Option Fields
  | [] => some []
  | (k, v) :: es =>
    match k.string?, entryNames? es with
    | some key, some fs => some ((key, v) :: fs)
    | _, _ => none

/-- The fields of a map. -/
def fields? : Document → Option Fields
  | .object fields => some fields
  | .mapping entries => entryNames? entries
  | .plain text => if text.isEmpty then some [] else none
  | .tagged _ d => d.fields?
  | _ => none

/-- A map, each value decoded; of equal keys the last counts. -/
def map? (f : Document → Option α) (d : Document) : Option (StringMap α) :=
  d.fields?.bind fun fs => (fs.mapM fun e => (f e.2).map (e.1, ·)).map StringMap.ofList

/-- A value that may be null. -/
def optional? (f : Document → Option α) (d : Document) : Option (Option α) :=
  match d with
  | .null => some none
  | .plain text =>
    if text.isEmpty || Yaml.isNull text.toList then some none else (f d).map some
  | .tagged .null (.plain text) => if Yaml.isNull text.toList then some none else none
  | d => (f d).map some

/-- The name of a variant and its content. -/
def variant? : Document → Option (String × Document)
  | .object [(name, content)] => some (name, content)
  | .tagged (.variant name) content => some (name, content)
  | _ => none

/-- Whether none of the names is given twice. -/
def givenOnce (names : List String) (fs : Fields) : Bool :=
  names.all fun name => (fs.filter (·.1 == name)).length ≤ 1

/-- The fields of a record with these field names. Values of a fixed kind may
also list the fields in their order; no field is given twice. -/
def record? (names : List String) (d : Document) : Option Fields :=
  match d with
  | .array items => if items.length ≤ names.length then some (names.zip items) else none
  | d => d.fields?.filter (givenOnce names)

/-- The text of an integer as a plain scalar of a fixed kind, which is limited
to 64 bits. -/
def fixedInt? (i : Int) : Option Document :=
  if -9223372036854775808 ≤ i && i ≤ 18446744073709551615 then some (.int i) else none

/-- The kind of a plain scalar once and for all. -/
def fixedPlain? (text : String) : Option Document :=
  match Yaml.plain text.toList with
  | .null => some .null
  | .bool b => some (.bool b)
  | .int i => fixedInt? i
  | .float => some .float
  | .text => some (.str text)

/-- The kind of a scalar with a tag. -/
def fixedTagged? (tag : Tag) (text : String) : Option Document :=
  match tag with
  | .variant _ => none
  | .null => if Yaml.isNull text.toList then some .null else none
  | .bool => (Yaml.bool? text.toList).map .bool
  | .int => (Yaml.int? text.toList).bind fixedInt?
  | .float =>
    if Yaml.isSpecialFloat text.toList || Yaml.isFiniteDecimal text.toList then some .float
    else none
  | .other => some (.str text)

mutual

/-- The document with every written node given a fixed kind. -/
def fixed? : Document → Option Document
  | .plain text => fixedPlain? text
  | .tagged tag (.plain text) => fixedTagged? tag text
  | .tagged tag (.str text) => fixedTagged? tag text
  | .tagged (.variant _) _ => none
  | .unreadable => none
  | .tagged _ d => d.fixed?
  | .sequence items => (fixedItems? items).map .array
  | .mapping entries => (fixedEntries? entries).map fun es =>
    match entryNames? es with
    | some fs => .object fs
    | none => .mapping es
  | d => some d

def fixedItems? : List Document → Option (List Document)
  | [] => some []
  | d :: ds =>
    match d.fixed?, fixedItems? ds with
    | some v, some vs => some (v :: vs)
    | _, _ => none

def fixedEntries? : List (Document × Document) → Option (List (Document × Document))
  | [] => some []
  | (k, v) :: es =>
    match k.fixed?, v.fixed?, fixedEntries? es with
    | some key, some value, some rest => some ((key, value) :: rest)
    | _, _, _ => none

end

end Document

namespace Fields

/-- The field of a name. -/
def get? (fs : Fields) (name : String) : Option Document :=
  (fs.find? (·.1 == name)).map (·.2)

/-- A field that has to be there. -/
def required (fs : Fields) (name : String) (f : Document → Option α) : Option α :=
  (fs.get? name).bind f

/-- A field with a default. -/
def defaulted (fs : Fields) (name : String) (default : α) (f : Document → Option α) : Option α :=
  match fs.get? name with
  | none => some default
  | some d => f d

/-- A field that may be absent or null. If it is repeated, all of it has to fit
and the last one counts. -/
def optional (fs : Fields) (name : String) (f : Document → Option α) : Option (Option α) :=
  let given := fs.filter fun e => e.1 == name
  (given.mapM fun (e : String × Document) => e.2.optional? f).map fun vs => vs.getLast?.join

end Fields

end ImageBuild
