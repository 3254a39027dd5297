import ImageBuild.Document

/-!
# Codecs and record formats

A codec writes the values of a type as JSON and reads them from documents. A
format does so for some fields of a record; formats of other fields are put
together with `Format.and`, and a format of all fields makes a codec.
-/
namespace ImageBuild

/-- How the values of a type are written and read. -/
structure Codec (α : Type) where
  encode : α → Json
  decode : Document → Option α

namespace Codec

/-- What is written is read as the same value. -/
def Lawful (c : Codec α) : Prop := ∀ a, c.decode (c.encode a).toDocument = some a

def text : Codec String := ⟨.str, Document.string?⟩

def bool : Codec Bool := ⟨.bool, Document.bool?⟩

def int64 : Codec Int64 := ⟨fun n => .int n.toInt, Document.int64?⟩

def int32 : Codec Int32 := ⟨fun n => .int n.toInt, Document.int32?⟩

theorem text_lawful : text.Lawful := fun _ => rfl

theorem bool_lawful : bool.Lawful := fun _ => rfl

theorem int64_lawful : int64.Lawful := fun n => Document.int64?_toInt n

/-- A list of values. -/
def list (c : Codec α) : Codec (List α) :=
  ⟨fun xs => .arr (xs.map c.encode), Document.list? c.decode⟩

/-- A map from texts to values. -/
def map (c : Codec α) : Codec (StringMap α) :=
  ⟨fun m => .obj (m.toList.map fun e => (e.1, c.encode e.2)), Document.map? c.decode⟩

/-- The codec of another type with as many values. -/
def as (c : Codec α) (make : α → β) (part : β → α) : Codec β :=
  ⟨fun b => c.encode (part b), fun d => (c.decode d).map make⟩

end Codec

/-- How some of the fields of a record are written and read. -/
structure Format (α : Type) where
  names : List String
  write : α → List (String × Json)
  read : Fields → Option α

namespace Format

/-- A field that has to be there. -/
def required (name : String) (c : Codec α) : Format α where
  names := [name]
  write a := [(name, c.encode a)]
  read fs := fs.required name c.decode

/-- A field that is always written and has a default. -/
def defaulted (name : String) (value : α) (c : Codec α) : Format α where
  names := [name]
  write a := [(name, c.encode a)]
  read fs := fs.defaulted name value c.decode

/-- A field that is written unless it has its default. -/
def omitted [DecidableEq α] (name : String) (value : α) (c : Codec α) : Format α where
  names := [name]
  write a := if a = value then [] else [(name, c.encode a)]
  read fs := fs.defaulted name value c.decode

/-- A field that may be absent or null. -/
def optional (name : String) (c : Codec α) : Format (Option α) where
  names := [name]
  write a := (a.map fun v => (name, c.encode v)).toList
  read fs := fs.optional name c.decode

/-- A field that is always written; absent or null it has its default. -/
def filled (name : String) (value : α) (c : Codec α) : Format α where
  names := [name]
  write a := [(name, c.encode a)]
  read fs := (fs.optional name c.decode).map fun a => a.getD value

/-- The fields of two formats. -/
def and (f : Format α) (g : Format β) : Format (α × β) where
  names := f.names ++ g.names
  write p := f.write p.1 ++ g.write p.2
  read fs := (f.read fs).bind fun a => (g.read fs).map fun b => (a, b)

/-- The format of another type with the same parts. -/
def as (f : Format α) (make : α → β) (part : β → α) : Format β where
  names := f.names
  write b := f.write (part b)
  read fs := (f.read fs).map make

/-- A record: an object with each field given once at most, or the list of its
fields. -/
def record (f : Format α) : Codec α where
  encode a := .obj (f.write a)
  decode d := (d.record? f.names).bind f.read

/-- An object, in which the last of a repeated field counts. -/
def object (f : Format α) : Codec α where
  encode a := .obj (f.write a)
  decode d := d.fields?.bind f.read

end Format

end ImageBuild
