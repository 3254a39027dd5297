import ImageBuild.Document

/-!
# Build reasons and priorities

Why a build is wanted, and how urgent it is. The tiers of the priority are far
apart, so that other priorities fit in between.
-/
namespace ImageBuild

inductive BuildReason where
  | config
  | commit
  | buildpack
  | extension
  | stack
  | trigger
  deriving DecidableEq, Repr

namespace BuildReason

/-- All reasons, in order. -/
def all : List BuildReason := [.config, .commit, .buildpack, .extension, .stack, .trigger]

def text : BuildReason → String
  | .config => "CONFIG"
  | .commit => "COMMIT"
  | .buildpack => "BUILDPACK"
  | .extension => "EXTENSION"
  | .stack => "STACK"
  | .trigger => "TRIGGER"

/-- The reason with a text. -/
def ofText? (s : String) : Option BuildReason := all.find? (·.text == s)

theorem ofText?_text (r : BuildReason) : ofText? r.text = some r := by cases r <;> decide

/-- The place of a reason in the order. -/
def rank (r : BuildReason) : Nat := all.idxOf r

def toJson (r : BuildReason) : Json := .str r.text

/-- A reason is its text, or a variant without content. -/
def decode (d : Document) : Option BuildReason :=
  match d with
  | .object [(name, .null)] => ofText? name
  | .str s => ofText? s
  | _ => none

theorem decode_toJson (r : BuildReason) : decode r.toJson.toDocument = some r := by
  simp [toJson, Json.toDocument, decode, ofText?_text]

end BuildReason

/-- The urgency of a build. -/
structure Priority where
  level : Int32
  deriving DecidableEq, Repr

namespace Priority

def none : Priority := ⟨0⟩
def low : Priority := ⟨1⟩
def high : Priority := ⟨1000⟩

instance : Inhabited Priority := ⟨none⟩

def le (a b : Priority) : Bool := a.level.toInt ≤ b.level.toInt

/-- The more urgent of two. -/
def max (a b : Priority) : Priority := if a.le b then b else a

def toJson (p : Priority) : Json := .int p.level.toInt

def decode (d : Document) : Option Priority := d.int32?.map Priority.mk

end Priority

end ImageBuild
