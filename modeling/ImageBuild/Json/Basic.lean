import ImageBuild.Decimal.Binary64
import ImageBuild.StringMap

/-!
# JSON values

The fields of an object are a list, so that the order in which a value is
written is part of the value. `Json.sorted` puts them in key order, the last
of two equal keys winning.
-/
namespace ImageBuild

/-- A JSON value. Integers are kept apart from other numbers. -/
inductive Json where
  | null
  | bool (b : Bool)
  | int (i : Int)
  | float (x : Decimal.Binary64)
  | str (s : String)
  | arr (items : List Json)
  | obj (fields : List (String × Json))
  deriving Repr, Inhabited, BEq

namespace Json

/-- An object of the fields that are present. -/
def record (fields : List (String × Option Json)) : Json :=
  .obj (fields.filterMap fun f => f.2.map (f.1, ·))

/-- A list of texts. -/
def texts (ss : List String) : Json := .arr (ss.map .str)

mutual

/-- The value with the fields of every object in key order. -/
def sorted : Json → Json
  | .arr items => .arr (sortedItems items)
  | .obj fields => .obj (sortEntries (sortedFields fields))
  | v => v

def sortedItems : List Json → List Json
  | [] => []
  | v :: vs => v.sorted :: sortedItems vs

def sortedFields : List (String × Json) → List (String × Json)
  | [] => []
  | (k, v) :: fs => (k, v.sorted) :: sortedFields fs

end

/-- The value of a key, the last one if it is repeated. -/
def field? (key : String) : Json → Option Json
  | .obj fields => (fields.filter (·.1 == key)).getLast?.map (·.2)
  | _ => none

end Json

end ImageBuild
