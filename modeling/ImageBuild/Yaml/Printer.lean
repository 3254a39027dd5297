import ImageBuild.Json.Printer
import ImageBuild.Yaml.Scalar

/-!
# JSON values as YAML text

`Yaml.print` writes a value in block style, two columns a level. The items of a
list that is a field stand in the column of the field's name.
-/
namespace ImageBuild.Yaml

/-- Numbers use an exponent from `1e16` up and from `1e-6` down. -/
def numberLayout : Decimal.Layout := ⟨16, -5, false⟩

/-- A value on one line, or a text as a scalar; both with the end of the line. -/
def leaf (indent : Nat) : Json → List Char
  | .str s => scalarLine indent s.toList
  | .float x => x.render numberLayout ++ ['\n']
  | v => v.scalar ++ ['\n']

/-- A name that fits on one line of at most 128 bytes is followed by its value;
any other has a line of its own. -/
def isSimpleKey (key : String) : Bool :=
  !key.toList.any isBreak && key.utf8ByteSize ≤ 128

mutual

/-- A value whose first line already has its margin. -/
def node (indent : Nat) : Json → List Char
  | .arr items => if items.isEmpty then ['[', ']', '\n'] else (itemLines indent items).drop indent
  | .obj fields =>
    if fields.isEmpty then ['\x7b', '\x7d', '\n'] else (fieldLines indent fields).drop indent
  | v => leaf indent v

/-- The items of a list, each after a hyphen. -/
def itemLines (indent : Nat) : List Json → List Char
  | [] => []
  | v :: vs => margin indent ++ '-' :: ' ' :: (node (indent + 2) v ++ itemLines indent vs)

/-- The value of a field after the colon. -/
def fieldValue (indent : Nat) : Json → List Char
  | .arr items => if items.isEmpty then [' ', '[', ']', '\n'] else '\n' :: itemLines indent items
  | .obj fields =>
    if fields.isEmpty then [' ', '\x7b', '\x7d', '\n'] else '\n' :: fieldLines (indent + 2) fields
  | v => ' ' :: leaf (indent + 2) v

/-- The fields of an object. -/
def fieldLines (indent : Nat) : List (String × Json) → List Char
  | [] => []
  | (key, v) :: fs =>
    margin indent ++
      (if isSimpleKey key then scalar (indent + 2) key.toList ++ ':' :: fieldValue indent v
       else '?' :: ' ' :: scalarLine (indent + 2) key.toList ++
         margin indent ++ ':' :: ' ' :: node (indent + 2) v) ++
      fieldLines indent fs

end

/-- The characters of a document. -/
def printChars (v : Json) : List Char :=
  match v with
  | .arr _ | .obj _ => node 0 v
  | v => leaf 2 v

/-- The text of a document. -/
def print (v : Json) : String := String.ofList (printChars v)

end ImageBuild.Yaml
