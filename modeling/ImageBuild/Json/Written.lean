import ImageBuild.Decimal.Signed
import ImageBuild.Json.Basic

/-!
# JSON text as written

`Json.Written` is the tree of a JSON text before its literals are read: numbers
keep their digits and strings their escapes. A part that nobody reads need only
be well formed; `Written.value?` reads a part, and fails on a number out of
range or an unpaired surrogate.
-/
namespace ImageBuild.Json

/-- A number as written: sign, integer digits, and the two optional parts. -/
structure NumberLiteral where
  negative : Bool
  whole : List Char
  fraction : Option (List Char)
  /-- Sign and digits of the exponent. -/
  exponent : Option (Bool × List Char)
  deriving DecidableEq, Repr

/-- One element of a string as written: a character, or a four-digit escape. -/
inductive StringUnit where
  | char (c : Char)
  | code (n : Nat)
  deriving DecidableEq, Repr

/-- A JSON text as written. -/
inductive Written where
  | null
  | bool (b : Bool)
  | number (n : NumberLiteral)
  | string (units : List StringUnit)
  | array (items : List Written)
  | object (fields : List (List StringUnit × Written))
  deriving Repr, Inhabited

/-- Least and greatest integers that stay integers. -/
def intMin : Int := -9223372036854775808

def intMax : Int := 18446744073709551615

/-- The number as a binary64 number, if it is finite. -/
def NumberLiteral.float? (n : NumberLiteral) : Option Decimal.Binary64 :=
  let fraction := n.fraction.getD []
  let power : Int := match n.exponent with
    | none => 0
    | some (true, ds) => -(Nat.ofDigitChars 10 ds 0 : Int)
    | some (false, ds) => (Nat.ofDigitChars 10 ds 0 : Int)
  Decimal.Binary64.nearest n.negative (Nat.ofDigitChars 10 (n.whole ++ fraction) 0)
    (power - fraction.length)

/-- The value of a number: an integer if it is written as one and is in range,
and not zero with a minus sign. -/
def NumberLiteral.value? (n : NumberLiteral) : Option Json :=
  match n.fraction, n.exponent with
  | none, none =>
    let m := Nat.ofDigitChars 10 n.whole 0
    if n.negative then
      if m = 0 then some (.float (Decimal.Binary64.zero true))
      else if intMin ≤ -(m : Int) then some (.int (-(m : Int)))
      else n.float?.map .float
    else if (m : Int) ≤ intMax then some (.int m)
    else n.float?.map .float
  | _, _ => n.float?.map .float

/-- The characters of a string: escapes of a surrogate pair stand for one
character, and an unpaired surrogate for none. -/
def decodeUnits : List StringUnit → Option (List Char)
  | [] => some []
  | .char c :: us => (decodeUnits us).map (c :: ·)
  | .code n :: us =>
    if 0xDC00 ≤ n && n ≤ 0xDFFF then none
    else if 0xD800 ≤ n && n ≤ 0xDBFF then
      match us with
      | .code m :: rest =>
        if 0xDC00 ≤ m && m ≤ 0xDFFF then
          (decodeUnits rest).map (Char.ofNat (0x10000 + (n - 0xD800) * 0x400 + (m - 0xDC00)) :: ·)
        else none
      | _ => none
    else (decodeUnits us).map (Char.ofNat n :: ·)

/-- The text of a string. -/
def decodeString (units : List StringUnit) : Option String :=
  (decodeUnits units).map String.ofList

namespace Written

mutual

/-- How deep arrays and objects are nested. -/
def depth : Written → Nat
  | .array items => depthItems items + 1
  | .object fields => depthFields fields + 1
  | _ => 0

def depthItems : List Written → Nat
  | [] => 0
  | w :: ws => max w.depth (depthItems ws)

def depthFields : List (List StringUnit × Written) → Nat
  | [] => 0
  | (_, w) :: fs => max w.depth (depthFields fs)

end

mutual

/-- The value of a text, with the fields of its objects as written. -/
def value? : Written → Option Json
  | .null => some .null
  | .bool b => some (.bool b)
  | .number n => n.value?
  | .string us => (decodeString us).map .str
  | .array items => (values? items).map .arr
  | .object fields => (fieldValues? fields).map .obj

def values? : List Written → Option (List Json)
  | [] => some []
  | w :: ws =>
    match w.value?, values? ws with
    | some v, some vs => some (v :: vs)
    | _, _ => none

def fieldValues? : List (List StringUnit × Written) → Option (List (String × Json))
  | [] => some []
  | (k, w) :: fs =>
    match decodeString k, w.value?, fieldValues? fs with
    | some key, some v, some vs => some ((key, v) :: vs)
    | _, _, _ => none

end

end Written

end ImageBuild.Json
