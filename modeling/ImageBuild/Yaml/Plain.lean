import ImageBuild.Decimal.Binary64
import ImageBuild.Decimal.Signed

/-!
# What a plain scalar stands for

A plain scalar is read as null, a truth value, an integer or a finite number
if it is spelled like one, and is a text otherwise.
-/
namespace ImageBuild.Yaml

/-- The value of a plain scalar. -/
inductive Plain where
  | null
  | bool (b : Bool)
  | int (i : Int)
  | float
  | text
  deriving DecidableEq, Repr

def isNull (cs : List Char) : Bool :=
  cs == "null".toList || cs == "Null".toList || cs == "NULL".toList || cs == ['~']

def bool? (cs : List Char) : Option Bool :=
  if cs == "true".toList || cs == "True".toList || cs == "TRUE".toList then some true
  else if cs == "false".toList || cs == "False".toList || cs == "FALSE".toList then some false
  else none

/-- A sign at the start of the text: whether it is a minus, and the rest. -/
def splitSign : List Char → Bool × List Char
  | '-' :: rest => (true, rest)
  | '+' :: rest => (false, rest)
  | rest => (false, rest)

/-- A leading zero before other digits makes a text of them. -/
def isPaddedDigits (cs : List Char) : Bool :=
  let body := (splitSign cs).2
  body.length > 1 && body.head? == some '0' && body.all Char.isDigit

/-- The value of a digit in a base of at most sixteen. -/
def digitIn? (base : Nat) (c : Char) : Option Nat :=
  let value :=
    if '0' ≤ c && c ≤ '9' then c.toNat - 48
    else if 'a' ≤ c && c ≤ 'f' then c.toNat - 87
    else if 'A' ≤ c && c ≤ 'F' then c.toNat - 55
    else 16
  if value < base then some value else none

/-- The number that a non-empty run of digits denotes in a base. -/
def natIn? (base : Nat) (cs : List Char) : Option Nat :=
  if cs = [] then none
  else cs.foldlM (fun n c => (digitIn? base c).map (base * n + ·)) 0

/-- An integer: decimal, or with a mark for base sixteen, eight or two. -/
def int? (cs : List Char) : Option Int :=
  let (negative, body) := splitSign cs
  let magnitude :=
    match body with
    | '0' :: 'x' :: rest => natIn? 16 rest
    | '0' :: 'o' :: rest => natIn? 8 rest
    | '0' :: 'b' :: rest => natIn? 2 rest
    | body => if isPaddedDigits cs then none else natIn? 10 body
  magnitude.map fun n => if negative then -(n : Int) else n

/-- Digits of a decimal number: the digits without the point, and how many
follow it. One digit at least is needed. -/
def mantissa? (cs : List Char) : Option (Nat × Nat × List Char) :=
  let whole := cs.takeWhile Char.isDigit
  let rest := cs.dropWhile Char.isDigit
  let (fraction, rest) := match rest with
    | '.' :: r => (r.takeWhile Char.isDigit, r.dropWhile Char.isDigit)
    | r => ([], r)
  if whole = [] && fraction = [] then none
  else some (Nat.ofDigitChars 10 (whole ++ fraction) 0, fraction.length, rest)

/-- A whole exponent part, or nothing. -/
def exponent? : List Char → Option Int
  | [] => some 0
  | e :: rest =>
    if e = 'e' || e = 'E' then
      let (negative, ds) := splitSign rest
      (natIn? 10 ds).map fun n => if negative then -(n : Int) else n
    else none

/-- Whether the text spells a number of binary64 range. -/
def isFiniteDecimal (cs : List Char) : Bool :=
  match mantissa? (splitSign cs).2 with
  | none => false
  | some (digits, places, rest) =>
    match exponent? rest with
    | none => false
    | some e => (Decimal.Binary64.nearest false digits (e - places)).isSome

/-- The spellings of infinity and of no number. -/
def isSpecialFloat (cs : List Char) : Bool :=
  let words := [".inf", ".Inf", ".INF", "+.inf", "+.Inf", "+.INF", "-.inf", "-.Inf", "-.INF",
    ".nan", ".NaN", ".NAN"]
  words.any (·.toList == cs)

/-- What a plain scalar stands for. -/
def plain (cs : List Char) : Plain :=
  if cs = [] || isNull cs then .null
  else
    match bool? cs with
    | some b => .bool b
    | none =>
      match int? cs with
      | some i =>
        if -Int.pow 2 127 ≤ i && i < Int.pow 2 128 then .int i
        else if isFiniteDecimal cs then .float
        else .text
      | none =>
        if isPaddedDigits cs then .text
        else if isSpecialFloat cs || isFiniteDecimal cs then .float
        else .text

end ImageBuild.Yaml
