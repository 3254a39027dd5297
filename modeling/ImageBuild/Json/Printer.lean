import ImageBuild.Decimal.Shortest
import ImageBuild.Json.Basic

/-!
# JSON text

`Json.compact` writes a value without blanks, `Json.pretty` with one item a
line and two spaces a level. Strings keep all characters but quotation marks,
backslashes and control characters.
-/
namespace ImageBuild.Json

/-- Numbers use an exponent from `1e+16` up and from `1e-6` down. -/
def numberLayout : Decimal.Layout := ⟨16, -5, true⟩

/-- A hexadecimal digit, in lower case. -/
def hexDigit (n : Nat) : Char :=
  if n < 10 then Char.ofNat (48 + n) else Char.ofNat (87 + n)

/-- One character of a string as it is written between quotation marks. -/
def escapeChar (c : Char) : List Char :=
  if c = '"' then ['\\', '"']
  else if c = '\\' then ['\\', '\\']
  else if c = '\x08' then ['\\', 'b']
  else if c = '\t' then ['\\', 't']
  else if c = '\n' then ['\\', 'n']
  else if c = '\x0c' then ['\\', 'f']
  else if c = '\r' then ['\\', 'r']
  else if c.toNat < 32 then ['\\', 'u', '0', '0', hexDigit (c.toNat / 16), hexDigit (c.toNat % 16)]
  else [c]

/-- The characters of a string between its quotation marks. -/
def escape (cs : List Char) : List Char := cs.flatMap escapeChar

/-- A string in quotation marks. -/
def quote (s : String) : List Char := '"' :: (escape s.toList ++ ['"'])

/-- The text of a value without parts, and of an empty one. -/
def scalar : Json → List Char
  | .null => ['n', 'u', 'l', 'l']
  | .bool true => ['t', 'r', 'u', 'e']
  | .bool false => ['f', 'a', 'l', 's', 'e']
  | .int i => (toString i).toList
  | .float x => x.render numberLayout
  | .str s => quote s
  | .arr _ => ['[', ']']
  | .obj _ => ['\x7b', '\x7d']

mutual

/-- The characters of a value, without blanks. -/
def compactChars : Json → List Char
  | .arr (v :: vs) => '[' :: (compactChars v ++ compactItems vs)
  | .obj ((k, v) :: fs) => '\x7b' :: (quote k ++ ':' :: (compactChars v ++ compactFields fs))
  | v => v.scalar

/-- The items after the first, with the closing bracket. -/
def compactItems : List Json → List Char
  | [] => [']']
  | v :: vs => ',' :: (compactChars v ++ compactItems vs)

/-- The fields after the first, with the closing brace. -/
def compactFields : List (String × Json) → List Char
  | [] => ['\x7d']
  | (k, v) :: fs => ',' :: (quote k ++ ':' :: (compactChars v ++ compactFields fs))

end

/-- The text of a value, without blanks. -/
def compact (v : Json) : String := String.ofList v.compactChars

/-- The start of a line at a depth. -/
def newline (depth : Nat) : List Char := '\n' :: List.replicate (2 * depth) ' '

mutual

/-- The characters of a value at a depth, one item a line. -/
def prettyChars (depth : Nat) : Json → List Char
  | .arr (v :: vs) =>
    '[' :: (newline (depth + 1) ++ prettyChars (depth + 1) v ++ prettyItems depth vs)
  | .obj ((k, v) :: fs) =>
    '\x7b' :: (newline (depth + 1) ++ quote k ++ ':' :: ' ' ::
      (prettyChars (depth + 1) v ++ prettyFields depth fs))
  | v => v.scalar

def prettyItems (depth : Nat) : List Json → List Char
  | [] => newline depth ++ [']']
  | v :: vs => ',' :: (newline (depth + 1) ++ prettyChars (depth + 1) v ++ prettyItems depth vs)

def prettyFields (depth : Nat) : List (String × Json) → List Char
  | [] => newline depth ++ ['\x7d']
  | (k, v) :: fs =>
    ',' :: (newline (depth + 1) ++ quote k ++ ':' :: ' ' ::
      (prettyChars (depth + 1) v ++ prettyFields depth fs))

end

/-- The text of a value with one item a line. -/
def pretty (v : Json) : String := String.ofList (v.prettyChars 0)

end ImageBuild.Json
