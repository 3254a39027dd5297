import ImageBuild.Yaml.Characters
import ImageBuild.Yaml.Plain

/-!
# How a text is written as a scalar

A text is written plain, between single quotation marks, between double
quotation marks, or as a literal block. `Style.wanted` is the style that keeps
the text readable and keeps it a text; `Style.of` gives way to a stricter style
where the characters of the text do not allow it.
-/
namespace ImageBuild.Yaml

inductive Style where
  | plain
  | single
  | double
  | literal
  deriving DecidableEq, Repr

/-- Whether a character with the first property stands right before one with
the second. -/
def hasPair (p q : Char → Bool) : List Char → Bool
  | a :: b :: rest => (p a && q b) || hasPair p q (b :: rest)
  | _ => false

/-- Whether the last character has the property. -/
def endsIn (p : Char → Bool) (cs : List Char) : Bool := cs.getLast?.any p

/-- Whether the start of the text has a meaning of its own. -/
def startsSpecial : List Char → Bool
  | '-' :: '-' :: '-' :: _ => true
  | '.' :: '.' :: '.' :: _ => true
  | [c] => isIndicator c || isLead c
  | c :: d :: _ => isIndicator c || (isLead c && isSeparator d)
  | [] => false

/-- Whether a part of the text has a meaning of its own: its start, a colon
before a separator or the end, or a number sign after a separator. -/
def hasMeaning (cs : List Char) : Bool :=
  startsSpecial cs || hasPair (· == ':') isSeparator cs || endsIn (· == ':') cs ||
    hasPair isSeparator (· == '#') cs

def plainAllowed (cs : List Char) : Bool :=
  cs.all isPrintable && !cs.any isBreak && !cs.head?.any isSpaceOrBreak &&
    !endsIn isSpaceOrBreak cs && !hasMeaning cs

def singleAllowed (cs : List Char) : Bool :=
  cs.all isPrintable && !hasPair (· == ' ') isBreak cs && !hasPair isBreak (· == ' ') cs

def literalAllowed (cs : List Char) : Bool :=
  cs.all isPrintable && !hasPair (· == ' ') isBreak cs && !endsIn (· == ' ') cs

/-- A text of several lines is a literal block; quotation marks keep a text
that would be read as another value. -/
def Style.wanted (cs : List Char) : Style :=
  if cs.contains '\n' then .literal
  else if Yaml.plain cs != Plain.text || isPaddedDigits cs then .single
  else .plain

/-- The style that a text is written in. -/
def Style.of (cs : List Char) : Style :=
  match wanted cs with
  | .literal => if literalAllowed cs then .literal else .double
  | .plain => if plainAllowed cs then .plain else if singleAllowed cs then .single else .double
  | _ => if singleAllowed cs then .single else .double

/-- The start of a line. -/
def margin (indent : Nat) : List Char := List.replicate indent ' '

/-- A hexadecimal digit, in upper case. -/
def hexDigit (n : Nat) : Char :=
  if n < 10 then Char.ofNat (48 + n) else Char.ofNat (55 + n)

/-- The number in a fixed count of hexadecimal digits. -/
def hexDigits : Nat → Nat → List Char
  | 0, _ => []
  | count + 1, n => hexDigits count (n / 16) ++ [hexDigit (n % 16)]

/-- A character after a backslash, by the shortest form that has room for it. -/
def numberedEscape (n : Nat) : List Char :=
  if n ≤ 0xFF then 'x' :: hexDigits 2 n
  else if n ≤ 0xFFFF then 'u' :: hexDigits 4 n
  else 'U' :: hexDigits 8 n

/-- The letter that stands for a character after a backslash. -/
def letterEscape? (c : Char) : Option Char :=
  match c with
  | '\x00' => some '0'
  | '\x07' => some 'a'
  | '\x08' => some 'b'
  | '\t' => some 't'
  | '\n' => some 'n'
  | '\x0b' => some 'v'
  | '\x0c' => some 'f'
  | '\r' => some 'r'
  | '\x1b' => some 'e'
  | '"' => some '"'
  | '\\' => some '\\'
  | '\u0085' => some 'N'
  | '\u2028' => some 'L'
  | '\u2029' => some 'P'
  | _ => none

/-- One character between double quotation marks. -/
def escapeChar (c : Char) : List Char :=
  match letterEscape? c with
  | some e => ['\\', e]
  | none => if isPrintable c then [c] else '\\' :: numberedEscape c.toNat

def doubleQuoted (cs : List Char) : List Char := '"' :: (cs.flatMap escapeChar ++ ['"'])

/-- The rest of a text between single quotation marks. A line that is not the
first starts with the margin. -/
def singleRest (indent : Nat) : Bool → List Char → List Char
  | lineStart, [] => (if lineStart then margin indent else []) ++ ['\'']
  | lineStart, c :: cs =>
    if isBreak c then c :: singleRest indent true cs
    else
      (if lineStart then margin indent else []) ++ (if c = '\'' then ['\'', '\''] else [c]) ++
        singleRest indent false cs

def singleQuoted (indent : Nat) (cs : List Char) : List Char := '\'' :: singleRest indent false cs

/-- The lines of a literal block, each but the empty ones with the margin. -/
def literalRest (indent : Nat) : Bool → List Char → List Char
  | _, [] => []
  | lineStart, c :: cs =>
    if isBreak c then c :: literalRest indent true cs
    else (if lineStart then margin indent else []) ++ c :: literalRest indent false cs

/-- The count of columns in front of a block is given where its first line
does not show it. -/
def indentHint (cs : List Char) : List Char := if cs.head?.any isSpaceOrBreak then ['2'] else []

/-- What becomes of the line ends at the end of a block: none is there, one is
there, or all are kept. -/
def endingHint (cs : List Char) : List Char :=
  match cs.reverse with
  | [] => ['-']
  | [a] => if isBreak a then ['+'] else ['-']
  | a :: b :: _ => if isBreak a then (if isBreak b then ['+'] else []) else ['-']

def literalBlock (indent : Nat) (cs : List Char) : List Char :=
  '|' :: (indentHint cs ++ endingHint cs ++ '\n' :: literalRest indent true cs)

/-- A text as a scalar whose further lines have a margin. -/
def scalar (indent : Nat) (cs : List Char) : List Char :=
  match Style.of cs with
  | .plain => cs
  | .single => singleQuoted indent cs
  | .double => doubleQuoted cs
  | .literal => literalBlock indent cs

/-- A scalar with the end of its line, which a literal block may already have. -/
def scalarLine (indent : Nat) (cs : List Char) : List Char :=
  scalar indent cs ++ (if Style.of cs = .literal && endsIn isBreak cs then [] else ['\n'])

end ImageBuild.Yaml
