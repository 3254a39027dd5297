import ImageBuild.Yaml.Characters
import ImageBuild.Yaml.Plain

/-!
# Tokens

What a text in YAML consists of. The starts and ends of blocks, which only the
columns of their lines show, are tokens too.

An anchor names a node, and an alias refers to it. A tag is a handle and a
suffix, or a whole tag between angle brackets. A directive stands on a line of its
own before a document, and gives the version of the language or a handle for tags.
-/
namespace ImageBuild.Yaml

inductive Token where
  | version (major minor : Nat)
  | tagHandle (handle expansion : String)
  | documentStart
  | documentEnd
  | blockSequence
  | blockMapping
  | blockEnd
  | openBracket
  | closeBracket
  | openBrace
  | closeBrace
  | item
  | comma
  | key
  | value
  | alias (name : String)
  | anchor (name : String)
  | tag (handle suffix : String)
  | scalar (isPlain : Bool) (text : String)
  deriving DecidableEq, Repr

/-- Whether the name of an anchor or of an alias may end here. -/
def endsName (cs : List Char) : Bool :=
  atSeparator cs || cs.head?.any ['?', ':', ',', ']', '\x7d', '%', '@', '\x60'].contains

/-- The name of an anchor or of an alias. -/
def readName (cs : List Char) : Option (String × List Char) :=
  let name := cs.takeWhile isNameChar
  let rest := cs.dropWhile isNameChar
  if name = [] || !endsName rest then none else some (String.ofList name, rest)

/-- Characters of a tag. Between angle brackets it may have some more. -/
def isTagChar (inBrackets : Bool) (c : Char) : Bool :=
  isNameChar c ||
    [';', '/', '?', ':', '@', '&', '=', '+', '$', '.', '!', '~', '*', '\'', '(', ')',
      '%'].contains c ||
    (inBrackets && [',', '[', ']'].contains c)

/-- How many bytes the character has that starts with a byte. -/
def byteCount? (n : Nat) : Option Nat :=
  if n < 0x80 then some 1
  else if 0xC0 ≤ n ∧ n < 0xE0 then some 2
  else if 0xE0 ≤ n ∧ n < 0xF0 then some 3
  else if 0xF0 ≤ n ∧ n < 0xF8 then some 4
  else none

/-- Bytes that follow the first one of a character, each written as a percent
sign and two digits. -/
def moreBytes? : Nat → Nat → List Char → Option (Nat × List Char)
  | 0, n, cs => some (n, cs)
  | count + 1, n, '%' :: a :: b :: cs =>
    (natIn? 16 [a, b]).bind fun m =>
      if m / 64 = 2 then moreBytes? count (64 * n + m % 64) cs else none
  | _ + 1, _, _ => none

/-- A character by its bytes. -/
def escapedChar? : List Char → Option (Char × List Char)
  | '%' :: a :: b :: cs =>
    (natIn? 16 [a, b]).bind fun n =>
      (byteCount? n).bind fun count =>
        let first := if count = 1 then n else n % Nat.pow 2 (7 - count)
        (moreBytes? (count - 1) first cs).map fun r => (Char.ofNat r.1, r.2)
  | _ => none

/-- The characters of a tag with their escapes. -/
def tagChars (inBrackets : Bool) : Nat → List Char → Option (List Char × List Char)
  | 0, _ => none
  | fuel + 1, cs =>
    match cs with
    | [] => some ([], [])
    | c :: rest =>
      if !isTagChar inBrackets c then some ([], c :: rest)
      else
        (if c = '%' then escapedChar? cs else some (c, rest)).bind fun r =>
          (tagChars inBrackets fuel r.2).map fun t => (r.1 :: t.1, t.2)

/-- What follows the handle of a tag. -/
def readSuffix (inBrackets : Bool) (cs : List Char) : Option (String × List Char) :=
  (tagChars inBrackets (cs.length + 1) cs).map fun r => (String.ofList r.1, r.2)

/-- A tag after its exclamation mark without angle brackets. A second mark ends
the handle; without it the handle is one mark. A mark alone is a tag by itself. -/
def readShortTag (cs : List Char) : Option (Token × List Char) :=
  let name := cs.takeWhile isNameChar
  match cs.dropWhile isNameChar with
  | '!' :: rest =>
    (readSuffix false rest).bind fun (suffix, rest) =>
      if suffix.isEmpty then none
      else some (Token.tag ("!" ++ String.ofList name ++ "!") suffix, rest)
  | rest =>
    (readSuffix false rest).map fun (suffix, rest) =>
      let whole := String.ofList name ++ suffix
      (if whole.isEmpty then Token.tag "" "!" else Token.tag "!" whole, rest)

/-- A tag after its exclamation mark. -/
def readTag (isFlow : Bool) (cs : List Char) : Option (Token × List Char) :=
  let tag := match cs with
    | '<' :: rest =>
      (readSuffix true rest).bind fun (suffix, rest) =>
        match rest with
        | '>' :: rest => if suffix.isEmpty then none else some (Token.tag "" suffix, rest)
        | _ => none
    | cs => readShortTag cs
  tag.filter fun r => atSeparator r.2 || (isFlow && r.2.head? == some ',')

/-- A part of a version: at most nine digits. -/
def readVersionPart (cs : List Char) : Option (Nat × List Char) :=
  let ds := cs.takeWhile Char.isDigit
  if ds = [] || ds.length > 9 then none
  else some (Nat.ofDigitChars 10 ds 0, cs.dropWhile Char.isDigit)

def readVersion (cs : List Char) : Option (Token × List Char) := do
  match ← readVersionPart cs with
  | (major, '.' :: rest) =>
    let (minor, rest) ← readVersionPart rest
    return (.version major minor, rest)
  | _ => none

/-- One exclamation mark, or two with a name between them. -/
def readHandle : List Char → Option (String × List Char)
  | '!' :: cs =>
    let name := cs.takeWhile isNameChar
    match cs.dropWhile isNameChar with
    | '!' :: rest => some ("!" ++ String.ofList name ++ "!", rest)
    | rest => if name = [] then some ("!", rest) else none
  | _ => none

def readTagHandle (cs : List Char) : Option (Token × List Char) := do
  let (handle, rest) ← readHandle cs
  if !rest.head?.any isSpaceOrTab then none
  else
    let (expansion, rest) ← readSuffix true (rest.dropWhile isSpaceOrTab)
    if expansion.isEmpty || !atSeparator rest then none
    else some (.tagHandle handle expansion, rest)

/-- Whether the rest of a line is blank or a comment. -/
def endsDirective (cs : List Char) : Bool :=
  match cs.dropWhile isSpaceOrTab with
  | [] => true
  | c :: _ => c == '#' || isBreak c

/-- A directive after its percent sign. -/
def readDirective (cs : List Char) : Option (Token × List Char) := do
  let name := String.ofList (cs.takeWhile isNameChar)
  let rest := cs.dropWhile isNameChar
  if !atSeparator rest then none
  else
    let value := rest.dropWhile isSpaceOrTab
    let result ←
      if name = "YAML" then readVersion value
      else if name = "TAG" then readTagHandle value
      else none
    if endsDirective result.2 then some result else none

end ImageBuild.Yaml
