import ImageBuild.Yaml.Characters
import ImageBuild.Yaml.Plain

/-!
# Reading quoted scalars

Between single quotation marks the mark itself is written twice. Between double
ones a backslash starts an escape; before the end of a line it joins two lines.
-/
namespace ImageBuild.Yaml

/-- The text between quotation marks, and what follows them. -/
abbrev Quoted := List Char × List Char

/-- More text in front. -/
def Quoted.push (text : List Char) (q : Quoted) : Quoted := (text ++ q.1, q.2)

/-- A line of a quoted scalar may not be a mark between documents. -/
def isLostMark (atLineStart : Bool) (cs : List Char) : Bool := atLineStart && atDocumentMark cs

/-- The rest of a text between single quotation marks, after a gap that is
given from its end. -/
def readSingle (gap : List Char) : List Char → Option Quoted
  | [] => none
  | c :: cs =>
    if isGap c then readSingle (c :: gap) cs
    else if isLostMark (gap.head?.any isBreak) (c :: cs) then none
    else if c = '\'' then
      match cs with
      | '\'' :: rest => (readSingle [] rest).map (Quoted.push (foldGap gap.reverse ++ ['\'']))
      | rest => some (foldGap gap.reverse, rest)
    else (readSingle [] cs).map (Quoted.push (foldGap gap.reverse ++ [c]))

/-- The character that a letter stands for after a backslash. -/
def escapedLetter? (c : Char) : Option Char :=
  match c with
  | '0' => some '\x00'
  | 'a' => some '\x07'
  | 'b' => some '\x08'
  | 't' => some '\t'
  | '\t' => some '\t'
  | 'n' => some '\n'
  | 'v' => some '\x0b'
  | 'f' => some '\x0c'
  | 'r' => some '\r'
  | 'e' => some '\x1b'
  | ' ' => some ' '
  | '"' => some '"'
  | '/' => some '/'
  | '\\' => some '\\'
  | 'N' => some '\u0085'
  | '_' => some '\u00a0'
  | 'L' => some '\u2028'
  | 'P' => some '\u2029'
  | _ => none

/-- The character of a number in hexadecimal digits. -/
def numberedChar? (digits : List Char) : Option Char :=
  (natIn? 16 digits).bind fun n => if n.isValidChar then some (Char.ofNat n) else none

/-- What a gap stands for, if need be after the backslash that joins two lines. -/
def joinGap (isJoined : Bool) (gap : List Char) : List Char :=
  if isJoined then lineEnds gap else foldGap gap

/-- The rest of a text between double quotation marks, after a gap that is
given from its end and that a backslash may precede. -/
def readDouble (isJoined : Bool) (gap : List Char) : List Char → Option Quoted
  | [] => none
  | c :: cs =>
    let before := joinGap isJoined gap.reverse
    let go (escape : Option Char) (rest : Option Quoted) : Option Quoted :=
      escape.bind fun e => rest.map (Quoted.push (before ++ [e]))
    if isGap c then readDouble isJoined (c :: gap) cs
    else if isLostMark ((gap.head?.map isBreak).getD isJoined) (c :: cs) then none
    else if c = '"' then some (before, cs)
    else if c = '\\' then
      match cs with
      | '\r' :: '\n' :: rest => (readDouble true [] rest).map (Quoted.push before)
      | 'x' :: a :: b :: rest => go (numberedChar? [a, b]) (readDouble false [] rest)
      | 'u' :: a :: b :: c :: d :: rest =>
        go (numberedChar? [a, b, c, d]) (readDouble false [] rest)
      | 'U' :: a :: b :: c :: d :: e :: f :: g :: h :: rest =>
        go (numberedChar? [a, b, c, d, e, f, g, h]) (readDouble false [] rest)
      | e :: rest =>
        if isBreak e then (readDouble true [] rest).map (Quoted.push before)
        else go (escapedLetter? e) (readDouble false [] rest)
      | [] => none
    else go (some c) (readDouble false [] cs)

end ImageBuild.Yaml
