import ImageBuild.Yaml.Characters
import ImageBuild.Decimal.Signed

/-!
# Reading block scalars

A block scalar is the lines below its header that have at least its margin. The
header may give the margin; otherwise the first line with text has it. In a
folded block one end of a line is a space between two lines that start with
text.
-/
namespace ImageBuild.Yaml

/-- What becomes of the ends of lines at the end of a block. -/
inductive Chomping where
  | strip
  | clip
  | keep
  deriving DecidableEq, Repr

/-- The header of a block. -/
structure BlockHeader where
  chomping : Chomping
  /-- How far the margin is from the block around it. -/
  increment : Option Nat
  deriving DecidableEq, Repr

def chomping? : Char → Option Chomping
  | '+' => some .keep
  | '-' => some .strip
  | _ => none

def increment? (c : Char) : Option Nat :=
  if c.isDigit then some (Decimal.digitValue c) else none

namespace BlockHeader

/-- The two marks of a header in either order. -/
def marks : List Char → BlockHeader × List Char
  | [] => (⟨.clip, none⟩, [])
  | c :: cs =>
    match chomping? c, increment? c with
    | some chomping, _ =>
      match cs.head?.bind increment? with
      | some n => (⟨chomping, some n⟩, cs.drop 1)
      | none => (⟨chomping, none⟩, cs)
    | none, some n =>
      match cs.head?.bind chomping? with
      | some chomping => (⟨chomping, some n⟩, cs.drop 1)
      | none => (⟨.clip, some n⟩, cs)
    | none, none => (⟨.clip, none⟩, c :: cs)

/-- The text after the end of a line. -/
def dropBreak : List Char → List Char
  | '\r' :: '\n' :: cs => cs
  | _ :: cs => cs
  | [] => []

/-- A header, and the lines below it. -/
def read (cs : List Char) : Option (BlockHeader × List Char) :=
  let (header, rest) := marks cs
  let rest := rest.dropWhile isSpaceOrTab
  let rest := if rest.head? = some '#' then rest.dropWhile (!isBreak ·) else rest
  if header.increment = some 0 || rest.head?.any (!isBreak ·) then none
  else some (header, dropBreak rest)

end BlockHeader

/-- The lines before the next line with text. -/
structure BlankLines where
  /-- The ends of the lines. -/
  ends : List Char
  /-- The widest margin that was seen. -/
  widest : Nat
  /-- The column that was reached. -/
  column : Nat
  rest : List Char

/-- Read the margin of lines until one goes on with text. Without a margin all
spaces count. A tab may not be part of the margin. -/
def BlankLines.read (margin : Option Nat) (column widest : Nat) : List Char → Option BlankLines
  | [] => some ⟨[], widest, column, []⟩
  | '\r' :: '\n' :: cs =>
    (read margin 0 widest cs).map fun b => { b with ends := '\n' :: b.ends }
  | c :: cs =>
    let inMargin := margin.all (column < ·)
    if inMargin && c == ' ' then read margin (column + 1) (max widest (column + 1)) cs
    else if inMargin && c == '\t' then none
    else if isBreak c then
      (read margin 0 widest cs).map fun b => { b with ends := keptBreak c :: b.ends }
    else some ⟨[], widest, column, c :: cs⟩

/-- What stands between two lines of a block: the end of the first one and the
ends of the blank lines after it. -/
def blockGap (isFolded : Bool) (ending blank : List Char) : List Char :=
  if isFolded && ending == ['\n'] then (if blank.isEmpty then [' '] else blank) else ending ++ blank

/-- The end of a line, and what follows. -/
def lineEnd : List Char → List Char × List Char
  | '\r' :: '\n' :: cs => (['\n'], cs)
  | c :: cs => ([keptBreak c], cs)
  | [] => ([], [])

/-- The lines of a block from one on that reaches the margin. A line that starts
with a blank is not folded. -/
def blockLines (isFolded : Bool) (chomping : Chomping) (margin : Nat) :
    Nat → (afterText : Bool) → (ending : List Char) → BlankLines → Option (List Char × List Char)
  | 0, _, _, _ => none
  | fuel + 1, afterText, ending, blank =>
    if blank.column = margin ∧ blank.rest ≠ [] then
      let isText := !blank.rest.head?.any isSpaceOrTab
      let gap := blockGap (isFolded && afterText && isText) ending blank.ends
      let line := blank.rest.takeWhile (!isBreak ·)
      let (next, rest) := lineEnd (blank.rest.dropWhile (!isBreak ·))
      (BlankLines.read (some margin) 0 0 rest).bind fun more =>
        (blockLines isFolded chomping margin fuel isText next more).map fun r =>
          (gap ++ line ++ r.1, r.2)
    else
      let tail := match chomping with
        | .strip => []
        | .clip => ending
        | .keep => ending ++ blank.ends
      some (tail, blank.rest)

/-- The text of a block, after the mark that starts it, inside a block whose
column is given, and what follows. -/
def readBlock (isFolded : Bool) (outer : Option Nat) (cs : List Char) :
    Option (List Char × List Char) := do
  let (header, rest) ← BlockHeader.read cs
  let margin := header.increment.map (outer.getD 0 + ·)
  let blank ← BlankLines.read margin 0 0 rest
  let least := (outer.map (· + 1)).getD 0
  let margin := margin.getD (max (max blank.widest least) 1)
  blockLines isFolded header.chomping margin (rest.length + 1) false [] blank

end ImageBuild.Yaml
