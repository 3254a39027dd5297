import ImageBuild.Yaml.Characters

/-!
# Reading plain scalars

A plain scalar ends before a comment, before a colon that a separator follows,
before a line that does not belong to its block, and between brackets also
before the characters that have a meaning there.
-/
namespace ImageBuild.Yaml

/-- Where a plain scalar stands. -/
structure PlainContext where
  /-- Between brackets. -/
  isFlow : Bool
  /-- The least column of a line that belongs to the block. -/
  margin : Nat

/-- A plain scalar that has been read. -/
structure PlainText where
  text : List Char
  /-- The gap after it has the end of a line. -/
  endsLine : Bool
  rest : List Char

namespace PlainText

/-- Whether a scalar cannot go on after a gap. -/
def stopsAfterGap (ctx : PlainContext) (column : Nat) (cs : List Char) : Bool :=
  (!ctx.isFlow && column < ctx.margin) || cs.head? == some '#' || (column == 0 && atDocumentMark cs)

/-- Whether a character ends the scalar. -/
def endsAt (isFlow : Bool) (c : Char) (cs : List Char) : Bool :=
  (c == ':' && atSeparator cs) || (isFlow && isFlowIndicator c)

/-- A colon between brackets may not touch some of the other characters that
have a meaning there. -/
def isStray (isFlow : Bool) (c : Char) (cs : List Char) : Bool :=
  isFlow && c == ':' && cs.head?.any fun d => isFlowIndicator d || d == '?'

/-- A tab may not stand for the margin of a line. -/
def isBadTab (ctx : PlainContext) (gap : List Char) (column : Nat) (c : Char) : Bool :=
  c == '\t' && gap.any isBreak && column < ctx.margin

/-- The scalar whose last word is followed by a gap, given from its end. -/
def read (ctx : PlainContext) (gap : List Char) (column : Nat) : List Char → Option PlainText
  | [] => some ⟨[], gap.any isBreak, []⟩
  | c :: cs =>
    if isGap c then
      if isBadTab ctx gap column c then none
      else read ctx (c :: gap) (if isBreak c then 0 else column + 1) cs
    else if (!gap.isEmpty && stopsAfterGap ctx column (c :: cs)) then
      some ⟨[], gap.any isBreak, c :: cs⟩
    else if isStray ctx.isFlow c cs then none
    else if endsAt ctx.isFlow c cs then some ⟨[], gap.any isBreak, c :: cs⟩
    else
      (read ctx [] (column + 1) cs).map fun t =>
        { t with text := foldGap gap.reverse ++ c :: t.text }

end PlainText

end ImageBuild.Yaml
