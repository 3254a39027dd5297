/-!
# Characters of YAML texts

The classes of characters that decide how a text is written and read. Words of a
plain or quoted scalar may be apart by blanks and ends of lines. A gap in one line
stays as it is; the ends of lines are folded, so that one of them is a space and
more of them are one less.
-/
namespace ImageBuild.Yaml

/-- Characters that end a line. -/
def isBreak (c : Char) : Bool :=
  c == '\n' || c == '\r' || c == '\u0085' || c == '\u2028' || c == '\u2029'

/-- A space, a tab, a character that ends a line, or the null character. -/
def isSeparator (c : Char) : Bool := c == ' ' || c == '\t' || isBreak c || c == '\x00'

def isSpaceOrBreak (c : Char) : Bool := c == ' ' || isBreak c

def isSpaceOrTab (c : Char) : Bool := c == ' ' || c == '\t'

/-- Characters that may be written without an escape. -/
def isPrintable (c : Char) : Bool :=
  let n := c.toNat
  n == 0x0A || (0x20 ≤ n && n ≤ 0x7E) || (0xA0 ≤ n && n ≤ 0xFEFE) || (0xFF00 ≤ n && n ≤ 0xFFFD) ||
    0x10000 ≤ n

/-- Characters that may occur in a document. -/
def isReadable (c : Char) : Bool :=
  let n := c.toNat
  n == 0x09 || n == 0x0A || n == 0x0D || (0x20 ≤ n && n ≤ 0x7E) || n == 0x85 ||
    (0xA0 ≤ n && n ≤ 0xFFFD) || 0x10000 ≤ n

/-- Characters that have a meaning at the start of a scalar. -/
def isIndicator (c : Char) : Bool :=
  [',', '[', ']', '\x7b', '\x7d', '#', '&', '*', '!', '|', '>', '\'', '"', '%', '@',
    '\x60'].contains c

/-- Characters that have a meaning before a separator at the start of a scalar. -/
def isLead (c : Char) : Bool := c == '-' || c == '?' || c == ':'

/-- Characters with a meaning inside a collection between brackets. -/
def isFlowIndicator (c : Char) : Bool := [',', '[', ']', '\x7b', '\x7d'].contains c

/-- Characters of the names of anchors, tag handles and directives. -/
def isNameChar (c : Char) : Bool := c.isAlphanum || c == '_' || c == '-'

/-- Whether the text is at its end or goes on with a separator. -/
def atSeparator (cs : List Char) : Bool := !cs.head?.any (!isSeparator ·)

/-- Whether a line starts with a mark between documents. -/
def atDocumentMark : List Char → Bool
  | '-' :: '-' :: '-' :: rest => atSeparator rest
  | '.' :: '.' :: '.' :: rest => atSeparator rest
  | _ => false

/-- Characters of a gap. -/
def isGap (c : Char) : Bool := isSpaceOrTab c || isBreak c

/-- How the end of a line is kept. -/
def keptBreak (c : Char) : Char := if c = '\u2028' ∨ c = '\u2029' then c else '\n'

/-- The ends of lines in a gap. -/
def lineEnds : List Char → List Char
  | [] => []
  | '\r' :: '\n' :: cs => '\n' :: lineEnds cs
  | c :: cs => if isBreak c then keptBreak c :: lineEnds cs else lineEnds cs

/-- What a gap stands for. -/
def foldGap (gap : List Char) : List Char :=
  match lineEnds gap with
  | [] => gap
  | ['\n'] => [' ']
  | '\n' :: more => more
  | ends => ends

end ImageBuild.Yaml
