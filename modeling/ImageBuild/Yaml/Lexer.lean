import ImageBuild.Yaml.BlockText
import ImageBuild.Yaml.PlainText
import ImageBuild.Yaml.QuotedText
import ImageBuild.Yaml.Token

/-!
# From characters to tokens

The columns of a text decide where blocks start and end. Whether a node is a
key shows only at the colon after it, so that the place before a node that may
be a key is kept until then. Such a key has to fit on one line.
-/
namespace ImageBuild.Yaml

/-- A place in a text. Characters, lines and columns are counted from zero. -/
structure Position where
  index : Nat
  line : Nat
  column : Nat
  deriving DecidableEq, Repr

namespace Position

/-- The position after some characters. -/
def after (p : Position) : List Char → Position
  | [] => p
  | '\r' :: '\n' :: cs => after ⟨p.index + 2, p.line + 1, 0⟩ cs
  | c :: cs =>
    if isBreak c then after ⟨p.index + 1, p.line + 1, 0⟩ cs
    else after ⟨p.index + 1, p.line, p.column + 1⟩ cs

end Position

/-- A node that may turn out to be a key. -/
structure PossibleKey where
  /-- How many tokens precede it. -/
  place : Nat
  position : Position
  /-- Nothing else can stand there. -/
  isRequired : Bool

structure Lexer where
  rest : List Char
  position : Position
  /-- The columns of the open blocks, innermost first. -/
  blocks : List Nat
  /-- A key may stand here. -/
  keyAllowed : Bool
  /-- The possible key of each open bracket, innermost first, and of the block. -/
  keys : List (Option PossibleKey)
  /-- The tokens, last first. -/
  tokens : List Token

namespace Lexer

/-- The start of a text. A byte order mark is passed over. -/
def start (text : List Char) : Lexer :=
  let rest := if text.head? = some '\uFEFF' then text.drop 1 else text
  ⟨rest, ⟨text.length - rest.length, 0, text.length - rest.length⟩, [], true, [none], []⟩

/-- Between brackets. -/
def isFlow (s : Lexer) : Bool := s.keys.length > 1

/-- The least column of a line that belongs to the innermost block. -/
def margin (s : Lexer) : Nat := (s.blocks.head?.map (· + 1)).getD 0

/-- Go on to a later part of the text. -/
def moveTo (s : Lexer) (rest : List Char) : Lexer :=
  { s with
    rest := rest
    position := s.position.after (s.rest.take (s.rest.length - rest.length)) }

def emit (s : Lexer) (t : Token) : Lexer := { s with tokens := t :: s.tokens }

/-- Put a token after the given count of tokens. -/
def emitAt (s : Lexer) (place : Nat) (t : Token) : Lexer :=
  let later := s.tokens.length - place
  { s with tokens := s.tokens.take later ++ t :: s.tokens.drop later }

/-- A key cannot be here. A place where one has to be is an error. -/
def dropKey (s : Lexer) : Option Lexer :=
  match s.keys with
  | some key :: keys => if key.isRequired then none else some { s with keys := none :: keys }
  | _ => some s

/-- Keep the place before a node. -/
def markKey (s : Lexer) : Option Lexer :=
  if s.keyAllowed then
    s.dropKey.map fun s =>
      let key :=
        ⟨s.tokens.length, s.position, !s.isFlow && s.blocks.head? == some s.position.column⟩
      { s with keys := some key :: s.keys.drop 1 }
  else some s

/-- How long a key may be. -/
def maxKeyLength : Nat := 1024

def isPast (s : Lexer) (key : PossibleKey) : Bool :=
  key.position.line < s.position.line || key.position.index + maxKeyLength < s.position.index

/-- Forget the keys that are on another line or too far away. -/
def dropPast (s : Lexer) : Option Lexer :=
  let past := fun key : Option PossibleKey => key.any s.isPast
  if s.keys.any fun key => past key && key.any (·.isRequired) then none
  else some { s with keys := s.keys.map fun key => if past key then none else key }

/-- Open a block in a column that no open block has reached. -/
def openBlock (s : Lexer) (column place : Nat) (t : Token) : Lexer :=
  if s.isFlow || column < s.margin then s
  else { s.emitAt place t with blocks := column :: s.blocks }

/-- Close the blocks that a column is not part of. -/
def closeBlocks (s : Lexer) (column : Nat) : Lexer :=
  if s.isFlow then s
  else
    let closed := s.blocks.takeWhile (column < ·)
    { s with
      blocks := s.blocks.drop closed.length
      tokens := closed.map (fun _ => Token.blockEnd) ++ s.tokens }

/-- Close all blocks. -/
def closeAll (s : Lexer) : Lexer :=
  if s.isFlow then s
  else { s with blocks := [], tokens := s.blocks.map (fun _ => Token.blockEnd) ++ s.tokens }

/-- Blanks, comments and ends of lines. After the end of a line a key may stand
again; where it may, a tab is no blank. -/
def skipBlanks (isFlow keyAllowed inComment : Bool) : List Char → Bool × List Char
  | [] => (keyAllowed, [])
  | c :: cs =>
    if isBreak c then skipBlanks isFlow (keyAllowed || !isFlow) false cs
    else if inComment || c == '#' then skipBlanks isFlow keyAllowed true cs
    else if c == ' ' || (c == '\t' && (isFlow || !keyAllowed)) then
      skipBlanks isFlow keyAllowed false cs
    else (keyAllowed, c :: cs)

/-- Go on to the next token. -/
def skip (s : Lexer) : Lexer :=
  let (keyAllowed, rest) := skipBlanks s.isFlow s.keyAllowed false s.rest
  { s.moveTo rest with keyAllowed := keyAllowed }

/-- A token between documents, which ends all blocks. -/
def outside (s : Lexer) (t : Token) (rest : List Char) : Option Lexer :=
  s.closeAll.dropKey.map fun s => { (s.moveTo rest).emit t with keyAllowed := false }

/-- A token that a key may follow. -/
def separate (s : Lexer) (t : Token) (rest : List Char) (keyAllowed : Bool) : Option Lexer :=
  s.dropKey.map fun s => { (s.moveTo rest).emit t with keyAllowed := keyAllowed }

/-- A node, or a part of one, that may be a key. -/
def content (s : Lexer) (result : Option (Token × List Char)) : Option Lexer := do
  let (t, rest) ← result
  let s ← s.markKey
  return { (s.moveTo rest).emit t with keyAllowed := false }

/-- An opening bracket. -/
def openFlow (s : Lexer) (t : Token) (rest : List Char) : Option Lexer :=
  s.markKey.map fun s =>
    { (s.moveTo rest).emit t with keys := none :: s.keys, keyAllowed := true }

/-- A closing bracket. -/
def closeFlow (s : Lexer) (t : Token) (rest : List Char) : Option Lexer :=
  s.dropKey.map fun s =>
    { (s.moveTo rest).emit t with
      keys := if s.isFlow then s.keys.drop 1 else s.keys
      keyAllowed := false }

/-- The mark of an item or of a key. In a block it opens one in its column. -/
def openItem (s : Lexer) (block t : Token) (rest : List Char) (keyAllowed : Bool) : Option Lexer :=
  if s.isFlow then s.separate t rest keyAllowed
  else if s.keyAllowed then
    (s.openBlock s.position.column s.tokens.length block).separate t rest keyAllowed
  else none

/-- The colon before a value. The node before it turns out to be the key, or it
follows a key that has a mark of its own. -/
def openValue (s : Lexer) (rest : List Char) : Option Lexer :=
  match s.keys with
  | some key :: keys =>
    let s := { s with keys := none :: keys, keyAllowed := false }
    let s := (s.emitAt key.place .key).openBlock key.position.column key.place .blockMapping
    some ((s.moveTo rest).emit .value)
  | _ => s.openItem .blockMapping .value rest (!s.isFlow)

def plainScalar (s : Lexer) : Option Lexer := do
  let t ← PlainText.read ⟨s.isFlow, s.margin⟩ [] s.position.column s.rest
  let s ← s.content (some (.scalar true (String.ofList t.text), t.rest))
  return { s with keyAllowed := t.endsLine }

def blockScalar (s : Lexer) (isFolded : Bool) (rest : List Char) : Option Lexer := do
  let (text, rest) ← readBlock isFolded s.blocks.head? rest
  s.separate (.scalar false (String.ofList text)) rest true

/-- A scalar between quotation marks as a token. -/
def quotedToken (q : Quoted) : Token × List Char := (.scalar false (String.ofList q.1), q.2)

/-- Whether a plain scalar may start with a character. -/
def startsPlain (isFlow : Bool) (c : Char) (rest : List Char) : Bool :=
  !(isSeparator c || isIndicator c || isLead c) ||
    (c == '-' && !rest.head?.any isSpaceOrTab) ||
    (!isFlow && (c == '?' || c == ':') && !atSeparator rest)

/-- The token that starts with a character. -/
def token (s : Lexer) (c : Char) (rest : List Char) : Option Lexer :=
  let marks := s.isFlow || atSeparator rest
  match c with
  | '[' => s.openFlow .openBracket rest
  | '\x7b' => s.openFlow .openBrace rest
  | ']' => s.closeFlow .closeBracket rest
  | '\x7d' => s.closeFlow .closeBrace rest
  | ',' => s.separate .comma rest true
  | '*' => s.content ((readName rest).map fun (name, r) => (.alias name, r))
  | '&' => s.content ((readName rest).map fun (name, r) => (.anchor name, r))
  | '!' => s.content (readTag s.isFlow rest)
  | '\'' => s.content ((readSingle [] rest).map quotedToken)
  | '"' => s.content ((readDouble false [] rest).map quotedToken)
  | _ =>
    if c == '-' && atSeparator rest then s.openItem .blockSequence .item rest true
    else if c == '?' && marks then s.openItem .blockMapping .key rest (!s.isFlow)
    else if c == ':' && marks then s.openValue rest
    else if c == '|' && !s.isFlow then s.blockScalar false rest
    else if c == '>' && !s.isFlow then s.blockScalar true rest
    else if startsPlain s.isFlow c rest then s.plainScalar
    else none

/-- One token from a text that is not at its end. -/
def step (s : Lexer) (c : Char) (rest : List Char) : Option Lexer :=
  if s.position.column = 0 && c == '%' then
    (readDirective rest).bind fun (t, rest) => s.outside t rest
  else if s.position.column = 0 && atDocumentMark (c :: rest) then
    s.outside (if c = '-' then .documentStart else .documentEnd) (rest.drop 2)
  else s.token c rest

/-- The rest of the tokens. Each step takes at least one character. -/
def run : Nat → Lexer → Option (List Token)
  | 0, _ => none
  | fuel + 1, s => do
    let s ← s.skip.dropPast
    let s := s.closeBlocks s.position.column
    match s.rest with
    | [] => s.closeAll.dropKey.map fun s => s.tokens.reverse
    | c :: rest => run fuel (← s.step c rest)

end Lexer

/-- The tokens of a text. -/
def tokens? (text : List Char) : Option (List Token) :=
  if text.all isReadable then Lexer.run (text.length + 1) (Lexer.start text) else none

end ImageBuild.Yaml
