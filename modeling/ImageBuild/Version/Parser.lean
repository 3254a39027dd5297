import ImageBuild.Text.Cut
import ImageBuild.Text.CharClass
import ImageBuild.Version.Basic

/-!
# Reading versions

`Version.parse` reads a full semantic version from left to right and reports
the first thing that is wrong; `Version.parseText` also reads the short form
`major.minor`, with blanks around it.
-/
namespace ImageBuild

/-- The part of a version that a message is about. -/
inductive VersionPart where
  | major
  | minor
  | patch
  | preRelease
  | build
  deriving DecidableEq, Repr

def VersionPart.name : VersionPart → String
  | .major => "major version number"
  | .minor => "minor version number"
  | .patch => "patch version number"
  | .preRelease => "pre-release identifier"
  | .build => "build metadata"

/-- Why a text is not a version. -/
inductive VersionError where
  | empty
  | unexpectedEnd (part : VersionPart)
  | unexpectedChar (part : VersionPart) (c : Char)
  | unexpectedCharAfter (part : VersionPart) (c : Char)
  | leadingZero (part : VersionPart)
  | overflow (part : VersionPart)
  | emptySegment (part : VersionPart)
  deriving DecidableEq, Repr

def VersionError.message : VersionError → String
  | .empty => "empty string, expected a semver version"
  | .unexpectedEnd p => "unexpected end of input while parsing " ++ p.name
  | .unexpectedChar p c =>
    "unexpected character " ++ Text.quoteChar c ++ " while parsing " ++ p.name
  | .unexpectedCharAfter p c => "unexpected character " ++ Text.quoteChar c ++ " after " ++ p.name
  | .leadingZero p => "invalid leading zero in " ++ p.name
  | .overflow p => "value of " ++ p.name ++ " exceeds u64::MAX"
  | .emptySegment p => "empty identifier segment in " ++ p.name

namespace Version

/-- A number at the start of the text, and the rest. -/
def number (part : VersionPart) (cs : List Char) : Except VersionError (UInt64 × List Char) :=
  let ds := cs.takeWhile Char.isDigit
  let rest := cs.dropWhile Char.isDigit
  if ds = [] then
    match cs with
    | [] => .error (.unexpectedEnd part)
    | c :: _ => .error (.unexpectedChar part c)
  else if hasLeadingZero ds then .error (.leadingZero part)
  else if h : Nat.ofDigitChars 10 ds 0 < UInt64.size then
    .ok (UInt64.ofNatLT (Nat.ofDigitChars 10 ds 0) h, rest)
  else .error (.overflow part)

/-- The text after a dot; `part` has just been read. -/
def dot (part : VersionPart) : List Char → Except VersionError (List Char)
  | [] => .error (.unexpectedEnd part)
  | '.' :: rest => .ok rest
  | c :: _ => .error (.unexpectedCharAfter part c)

/-- The part that has segments of a kind. -/
def segmentPart (leadingZeros : Bool) : VersionPart := if leadingZeros then .build else .preRelease

theorem isSegment_takeWhile {cs : List Char} (h1 : cs.takeWhile isSegmentChar ≠ [])
    (h2 : ¬ (!z && hasLeadingZero (cs.takeWhile isSegmentChar)) = true) :
    isSegment z (cs.takeWhile isSegmentChar) = true := by
  have h3 : (cs.takeWhile isSegmentChar).all isSegmentChar = true := List.all_takeWhile
  cases z <;> simp_all [isSegment]

theorem length_lt_of_dropWhile {cs rest : List Char} {c : Char}
    (h : cs.dropWhile isSegmentChar = c :: rest) : rest.length < cs.length := by
  have hle := (List.dropWhile_suffix (l := cs) isSegmentChar).length_le
  rw [h, List.length_cons] at hle
  omega

/-- The segments at the start of the text, and the rest. -/
def segments (z : Bool) (cs : List Char) : Except VersionError (Segments z × List Char) :=
  let segment := cs.takeWhile isSegmentChar
  if h1 : segment = [] then .error (.emptySegment (segmentPart z))
  else if h2 : (!z && hasLeadingZero segment) = true then .error (.leadingZero (segmentPart z))
  else
    have hs : isSegment z segment = true := isSegment_takeWhile h1 h2
    match hrest : cs.dropWhile isSegmentChar with
    | '.' :: rest =>
      have : rest.length < cs.length := length_lt_of_dropWhile hrest
      match segments z rest with
      | .ok (more, rest) =>
        .ok (⟨segment :: more.list, by rw [List.all_cons, hs, more.valid]; rfl⟩, rest)
      | .error e => .error e
    | rest => .ok (⟨[segment], by rw [List.all_cons, hs]; rfl⟩, rest)
termination_by cs.length

/-- The segments after a mark, if the text starts with it. The part named in a
later message is then theirs. -/
def marked (mark : Char) (z : Bool) (part : VersionPart) :
    List Char → Except VersionError (Segments z × VersionPart × List Char)
  | [] => .ok (.none, part, [])
  | c :: rest =>
    if c = mark then (segments z rest).map fun r => (r.1, segmentPart z, r.2)
    else .ok (.none, part, c :: rest)

/-- A full version. -/
def parse (cs : List Char) : Except VersionError Version := do
  if cs = [] then throw .empty
  let (major, cs) ← number .major cs
  let cs ← dot .major cs
  let (minor, cs) ← number .minor cs
  let cs ← dot .minor cs
  let (patch, cs) ← number .patch cs
  let (pre, part, cs) ← marked '-' false .patch cs
  let (build, part, cs) ← marked '+' true part cs
  match cs with
  | [] => return ⟨major, minor, patch, pre, build⟩
  | c :: _ => throw (.unexpectedCharAfter part c)

/-- A full version, or one whose patch number is left out, with blanks around
it. A text with exactly one dot is taken to lack its patch number. -/
def parseText (s : String) : Except VersionError Version :=
  let cs := Text.trim s.toList
  parse (if cs.count '.' = 1 then cs ++ ['.', '0'] else cs)

end Version

end ImageBuild
