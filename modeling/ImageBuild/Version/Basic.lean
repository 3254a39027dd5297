import ImageBuild.Decimal.Signed

/-!
# Semantic versions

A version is three 64-bit numbers, a pre-release and build metadata. The two
last are lists of segments; the empty list stands for their absence.
-/
namespace ImageBuild

/-- An ASCII letter, a digit or a hyphen. -/
def isSegmentChar (c : Char) : Bool := c.isAlphanum || c == '-'

/-- Digits with a leading zero in front of others. -/
def hasLeadingZero (segment : List Char) : Bool :=
  segment.all Char.isDigit && segment.head? == some '0' && segment.length > 1

/-- A segment is not empty; only build metadata allows leading zeros. -/
def isSegment (leadingZeros : Bool) (segment : List Char) : Bool :=
  !segment.isEmpty && segment.all isSegmentChar && (leadingZeros || !hasLeadingZero segment)

/-- Segments that a dot separates. -/
structure Segments (leadingZeros : Bool) where
  list : List (List Char)
  valid : list.all (isSegment leadingZeros) = true
  deriving DecidableEq, Repr

namespace Segments

def none : Segments z := ⟨[], rfl⟩

instance : Inhabited (Segments z) := ⟨none⟩

theorem ext {a b : Segments z} (h : a.list = b.list) : a = b := by
  cases a
  cases b
  cases h
  rfl

/-- The segments with dots between them. -/
def chars (s : Segments z) : List Char := ['.'].intercalate s.list

end Segments

/-- Pre-release segments. -/
abbrev PreRelease := Segments false

/-- Build metadata segments. -/
abbrev BuildMetadata := Segments true

structure Version where
  major : UInt64
  minor : UInt64
  patch : UInt64
  pre : PreRelease
  build : BuildMetadata
  deriving DecidableEq, Repr, Inhabited

namespace Version

/-- The release `major.minor.patch`. -/
def release (major minor patch : UInt64) : Version := ⟨major, minor, patch, .none, .none⟩

/-- Segments after their mark, or nothing. -/
def suffix (mark : Char) (s : Segments z) : List Char :=
  if s.list = [] then [] else mark :: s.chars

/-- The full text of a version. -/
def chars (v : Version) : List Char :=
  Nat.toDigits 10 v.major.toNat ++ '.' :: (Nat.toDigits 10 v.minor.toNat ++
    '.' :: (Nat.toDigits 10 v.patch.toNat ++ (suffix '-' v.pre ++ suffix '+' v.build)))

/-- Whether the version is a release with patch number zero. -/
def isShort (v : Version) : Bool := v.patch == 0 && v.pre.list.isEmpty && v.build.list.isEmpty

/-- The text `major.minor` where it says all, else the full text. -/
def shortChars (v : Version) : List Char :=
  if v.isShort then Nat.toDigits 10 v.major.toNat ++ '.' :: Nat.toDigits 10 v.minor.toNat
  else v.chars

/-- The text of a version as a platform API version. -/
def text (v : Version) : String := String.ofList v.shortChars

end Version

end ImageBuild
