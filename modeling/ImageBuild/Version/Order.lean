import ImageBuild.Version.Basic

/-!
# The order of versions

Versions are compared by rank: a list of lists of numbers in lexicographic
order. Numeric segments come first and go by value, then by length; other
segments go by code points. A version with a pre-release precedes the release.
-/
namespace ImageBuild.Version

/-- The rank of a segment. -/
def segmentRank (segment : List Char) : List Nat :=
  if segment.all Char.isDigit then [0, Nat.ofDigitChars 10 segment 0, segment.length]
  else 1 :: segment.map Char.toNat

/-- The rank of a pre-release; its absence ranks above all. -/
def preRank (pre : PreRelease) : List (List Nat) :=
  if pre.list = [] then [[2]] else pre.list.map segmentRank

def rank (v : Version) : List (List (List Nat)) :=
  [[[v.major.toNat]], [[v.minor.toNat]], [[v.patch.toNat]], preRank v.pre,
    v.build.list.map segmentRank]

instance : Ord Version := ⟨fun a b => compare a.rank b.rank⟩

/-- Whether one version does not come after another. -/
def le (a b : Version) : Bool := (compare a b).isLE

instance : LE Version := ⟨fun a b => a.le b = true⟩

instance : LT Version := ⟨fun a b => compare a b = .lt⟩

instance : DecidableLE Version := fun a b => inferInstanceAs (Decidable (a.le b = true))

instance : DecidableLT Version := fun a b => inferInstanceAs (Decidable (compare a b = .lt))

theorem le_refl (a : Version) : a ≤ a := by
  show (compare a.rank a.rank).isLE = true
  rw [Std.ReflOrd.compare_self]
  rfl

theorem le_trans {a b c : Version} (hab : a ≤ b) (hbc : b ≤ c) : a ≤ c :=
  Std.TransOrd.isLE_trans (α := List (List (List Nat))) hab hbc

theorem le_total (a b : Version) : a ≤ b ∨ b ≤ a := by
  show (compare a.rank b.rank).isLE = true ∨ (compare b.rank a.rank).isLE = true
  rw [Std.OrientedOrd.eq_swap (a := b.rank)]
  cases compare a.rank b.rank <;> simp [Ordering.isLE]

theorem not_lt {a b : Version} : ¬ a < b ↔ b ≤ a := by
  show ¬ compare a.rank b.rank = .lt ↔ (compare b.rank a.rank).isLE = true
  rw [Std.OrientedOrd.eq_swap (a := b.rank)]
  cases compare a.rank b.rank <;> simp [Ordering.isLE]

theorem le_of_lt {a b : Version} (h : a < b) : a ≤ b :=
  (le_total a b).resolve_right fun hba => not_lt.2 hba h

end ImageBuild.Version
