/-!
# Line differences

A script turns one list of lines into another by keeping, removing and adding
lines. `best` chooses a script with the most kept lines, removing before adding
where both are as good. `diff` computes the same script row by row; the main
statement is `diff_eq_best`.
-/
namespace ImageBuild.LineDiff

/-- One entry of a script. -/
inductive Entry (α : Type) where
  | same (line : α)
  | removed (line : α)
  | added (line : α)
  deriving DecidableEq, Repr

namespace Entry

/-- The line of the old list that an entry stands for. -/
def old? : Entry α → Option α
  | .same x | .removed x => some x
  | .added _ => none

/-- The line of the new list that an entry stands for. -/
def new? : Entry α → Option α
  | .same x | .added x => some x
  | .removed _ => none

def line : Entry α → α
  | .same x | .removed x | .added x => x

def isSame : Entry α → Bool
  | .same _ => true
  | _ => false

def isAdded : Entry α → Bool
  | .added _ => true
  | _ => false

def isRemoved : Entry α → Bool
  | .removed _ => true
  | _ => false

end Entry

/-- A script with the number of lines that it keeps. -/
structure Script (α : Type) where
  kept : Nat
  entries : List (Entry α)
  deriving DecidableEq, Repr

/-- The script from the tails of two lists that start with `a` and `b`, given
the scripts without both, without `a`, and without `b`. -/
def choose [DecidableEq α] (a b : α) (both down right : Script α) : Script α :=
  if a = b then ⟨both.kept + 1, .same a :: both.entries⟩
  else if right.kept ≤ down.kept then ⟨down.kept, .removed a :: down.entries⟩
  else ⟨right.kept, .added b :: right.entries⟩

theorem choose_cases [DecidableEq α] (a b : α) (both down right : Script α) :
    a = b ∧ choose a b both down right = ⟨both.kept + 1, .same a :: both.entries⟩ ∨
      a ≠ b ∧ right.kept ≤ down.kept ∧
        choose a b both down right = ⟨down.kept, .removed a :: down.entries⟩ ∨
      a ≠ b ∧ down.kept < right.kept ∧
        choose a b both down right = ⟨right.kept, .added b :: right.entries⟩ := by
  unfold choose
  split
  · next heq => exact .inl ⟨heq, rfl⟩
  · next hne =>
    split
    · next hle => exact .inr (.inl ⟨hne, hle, rfl⟩)
    · next hlt => exact .inr (.inr ⟨hne, Nat.lt_of_not_le hlt, rfl⟩)

/-- A script that keeps as many lines as possible. -/
def best [DecidableEq α] : List α → List α → Script α
  | [], bs => ⟨0, bs.map .added⟩
  | a :: as, [] => ⟨0, (a :: as).map .removed⟩
  | a :: as, b :: bs => choose a b (best as bs) (best as (b :: bs)) (best (a :: as) bs)
termination_by as bs => as.length + bs.length

/-- The scripts from no lines to every tail of `bs`. -/
def firstRow : List α → List (Script α)
  | [] => [⟨0, []⟩]
  | b :: bs =>
    match firstRow bs with
    | [] => []
    | s :: row => ⟨0, .added b :: s.entries⟩ :: s :: row

/-- The scripts from `a :: as` to every tail of `bs`, from those of `as`. -/
def nextRow [DecidableEq α] (a : α) : List α → List (Script α) → List (Script α)
  | [], down :: _ => [⟨0, .removed a :: down.entries⟩]
  | b :: bs, down :: both :: row =>
    match nextRow a bs (both :: row) with
    | [] => []
    | right :: rest => choose a b both down right :: right :: rest
  | _, _ => []

/-- The scripts from `as` to every tail of `bs`. -/
def row [DecidableEq α] (bs : List α) : List α → List (Script α)
  | [] => firstRow bs
  | a :: as => nextRow a bs (row bs as)

/-- The entries of a best script. -/
def diff [DecidableEq α] (as bs : List α) : List (Entry α) :=
  match row bs as with
  | [] => []
  | s :: _ => s.entries

/-- The tails of a list, longest first. -/
def tails : List α → List (List α)
  | [] => [[]]
  | b :: bs => (b :: bs) :: tails bs

theorem tails_eq_cons (bs : List α) : ∃ rest, tails bs = bs :: rest := by
  cases bs <;> simp [tails]

theorem best_nil_right [DecidableEq α] (as : List α) : best as [] = ⟨0, as.map .removed⟩ := by
  cases as <;> simp [best]

theorem firstRow_eq [DecidableEq α] (bs : List α) : firstRow bs = (tails bs).map (best []) := by
  induction bs with
  | nil => simp [firstRow, tails, best]
  | cons b bs ih =>
    obtain ⟨rest, hrest⟩ := tails_eq_cons bs
    rw [firstRow, ih, tails, hrest]
    simp [best]

theorem nextRow_eq [DecidableEq α] (a : α) (as bs : List α) :
    nextRow a bs ((tails bs).map (best as)) = (tails bs).map (best (a :: as)) := by
  induction bs with
  | nil => simp [nextRow, tails, best_nil_right]
  | cons b bs ih =>
    obtain ⟨rest, hrest⟩ := tails_eq_cons bs
    rw [hrest] at ih
    rw [tails, hrest]
    simp only [List.map_cons] at ih ⊢
    rw [nextRow, ih, best]

theorem row_eq [DecidableEq α] (as bs : List α) : row bs as = (tails bs).map (best as) := by
  induction as with
  | nil => exact firstRow_eq bs
  | cons a as ih => rw [row, ih, nextRow_eq]

theorem diff_eq_best [DecidableEq α] (as bs : List α) : diff as bs = (best as bs).entries := by
  obtain ⟨rest, hrest⟩ := tails_eq_cons bs
  rw [diff, row_eq, hrest]
  rfl

/-- How many lines a script adds and removes. -/
structure Counts where
  adds : Nat
  removes : Nat
  deriving DecidableEq, Repr

def counts (entries : List (Entry α)) : Counts :=
  ⟨entries.countP Entry.isAdded, entries.countP Entry.isRemoved⟩

end ImageBuild.LineDiff
