import ImageBuild.LineDiff
import Mathlib.Data.List.Basic
import Mathlib.Order.Bounds.Defs

/-!
# No script is shorter

The lines that a script keeps are a common subsequence of the two lists, and
all other lines of the lists are removed or added. So the scripts that keep the
most lines are the shortest ones, and `diff` gives one of them. The main
statement is `diff_shortest`.
-/
namespace ImageBuild.LineDiff

variable {α : Type} {as bs : List α}

/-- The entries stand for all lines of both lists, in order. -/
structure IsScript (as bs : List α) (es : List (Entry α)) : Prop where
  old : es.filterMap Entry.old? = as
  new : es.filterMap Entry.new? = bs

/-- The lines that a script keeps. -/
def keptLines (es : List (Entry α)) : List α := (es.filter Entry.isSame).map Entry.line

/-- The lengths of the common subsequences of two lists. -/
def commonLengths (as bs : List α) : Set Nat :=
  {n | ∃ s : List α, s.Sublist as ∧ s.Sublist bs ∧ s.length = n}

theorem length_keptLines (es : List (Entry α)) :
    (keptLines es).length = es.countP Entry.isSame := by
  simp [keptLines, List.countP_eq_length_filter]

/-- The kept lines are among those of each side. -/
theorem keptLines_sublist {side : Entry α → Option α} (hsame : ∀ x, side (.same x) = some x)
    (es : List (Entry α)) : (keptLines es).Sublist (es.filterMap side) := by
  induction es with
  | nil => exact List.Sublist.refl _
  | cons e es ih =>
    cases e with
    | same x =>
      rw [List.filterMap_cons_some (hsame x)]
      exact ih.cons_cons x
    | removed x => exact ih.trans ((List.sublist_cons_self _ es).filterMap side)
    | added x => exact ih.trans ((List.sublist_cons_self _ es).filterMap side)

/-- Each line of a side is kept, or stands on that side only. -/
theorem length_side {side : Entry α → Option α} {only : Entry α → Bool}
    (h : ∀ e, (side e).isSome.toNat = e.isSame.toNat + (only e).toNat) (es : List (Entry α)) :
    (es.filterMap side).length = es.countP Entry.isSame + es.countP only := by
  have hcount : ∀ b : Bool, (if b = true then 1 else 0) = b.toNat := by decide
  rw [List.length_filterMap_eq_countP]
  induction es with
  | nil => rfl
  | cons e es ih =>
    simp only [List.countP_cons, ih, hcount, h e]
    omega

namespace IsScript

variable {es : List (Entry α)}

theorem same_mem_commonLengths (h : IsScript as bs es) :
    es.countP Entry.isSame ∈ commonLengths as bs := by
  refine ⟨keptLines es, ?_, ?_, length_keptLines es⟩
  · exact h.old ▸ keptLines_sublist (fun _ => rfl) es
  · exact h.new ▸ keptLines_sublist (fun _ => rfl) es

theorem counts_eq (h : IsScript as bs es) :
    counts es = ⟨bs.length - es.countP Entry.isSame, as.length - es.countP Entry.isSame⟩ := by
  have hold : as.length = es.countP Entry.isSame + es.countP Entry.isRemoved :=
    h.old ▸ length_side (fun e => by cases e <;> rfl) es
  have hnew : bs.length = es.countP Entry.isSame + es.countP Entry.isAdded :=
    h.new ▸ length_side (fun e => by cases e <;> rfl) es
  rw [counts, Counts.mk.injEq]
  omega

/-- A script that keeps all its lines stands for one list. -/
theorem eq_of_same (h : IsScript as bs es) (hsame : ∀ e ∈ es, e.isSame = true) : as = bs := by
  have hsides : es.filterMap Entry.old? = es.filterMap Entry.new? := by
    apply List.filterMap_congr
    intro e he
    cases e with
    | same x => rfl
    | removed x | added x => cases hsame _ he
  exact h.old.symm.trans (hsides.trans h.new)

end IsScript

/-- A common subsequence that does not start with the first line of a list is
one of the tail of that list. -/
theorem sublist_tail {s : List α} {a : α} (h : s.Sublist (a :: as)) (ha : s.head? ≠ some a) :
    s.Sublist as := by
  cases h with
  | cons _ h => exact h
  | cons_cons _ h => exact absurd rfl ha

variable [DecidableEq α]

theorem best_isScript (as bs : List α) : IsScript as bs (best as bs).entries := by
  fun_induction best as bs with
  | case1 bs =>
    constructor <;> simp [List.filterMap_map, Function.comp_def, Entry.old?, Entry.new?]
  | case2 a as =>
    constructor <;> simp [List.filterMap_map, Function.comp_def, Entry.old?, Entry.new?]
  | case3 a as b bs both down right =>
    rcases choose_cases a b (best as bs) (best as (b :: bs)) (best (a :: as) bs) with
      ⟨rfl, hsame⟩ | ⟨-, -, hremoved⟩ | ⟨-, -, hadded⟩
    · rw [hsame]
      exact ⟨congrArg (a :: ·) both.old, congrArg (a :: ·) both.new⟩
    · rw [hremoved]
      exact ⟨congrArg (a :: ·) down.old, down.new⟩
    · rw [hadded]
      exact ⟨right.old, congrArg (b :: ·) right.new⟩

theorem best_self (as : List α) : (best as as).entries = as.map .same := by
  induction as with
  | nil => simp [best]
  | cons a as ih => rw [best, choose, if_pos rfl, ih, List.map_cons]

/-- Only the difference of a list from itself removes and adds nothing. -/
theorem diff_changes_iff {as bs : List α} :
    (∃ e ∈ diff as bs, e.isSame = false) ↔ as ≠ bs := by
  rw [diff_eq_best]
  constructor
  · rintro ⟨e, he, hchanged⟩ rfl
    rw [best_self] at he
    obtain ⟨x, -, rfl⟩ := List.mem_map.1 he
    cases hchanged
  · intro hne
    have hsome : ¬ ∀ e ∈ (best as bs).entries, e.isSame = true := fun hall =>
      hne ((best_isScript as bs).eq_of_same hall)
    simpa using hsome

theorem same_best (as bs : List α) :
    (best as bs).entries.countP Entry.isSame = (best as bs).kept := by
  fun_induction best as bs with
  | case1 bs => simp [List.countP_map, Function.comp_def, Entry.isSame]
  | case2 a as => simp [List.countP_map, Function.comp_def, Entry.isSame]
  | case3 a as b bs both down right =>
    rcases choose_cases a b (best as bs) (best as (b :: bs)) (best (a :: as) bs) with
      ⟨-, hsame⟩ | ⟨-, -, hremoved⟩ | ⟨-, -, hadded⟩
    · rw [hsame, List.countP_cons_of_pos rfl, both]
    · rw [hremoved, List.countP_cons_of_neg Bool.false_ne_true, down]
    · rw [hadded, List.countP_cons_of_neg Bool.false_ne_true, right]

/-- The first lines are matched where they are equal, which costs a common
subsequence at most its own first line. Where they differ, a subsequence starts
with one of them at most, and the other can be left out. -/
theorem length_le_kept_best {s : List α} (hold : s.Sublist as) (hnew : s.Sublist bs) :
    s.length ≤ (best as bs).kept := by
  fun_induction best as bs generalizing s with
  | case1 bs => simp [List.sublist_nil.1 hold]
  | case2 a as => simp [List.sublist_nil.1 hnew]
  | case3 a as b bs both down right =>
    have hside : a ≠ b →
        s.length ≤ (best as (b :: bs)).kept ∨ s.length ≤ (best (a :: as) bs).kept := by
      intro hne
      by_cases ha : s.head? = some a
      · have hb : s.head? ≠ some b := fun hb => hne (Option.some.inj (ha.symm.trans hb))
        exact .inr (right hold (sublist_tail hnew hb))
      · exact .inl (down (sublist_tail hold ha) hnew)
    rcases choose_cases a b (best as bs) (best as (b :: bs)) (best (a :: as) bs) with
      ⟨-, hsame⟩ | ⟨hne, hle, hremoved⟩ | ⟨hne, hlt, hadded⟩
    · have htail : s.tail.length ≤ (best as bs).kept := both hold.tail hnew.tail
      rw [List.length_tail] at htail
      rw [hsame]
      exact Nat.le_add_of_sub_le htail
    · rw [hremoved]
      rcases hside hne with hdown | hright
      · exact hdown
      · exact Nat.le_trans hright hle
    · rw [hadded]
      rcases hside hne with hdown | hright
      · exact Nat.le_trans hdown (Nat.le_of_lt hlt)
      · exact hright

theorem kept_best_isGreatest (as bs : List α) :
    IsGreatest (commonLengths as bs) (best as bs).kept := by
  constructor
  · rw [← same_best]
    exact (best_isScript as bs).same_mem_commonLengths
  · rintro n ⟨s, hold, hnew, rfl⟩
    exact length_le_kept_best hold hnew

/-- The difference of two lists stands for both of them. It keeps as many lines
as the longest common subsequence has, and no other script removes or adds
fewer. -/
theorem diff_shortest (as bs : List α) :
    IsScript as bs (diff as bs) ∧
      ∃ longest, IsGreatest (commonLengths as bs) longest ∧
        (diff as bs).countP Entry.isSame = longest ∧
        counts (diff as bs) = ⟨bs.length - longest, as.length - longest⟩ ∧
        ∀ es, IsScript as bs es →
          (counts (diff as bs)).adds ≤ (counts es).adds ∧
            (counts (diff as bs)).removes ≤ (counts es).removes := by
  have hscript : IsScript as bs (diff as bs) := diff_eq_best as bs ▸ best_isScript as bs
  have hsame : (diff as bs).countP Entry.isSame = (best as bs).kept := by
    rw [diff_eq_best, same_best]
  have hgreatest := kept_best_isGreatest as bs
  have hcounts := hscript.counts_eq
  rw [hsame] at hcounts
  refine ⟨hscript, (best as bs).kept, hgreatest, hsame, hcounts, fun es hes => ?_⟩
  have hle : es.countP Entry.isSame ≤ (best as bs).kept := hgreatest.2 hes.same_mem_commonLengths
  rw [hcounts, hes.counts_eq]
  exact ⟨Nat.sub_le_sub_left hle _, Nat.sub_le_sub_left hle _⟩

example : diff ["a", "b", "c"] ["a", "x", "c", "d"] =
    [.same "a", .removed "b", .added "x", .same "c", .added "d"] := by
  decide

end ImageBuild.LineDiff
