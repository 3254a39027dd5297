import ImageBuild.Proofs.LineDiff.Shortest
import Mathlib.Data.List.Chain

/-!
# Removals come first

Where two lists diverge, their difference removes lines before it adds any. Among as
good choices it removes, so that a line is added only if that keeps more lines than to
remove one; and then it is not good to remove that one next, since fewer lines never
keep more. The main statement is `diff_removalsFirst`.
-/
namespace ImageBuild.LineDiff

variable {α : Type} {as bs : List α} {es : List (Entry α)}

/-- No line is removed right after one is added. -/
def RemovalsFirst (es : List (Entry α)) : Prop :=
  es.IsChain fun e f => e.isAdded = true → f.isRemoved = false

theorem removalsFirst_cons_iff {e : Entry α} :
    RemovalsFirst (e :: es) ↔
      (∀ f ∈ es.head?, e.isAdded = true → f.isRemoved = false) ∧ RemovalsFirst es :=
  List.isChain_cons

/-- Anything may follow an entry that does not add. -/
theorem RemovalsFirst.cons {e : Entry α} (h : RemovalsFirst es) (he : e.isAdded = false) :
    RemovalsFirst (e :: es) := by
  refine removalsFirst_cons_iff.2 ⟨?_, h⟩
  intro f _ hadded
  rw [he] at hadded
  cases hadded

theorem removalsFirst_map_added (bs : List α) : RemovalsFirst (bs.map Entry.added) := by
  induction bs with
  | nil => exact List.isChain_nil
  | cons b bs ih =>
    refine removalsFirst_cons_iff.2 ⟨?_, ih⟩
    intro f hf _
    obtain ⟨c, -, rfl⟩ := List.mem_map.1 (List.mem_of_mem_head? hf)
    rfl

theorem removalsFirst_map_removed (as : List α) : RemovalsFirst (as.map Entry.removed) := by
  induction as with
  | nil => exact List.isChain_nil
  | cons a as ih =>
    exact ih.cons rfl

/-- Entries that keep no line first remove and then add. -/
theorem RemovalsFirst.eq_append (h : RemovalsFirst es) (hrun : ∀ e ∈ es, e.isSame = false) :
    ∃ removed added : List α, es = removed.map Entry.removed ++ added.map Entry.added := by
  induction es with
  | nil => exact ⟨[], [], rfl⟩
  | cons e es ih =>
    obtain ⟨hhead, htail⟩ := removalsFirst_cons_iff.1 h
    obtain ⟨removed, added, rfl⟩ := ih htail fun f hf => hrun f (List.mem_cons_of_mem e hf)
    cases e with
    | same x => cases hrun (.same x) List.mem_cons_self
    | removed x => exact ⟨x :: removed, added, rfl⟩
    | added x =>
      cases removed with
      | nil => exact ⟨[], x :: added, rfl⟩
      | cons y removed => cases hhead (.removed y) rfl rfl

variable [DecidableEq α]

/-- More lines on either side never keep fewer. -/
theorem kept_best_mono {cs ds : List α} (hold : as.Sublist cs) (hnew : bs.Sublist ds) :
    (best as bs).kept ≤ (best cs ds).kept := by
  obtain ⟨s, hs, hs', hlength⟩ := (kept_best_isGreatest as bs).1
  rw [← hlength]
  exact length_le_kept_best (hs.trans hold) (hs'.trans hnew)

/-- Where leaving out a line of the new list keeps more lines than leaving out one of the
old list, the line of the old list is not left out next either. -/
theorem head_best_not_removed {a b : α}
    (h : (best as (b :: bs)).kept < (best (a :: as) bs).kept) :
    ∀ e ∈ (best (a :: as) bs).entries.head?, e.isRemoved = false := by
  intro e he
  cases bs with
  | nil => simp [best] at h
  | cons c bs =>
    have hmono : (best as (c :: bs)).kept ≤ (best as (b :: c :: bs)).kept :=
      kept_best_mono (List.Sublist.refl as) (List.sublist_cons_self b (c :: bs))
    rw [best] at h he
    rcases choose_cases a c (best as bs) (best as (c :: bs)) (best (a :: as) bs) with
      ⟨-, hsame⟩ | ⟨-, -, hremoved⟩ | ⟨-, -, hadded⟩
    · rw [hsame] at he
      cases he
      rfl
    · -- Without `a` no more lines are kept here than with `b` in front of them.
      rw [hremoved] at h
      exact absurd h (Nat.not_lt.2 hmono)
    · rw [hadded] at he
      cases he
      rfl

theorem best_removalsFirst (as bs : List α) : RemovalsFirst (best as bs).entries := by
  fun_induction best as bs with
  | case1 bs => exact removalsFirst_map_added bs
  | case2 a as => exact removalsFirst_map_removed (a :: as)
  | case3 a as b bs both down right =>
    rcases choose_cases a b (best as bs) (best as (b :: bs)) (best (a :: as) bs) with
      ⟨-, hsame⟩ | ⟨-, -, hremoved⟩ | ⟨-, hlt, hadded⟩
    · rw [hsame]
      exact both.cons rfl
    · rw [hremoved]
      exact down.cons rfl
    · rw [hadded]
      exact removalsFirst_cons_iff.2 ⟨fun e he _ => head_best_not_removed hlt e he, right⟩

/-- In a difference no added line stands right before a removed one. So of the entries
between two kept lines, or before the first or after the last, those that remove come
before those that add. -/
theorem diff_removalsFirst (as bs : List α) :
    (∀ before x y after, diff as bs ≠ before ++ .added x :: .removed y :: after) ∧
      ∀ before run after, diff as bs = before ++ run ++ after → (∀ e ∈ run, e.isSame = false) →
        ∃ removed added : List α,
          run = removed.map Entry.removed ++ added.map Entry.added := by
  have hfirst : RemovalsFirst (diff as bs) := diff_eq_best as bs ▸ best_removalsFirst as bs
  constructor
  · intro before x y after h
    rw [h] at hfirst
    cases (List.isChain_append_cons_cons.1 hfirst).2.1 rfl
  · intro before run after h hrun
    have hinfix : run <:+: diff as bs := ⟨before, after, h.symm⟩
    have hpart : RemovalsFirst run := List.IsChain.infix hfirst hinfix
    exact RemovalsFirst.eq_append hpart hrun

end ImageBuild.LineDiff
