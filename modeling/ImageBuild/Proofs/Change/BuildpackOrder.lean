import ImageBuild.Change.Basic

/-!
# The order of buildpacks

Buildpacks are compared by name, then by version. No two of them tie, so that
sorting gives one list for all arrangements of the same buildpacks, repeated
ones included. The main statement is `sort_eq_sort_iff`.
-/
namespace ImageBuild.Buildpack

theorem le_iff {a b : Buildpack} :
    a.le b = true ↔ a.id < b.id ∨ a.id = b.id ∧ a.version ≤ b.version := by
  simp [le]

theorem le_total (a b : Buildpack) : (a.le b || b.le a) = true := by
  rw [Bool.or_eq_true, le_iff, le_iff]
  by_cases hid : a.id = b.id
  · rcases String.le_total a.version b.version with h | h
    · exact .inl (.inr ⟨hid, h⟩)
    · exact .inr (.inr ⟨hid.symm, h⟩)
  · rcases String.le_total a.id b.id with h | h
    · exact .inl (.inl (Std.lt_of_le_of_ne h hid))
    · exact .inr (.inl (Std.lt_of_le_of_ne h (Ne.symm hid)))

theorem le_trans (a b c : Buildpack) (hab : a.le b = true) (hbc : b.le c = true) :
    a.le c = true := by
  rw [le_iff] at hab hbc ⊢
  rcases hab with hab | ⟨hab, hv⟩
  · rcases hbc with hbc | ⟨hbc, -⟩
    · exact .inl (String.lt_trans hab hbc)
    · exact .inl (hbc ▸ hab)
  · rcases hbc with hbc | ⟨hbc, hw⟩
    · exact .inl (hab ▸ hbc)
    · exact .inr ⟨hab.trans hbc, String.le_trans hv hw⟩

theorem le_antisymm {a b : Buildpack} (hab : a.le b = true) (hba : b.le a = true) : a = b := by
  rw [le_iff] at hab hba
  rcases hab with hab | ⟨hid, hv⟩
  · rcases hba with hba | ⟨hid, -⟩
    · exact absurd hba (String.lt_asymm hab)
    · exact absurd hid.symm (String.ne_of_lt hab)
  · rcases hba with hba | ⟨-, hw⟩
    · exact absurd hid.symm (String.ne_of_lt hba)
    · obtain ⟨id, version⟩ := a
      cases hid
      cases String.le_antisymm hv hw
      rfl

theorem sort_perm (bs : List Buildpack) : (sort bs).Perm bs := List.mergeSort_perm bs le

theorem sort_pairwise (bs : List Buildpack) : (sort bs).Pairwise fun a b => a.le b = true :=
  List.pairwise_mergeSort le_trans le_total bs

/-- Sorted lists are equal exactly for equal multisets. -/
theorem sort_eq_sort_iff {as bs : List Buildpack} : sort as = sort bs ↔ as.Perm bs := by
  constructor
  · intro h
    exact (sort_perm as).symm.trans (h ▸ sort_perm bs)
  · intro h
    have hperm : (sort as).Perm (sort bs) := (sort_perm as).trans (h.trans (sort_perm bs).symm)
    exact hperm.eq_of_pairwise (fun _ _ _ _ => le_antisymm) (sort_pairwise as) (sort_pairwise bs)

/-- What is sorted already stays as it is. -/
theorem sort_sort (bs : List Buildpack) : sort (sort bs) = sort bs :=
  sort_eq_sort_iff.2 (sort_perm bs)

end ImageBuild.Buildpack
