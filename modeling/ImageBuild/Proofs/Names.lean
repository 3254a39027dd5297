import ImageBuild.Build.Credential
import Mathlib.Data.List.Basic
import Mathlib.Data.List.Induction

/-!
# Names in the order of their first occurrences

Reading a list of names from left to right, a name is kept if it is not empty and new. So
what is kept stands in the order of the first occurrences. The main statement is
`names_areFirst`.
-/
namespace ImageBuild

/-- The names of a list that are not empty, each once, in the order in which they first
occur. -/
structure AreFirst (all firsts : List String) : Prop where
  mem_iff : ∀ n, n ∈ firsts ↔ n ≠ "" ∧ n ∈ all
  ordered : firsts.Pairwise fun m n => all.idxOf m < all.idxOf n

variable {all firsts : List String}

theorem AreFirst.nodup (h : AreFirst all firsts) : firsts.Nodup :=
  h.ordered.imp fun hlt => ne_of_apply_ne all.idxOf (Nat.ne_of_lt hlt)

theorem names_eq_eraseDups (all : List String) :
    names all = (all.filter (· ≠ "")).eraseDups := by
  have hfilled : (all.filter fun n => !n.isEmpty) = all.filter (· ≠ "") :=
    List.filter_congr fun n _ => by rw [Bool.eq_iff_iff]; simp
  rw [names, hfilled]

theorem mem_names {n : String} : n ∈ names all ↔ n ≠ "" ∧ n ∈ all := by
  simp [names_eq_eraseDups, and_comm]

/-- A further name is kept if it is not empty and new. -/
theorem names_concat (all : List String) (n : String) :
    names (all ++ [n]) = names all ++ if n = "" ∨ n ∈ all then [] else [n] := by
  rw [names_eq_eraseDups, names_eq_eraseDups, List.filter_append, List.eraseDups_append]
  congr 1
  by_cases hn : n = ""
  · simp [hn]
  · by_cases hmem : n ∈ all <;> simp [hn, hmem, List.removeAll, List.eraseDups_cons]

/-- By induction on the part of the list that has been read. -/
theorem names_areFirst (all : List String) : AreFirst all (names all) where
  mem_iff _ := mem_names
  ordered := by
    induction all using List.reverseRecOn with
    | nil => exact .nil
    | append_singleton all n ih =>
      have hread : (names all).Pairwise fun l m => (all ++ [n]).idxOf l < (all ++ [n]).idxOf m := by
        refine ih.imp_of_mem fun hl hm hlt => ?_
        rwa [List.idxOf_append_of_mem (mem_names.1 hl).2,
          List.idxOf_append_of_mem (mem_names.1 hm).2]
      rw [names_concat]
      split
      next => rwa [List.append_nil]
      next hnew =>
        obtain ⟨-, hnew⟩ := not_or.1 hnew
        refine List.pairwise_append.2 ⟨hread, List.pairwise_singleton _ _, fun m hm l hl => ?_⟩
        -- What is new occurs behind all that has been read.
        rw [List.mem_singleton.1 hl, List.idxOf_append_of_mem (mem_names.1 hm).2,
          List.idxOf_append_of_notMem hnew]
        exact Nat.lt_add_right _ (List.idxOf_lt_length_of_mem (mem_names.1 hm).2)

end ImageBuild
