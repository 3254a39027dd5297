import ImageBuild.Proofs.Change.Decision

/-!
# The order of buildpacks is no change

Snapshots list their buildpacks and extensions in any order, with repetitions. The
candidate changes hold both lists in order, so that all arrangements of two snapshots
give the same candidates, and with them the same summary or the same failure. The main
statement is `summarize_rearranged`.
-/
namespace ImageBuild

/-- In order, all arrangements of two lists make one change. -/
theorem Change.sorted_eq_of_perm {as as' bs bs' : List Buildpack} (reason : BuildReason)
    (hold : as.Perm as') (hnew : bs.Perm bs') :
    buildpacks reason (Buildpack.sort as) (Buildpack.sort bs) =
      buildpacks reason (Buildpack.sort as') (Buildpack.sort bs') := by
  rw [Buildpack.sort_eq_sort_iff.2 hold, Buildpack.sort_eq_sort_iff.2 hnew]

namespace BuildSnapshot

variable {old new old' new' : BuildSnapshot}

/-- Two snapshots differ at most in the order of their buildpacks and of their
extensions. -/
structure Rearranges (s t : BuildSnapshot) : Prop where
  buildpacks : s.buildpacks.Perm t.buildpacks
  extensions : s.extensions.Perm t.extensions
  others : { s with buildpacks := t.buildpacks, extensions := t.extensions } = t

theorem changes_rearranged (hold : old.Rearranges old') (hnew : new.Rearranges new') :
    old.changes new = old'.changes new' := by
  have hbuildpacks : Change.ofBuildpacks old.buildpacks new.buildpacks =
      .ofBuildpacks old'.buildpacks new'.buildpacks :=
    Change.sorted_eq_of_perm .buildpack hold.buildpacks hnew.buildpacks
  have hextensions : Change.ofExtensions old.extensions new.extensions =
      .ofExtensions old'.extensions new'.extensions :=
    Change.sorted_eq_of_perm .extension hold.extensions hnew.extensions
  rw [changes, hbuildpacks, hextensions, ← hold.others, ← hnew.others]
  rfl

/-- The summary of two snapshots, or the reason why there is none, does not depend on the
order of buildpacks and extensions on either side. A change of buildpacks, whether its
lists were put in order or not, requires a build exactly if they are no arrangements of
each other. -/
theorem summarize_rearranged (hold : old.Rearranges old') (hnew : new.Rearranges new') :
    old.summarize new = old'.summarize new' ∧
      ∀ reason as bs,
        ∀ c ∈ [Change.buildpacks reason as bs, .ofBuildpacks as bs, .ofExtensions as bs],
          c.required = .ok (decide (¬ as.Perm bs)) := by
  constructor
  · rw [summarize, summarize, changes_rearranged hold hnew]
  · intro reason as bs c hc
    simp only [List.mem_cons, List.not_mem_nil, or_false] at hc
    rcases hc with rfl | rfl | rfl
    · exact Change.required_buildpacks reason as bs
    · exact Change.required_sorted .buildpack as bs
    · exact Change.required_sorted .extension as bs

/-- A snapshot with some versions of one buildpack and of one extension. -/
def ofVersions (buildpacks extensions : List String) : BuildSnapshot :=
  { atCommit "a" '0' with
    buildpacks := buildpacks.map (Buildpack.mk "java")
    extensions := extensions.map (Buildpack.mk "curl") }

theorem repeatedVersions_rearranged :
    (ofVersions ["2", "1", "2"] ["", "8"]).Rearranges (ofVersions ["2", "2", "1"] ["8", ""]) ∧
      (ofVersions ["1", "2", "1"] ["8"]).Rearranges (ofVersions ["1", "1", "2"] ["8"]) ∧
      (ofVersions ["2", "1", "2"] ["", "8"]).summarize (ofVersions ["1", "2", "1"] ["8"]) =
        (ofVersions ["2", "2", "1"] ["8", ""]).summarize (ofVersions ["1", "1", "2"] ["8"]) ∧
      (Change.buildpacks .buildpack [⟨"java", "2"⟩, ⟨"java", "1"⟩]
        [⟨"java", "1"⟩, ⟨"java", "2"⟩]).required = .ok false := by
  have hold : (ofVersions ["2", "1", "2"] ["", "8"]).Rearranges
      (ofVersions ["2", "2", "1"] ["8", ""]) :=
    ⟨by decide, by decide, rfl⟩
  have hnew : (ofVersions ["1", "2", "1"] ["8"]).Rearranges (ofVersions ["1", "1", "2"] ["8"]) :=
    ⟨by decide, by decide, rfl⟩
  obtain ⟨hsame, hrequired⟩ := summarize_rearranged hold hnew
  have hraw := hrequired .buildpack [⟨"java", "2"⟩, ⟨"java", "1"⟩]
    [⟨"java", "1"⟩, ⟨"java", "2"⟩] _ List.mem_cons_self
  exact ⟨hold, hnew, hsame, hraw.trans (congrArg Except.ok (by decide))⟩

end BuildSnapshot

end ImageBuild
