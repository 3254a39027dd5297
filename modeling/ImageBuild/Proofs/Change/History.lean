import ImageBuild.Proofs.Change.Decision

/-!
# Runs over snapshots

A run keeps the last snapshot that required a build and compares the next one
with it. Whatever snapshots come in whatever order, each one that could be
compared leaves nothing behind: the kept snapshot then agrees with it in all that
decides about builds. The main statement is `visits_covered`.
-/
namespace ImageBuild

namespace BuildSnapshot

variable {old new last s : BuildSnapshot}

/-- The snapshot that is kept once another has been seen: that one if it
requires a build. -/
def advance (last s : BuildSnapshot) : BuildSnapshot :=
  match last.summarize s with
  | .ok summary => if summary.hasChanges then s else last
  | .error _ => last

/-- What one snapshot of a run came to, and what is kept after it. -/
structure Visit where
  snapshot : BuildSnapshot
  outcome : Except ChangeError ChangeSummary
  kept : BuildSnapshot

/-- The visits of a run that has kept `last` so far. -/
def visits (last : BuildSnapshot) : List BuildSnapshot → List Visit
  | [] => []
  | s :: ss => ⟨s, last.summarize s, last.advance s⟩ :: visits (last.advance s) ss

/-- Two run images need no rebuild of one another. -/
def SameStack (a b : String) : Prop :=
  a = b ∨ (∃ d, ImageReference.digestOf a = some d ∧ ImageReference.digestOf b = some d) ∨
    a = "" ∨ b = ""

/-- A build of `last` leaves nothing of `s` to be built. -/
structure Covers (last s : BuildSnapshot) : Prop where
  config : last.config = s.config
  buildpacks : last.buildpacks.Perm s.buildpacks
  extensions : last.extensions.Perm s.extensions
  runImage : SameStack last.runImage s.runImage
  settled : ∀ summary, last.summarize s = .ok summary → summary.hasChanges = false

/-- A summary speaks of changes exactly if some reason is due. -/
theorem hasChanges_iff {summary : ChangeSummary} (h : old.summarize new = .ok summary) :
    summary.hasChanges = true ↔ ∃ r, Due old new r := by
  obtain ⟨hf, rfl⟩ := ChangeSummary.ofChanges_eq_ok_iff.1 h
  have hdue := reasons_requiredChanges (failures_changes_eq_nil_iff.1 hf)
  have hflag : (ChangeSummary.ofRequired (ChangeSummary.requiredChanges
      (old.changes new))).hasChanges = true ↔ dueReasons old new ≠ [] := by
    rw [← hdue]
    simp [ChangeSummary.ofRequired]
  rw [hflag]
  constructor
  · intro hne
    obtain ⟨r, hr⟩ := List.exists_mem_of_ne_nil _ hne
    exact ⟨r, mem_dueReasons.1 hr⟩
  · rintro ⟨r, hr⟩
    exact List.ne_nil_of_mem (mem_dueReasons.2 hr)

theorem not_due_self (r : BuildReason) : ¬ Due s s r := by
  cases r with
  | trigger => exact fun h => h.2.2 rfl
  | commit =>
    intro h
    obtain ⟨a, b, ha, hb, hne⟩ := SourceConfig.moved_iff.1 h
    exact hne (Option.some.inj (ha.symm.trans hb))
  | config => simp [Due, SourceConfig.SameButRevision.refl]
  | buildpack => exact fun h => h (List.Perm.refl _)
  | extension => exact fun h => h (List.Perm.refl _)
  | stack => exact fun h => h.2.2 rfl

theorem config_eq (hconfig : ¬ Due last s .config) (hcommit : ¬ Due last s .commit) :
    last.config = s.config := by
  simp only [Due, not_or, ne_eq, not_not] at hconfig
  obtain ⟨henv, hresources, hservices, hsource⟩ := hconfig
  have hsource := hsource.eq_of_not_moved hcommit
  cases hl : last.config
  cases hs : s.config
  simp only [hl, hs] at henv hresources hservices hsource
  rw [henv, hresources, hservices, hsource]

theorem sameStack_of_not_due (hc : ¬ Incomparable last s) (h : ¬ Due last s .stack) :
    SameStack last.runImage s.runImage := by
  by_cases hl : last.runImage = ""
  · exact .inr (.inr (.inl hl))
  · by_cases hs : s.runImage = ""
    · exact .inr (.inr (.inr hs))
    · have hsome := fun hd => hc ⟨hl, hs, hd⟩
      obtain ⟨d, hd⟩ := Option.ne_none_iff_exists'.1 (not_or.1 hsome).1
      have heq : ImageReference.digestOf last.runImage = ImageReference.digestOf s.runImage :=
        not_not.1 fun hne => h ⟨hl, hs, hne⟩
      exact .inr (.inl ⟨d, hd, heq ▸ hd⟩)

theorem covers_of_not_due (hc : ¬ Incomparable last s) (h : ∀ r, ¬ Due last s r) :
    Covers last s where
  config := config_eq (h .config) (h .commit)
  buildpacks := not_not.1 (h .buildpack)
  extensions := not_not.1 (h .extension)
  runImage := sameStack_of_not_due hc (h .stack)
  settled summary hs := by
    rw [← Bool.not_eq_true, hasChanges_iff hs]
    rintro ⟨r, hr⟩
    exact h r hr

theorem covers_self (s : BuildSnapshot) : Covers s s where
  config := rfl
  buildpacks := .refl _
  extensions := .refl _
  runImage := .inl rfl
  settled summary hs := by
    rw [← Bool.not_eq_true, hasChanges_iff hs]
    rintro ⟨r, hr⟩
    exact not_due_self r hr

/-- One step: what is kept covers a snapshot that could be compared. -/
theorem advance_covers {summary : ChangeSummary} (h : last.summarize s = .ok summary) :
    Covers (last.advance s) s := by
  unfold advance
  rw [h]
  dsimp only
  split
  next hchanges => exact covers_self s
  next hchanges =>
    have hdue : ∀ r, ¬ Due last s r := fun r hr => hchanges ((hasChanges_iff h).2 ⟨r, hr⟩)
    have hc := failures_changes_eq_nil_iff.1 (ChangeSummary.ofChanges_eq_ok_iff.1 h).1
    exact covers_of_not_due hc hdue

theorem advance_of_due {r : BuildReason} (hc : ¬ Incomparable last s) (h : Due last s r) :
    last.advance s = s := by
  have hs := summarize_eq_ok hc
  have hchanges := (hasChanges_iff hs).2 ⟨r, h⟩
  unfold advance
  rw [hs]
  exact if_pos hchanges

/-- Every visit is one step from what was kept before it. -/
theorem exists_of_mem_visits {first : BuildSnapshot} {ss : List BuildSnapshot} {v : Visit}
    (hv : v ∈ visits first ss) :
    ∃ last : BuildSnapshot,
      v.outcome = last.summarize v.snapshot ∧ v.kept = last.advance v.snapshot := by
  induction ss generalizing first with
  | nil => cases hv
  | cons s ss ih =>
    rcases List.mem_cons.1 hv with rfl | hv
    · exact ⟨first, rfl, rfl⟩
    · exact ih hv

/-- In a run over any snapshots, each one that could be compared is covered by
what is kept right after it. -/
theorem visits_covered (first : BuildSnapshot) (ss : List BuildSnapshot) (v : Visit)
    (hv : v ∈ visits first ss) (summary : ChangeSummary) (hok : v.outcome = .ok summary) :
    Covers v.kept v.snapshot := by
  obtain ⟨last, houtcome, hkept⟩ := exists_of_mem_visits hv
  rw [hkept]
  exact advance_covers (houtcome.symm.trans hok)

/-- A snapshot of an archive, on a run image that is not known. -/
def atArchive : BuildSnapshot :=
  { atCommit "" '0' with
    config := ⟨[], .none, [], ⟨.blob ⟨"https://host/app.tgz", 0, false⟩, none⟩⟩
    runImage := "" }

theorem commit_covered_after_archive :
    ∃ v ∈ visits (atCommit "a" '0') [atArchive, atCommit "b" '1'],
      (∃ summary, v.outcome = .ok summary) ∧ Covers v.kept v.snapshot := by
  have hfirst : (atCommit "a" '0').advance atArchive = atArchive :=
    advance_of_due (by decide) (show Due _ _ .config by decide)
  have hok : atArchive.summarize (atCommit "b" '1') = .ok _ := summarize_eq_ok (by decide)
  have hv : ⟨atCommit "b" '1', atArchive.summarize (atCommit "b" '1'),
      atArchive.advance (atCommit "b" '1')⟩ ∈
        visits (atCommit "a" '0') [atArchive, atCommit "b" '1'] := by
    simp [visits, hfirst]
  exact ⟨_, hv, ⟨_, hok⟩, visits_covered _ _ _ hv _ hok⟩

end BuildSnapshot

end ImageBuild
