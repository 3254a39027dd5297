import ImageBuild.Proofs.Change.Summary
import Mathlib.Logic.Basic

/-!
# Which snapshots require a build

`Due` states for each reason when it calls for a build, by the two snapshots
alone. The summary of two snapshots lists exactly the reasons that are due, and
there is none exactly if run images are known on both sides and one of them has
no digest to compare. The main statement is `summarize_decides`.
-/
namespace ImageBuild

open ChangeSummary (failures requiredChanges ofRequired)

/-- Reasons that follow from what a user did are urgent. -/
def BuildReason.priority : BuildReason → Priority
  | .trigger | .commit | .config => .high
  | .buildpack | .extension | .stack => .low

namespace BuildSnapshot

/-- When a reason calls for a build. -/
def Due (old new : BuildSnapshot) : BuildReason → Prop
  | .trigger =>
    new.triggeredAt ≠ none ∧ new.triggeredAt ≠ some "" ∧ new.triggeredAt ≠ old.triggeredAt
  | .commit => old.config.source.Moved new.config.source
  | .config =>
    old.config.env ≠ new.config.env ∨ old.config.resources ≠ new.config.resources ∨
      old.config.services ≠ new.config.services ∨
      ¬ old.config.source.SameButRevision new.config.source
  | .buildpack => ¬ old.buildpacks.Perm new.buildpacks
  | .extension => ¬ old.extensions.Perm new.extensions
  | .stack =>
    old.runImage ≠ "" ∧ new.runImage ≠ "" ∧
      ImageReference.digestOf old.runImage ≠ ImageReference.digestOf new.runImage

instance (old new : BuildSnapshot) : DecidablePred (Due old new)
  | .trigger => inferInstanceAs (Decidable (_ ∧ _ ∧ _))
  | .commit => inferInstanceAs (Decidable (SourceConfig.Moved _ _))
  | .config => inferInstanceAs (Decidable (_ ∨ _ ∨ _ ∨ _))
  | .buildpack => inferInstanceAs (Decidable (¬ List.Perm _ _))
  | .extension => inferInstanceAs (Decidable (¬ List.Perm _ _))
  | .stack => inferInstanceAs (Decidable (_ ∧ _ ∧ _))

/-- The order in which reasons are listed. -/
def reasonOrder : List BuildReason := [.trigger, .commit, .config, .buildpack, .extension, .stack]

def dueReasons (old new : BuildSnapshot) : List BuildReason := reasonOrder.filter (Due old new)

/-- The reasons with their names, in the order in which they are listed. -/
def reasonNames : List (BuildReason × String) :=
  [(.trigger, "TRIGGER"), (.commit, "COMMIT"), (.config, "CONFIG"), (.buildpack, "BUILDPACK"),
    (.extension, "EXTENSION"), (.stack, "STACK")]

def dueNames (old new : BuildSnapshot) : List String :=
  (reasonNames.filter fun e => Due old new e.1).map Prod.snd

/-- Run images are known on both sides, and one of them has no digest. -/
def Incomparable (old new : BuildSnapshot) : Prop :=
  old.runImage ≠ "" ∧ new.runImage ≠ "" ∧
    (ImageReference.digestOf old.runImage = none ∨ ImageReference.digestOf new.runImage = none)

instance (old new : BuildSnapshot) : Decidable (Incomparable old new) :=
  inferInstanceAs (Decidable (_ ∧ _ ∧ (_ ∨ _)))

/-- The urgency of a list of reasons. -/
def urgency (rs : List BuildReason) : Priority :=
  if .trigger ∈ rs ∨ .commit ∈ rs ∨ .config ∈ rs then .high
  else if rs = [] then .none
  else .low

variable {old new : BuildSnapshot}

theorem mem_dueReasons {r : BuildReason} : r ∈ dueReasons old new ↔ Due old new r := by
  have horder : r ∈ reasonOrder := by cases r <;> decide
  simp [dueReasons, horder]

/-- No reason but one is due. -/
theorem dueReasons_eq_singleton_iff {r : BuildReason} :
    dueReasons old new = [r] ↔ ∀ q, Due old new q ↔ q = r := by
  constructor
  · intro h q
    rw [← mem_dueReasons, h, List.mem_singleton]
  · intro h
    have hfilter : dueReasons old new = reasonOrder.filter (· = r) :=
      List.filter_congr fun q _ => by simp [h q]
    rw [hfilter]
    cases r <;> decide

/-- The names are the texts of the reasons. -/
theorem dueNames_eq (old new : BuildSnapshot) :
    dueNames old new = (dueReasons old new).map BuildReason.text := by
  have hnames : reasonNames = reasonOrder.map fun r => (r, r.text) := rfl
  simp [dueNames, dueReasons, hnames, List.filter_map, Function.comp_def]

theorem stackChange_of_known (ho : old.runImage ≠ "") (hn : new.runImage ≠ "") :
    stackChange old new = [.stack old.runImage new.runImage] := by
  simp [stackChange, ho, hn]

theorem stackChange_of_unknown (h : old.runImage = "" ∨ new.runImage = "") :
    stackChange old new = [] := by
  rcases h with h | h <;> simp [stackChange, h]

/-- The candidates one after the other, in the order of their reasons. -/
theorem changes_eq (old new : BuildSnapshot) :
    old.changes new = triggerChange old new ++ (commitChange old new ++
      ([.config old.config new.config] ++ ([.ofBuildpacks old.buildpacks new.buildpacks] ++
        ([.ofExtensions old.extensions new.extensions] ++ stackChange old new)))) := by
  simp [changes]

/-- The forms that a candidate can have. A commit compares the revisions of the snapshots. -/
theorem mem_changes {c : Change} (h : c ∈ old.changes new) :
    (∃ time, c = .triggered time) ∨
      (∃ a b, c = .commit a b ∧ old.config.source.revision = some a ∧
        new.config.source.revision = some b) ∨
      c = .config old.config new.config ∨ c = .ofBuildpacks old.buildpacks new.buildpacks ∨
      c = .ofExtensions old.extensions new.extensions ∨
      c = .stack old.runImage new.runImage := by
  simp only [changes_eq, List.mem_append, List.mem_singleton] at h
  rcases h with h | h | h | h | h | h
  · unfold triggerChange at h
    split at h
    next time ht =>
      split at h
      · cases h
      · exact .inl ⟨time, List.mem_singleton.1 h⟩
    next => cases h
  · unfold commitChange at h
    split at h
    next a b ha hb => exact .inr (.inl ⟨a, b, List.mem_singleton.1 h, ha, hb⟩)
    next => cases h
  · exact .inr (.inr (.inl h))
  · exact .inr (.inr (.inr (.inl h)))
  · exact .inr (.inr (.inr (.inr (.inl h))))
  · unfold stackChange at h
    split at h
    · cases h
    · exact .inr (.inr (.inr (.inr (.inr (List.mem_singleton.1 h)))))

theorem failures_triggerChange (old new : BuildSnapshot) :
    failures (triggerChange old new) = [] := by
  unfold triggerChange
  split
  · split <;> rfl
  · rfl

theorem failures_commitChange (old new : BuildSnapshot) : failures (commitChange old new) = [] := by
  unfold commitChange
  split <;> rfl

/-- Of the candidates, only the change of run images can fail to be decided. -/
theorem failures_changes (old new : BuildSnapshot) :
    failures (old.changes new) = failures (stackChange old new) := by
  simp only [changes_eq, ChangeSummary.failures_append, failures_triggerChange,
    failures_commitChange]
  rfl

theorem failures_changes_eq_nil_iff : failures (old.changes new) = [] ↔ ¬ Incomparable old new := by
  rw [failures_changes]
  by_cases h : old.runImage = "" ∨ new.runImage = ""
  · have hc : ¬ Incomparable old new := by
      rintro ⟨ho, hn, -⟩
      rcases h with h | h
      · exact ho h
      · exact hn h
    rw [stackChange_of_unknown h]
    exact iff_of_true rfl hc
  · obtain ⟨ho, hn⟩ := not_or.1 h
    rw [stackChange_of_known ho hn, ChangeSummary.failures_eq_nil_iff]
    simp only [List.mem_singleton, forall_eq, Incomparable, ne_eq, ho, hn, not_false_eq_true,
      true_and, ← Change.required_stack_eq_error_iff, not_exists]

/-- A candidate contributes its reason if it requires a build. -/
theorem reasons_singleton {c : Change} {P : Prop} [Decidable P] (h : c.required = .ok true ↔ P) :
    (requiredChanges [c]).map Change.reason = if P then [c.reason] else [] := by
  by_cases hp : P
  · rw [if_pos hp]
    simp [requiredChanges, h.2 hp]
  · rw [if_neg hp, ChangeSummary.requiredChanges_singleton_of_not fun hc => hp (h.1 hc)]
    rfl

theorem reasons_triggerChange (old new : BuildSnapshot) :
    (requiredChanges (triggerChange old new)).map Change.reason =
      if Due old new .trigger then [.trigger] else [] := by
  cases ht : new.triggeredAt with
  | none => simp [triggerChange, Due, ht, requiredChanges]
  | some time =>
    by_cases h : time = "" ∨ old.triggeredAt = some time
    · have hdue : ¬ Due old new .trigger := by
        rintro ⟨-, hempty, hold⟩
        rcases h with rfl | h
        · exact hempty ht
        · exact hold (ht.trans h.symm)
      simp [triggerChange, ht, h, hdue, requiredChanges]
    · have hdue : Due old new .trigger := by
        obtain ⟨hempty, hold⟩ := not_or.1 h
        refine ⟨by simp [ht], ?_, ?_⟩
        · simpa [ht] using hempty
        · intro he
          exact hold (he.symm.trans ht)
      rw [if_pos hdue]
      simp [triggerChange, ht, h, requiredChanges, Change.required_triggered]
      rfl

theorem reasons_commitChange (old new : BuildSnapshot) :
    (requiredChanges (commitChange old new)).map Change.reason =
      if Due old new .commit then [.commit] else [] := by
  cases ho : old.config.source.revision with
  | none => simp [commitChange, Due, SourceConfig.moved_iff, ho, requiredChanges]
  | some a =>
    cases hn : new.config.source.revision with
    | none => simp [commitChange, Due, SourceConfig.moved_iff, ho, hn, requiredChanges]
    | some b =>
      have hdue : (Change.commit a b).required = .ok true ↔ Due old new .commit := by
        simp [Change.required_commit_iff, Due, SourceConfig.moved_iff, ho, hn]
      rw [commitChange, ho, hn]
      exact reasons_singleton hdue

theorem reasons_stackChange (h : ¬ Incomparable old new) :
    (requiredChanges (stackChange old new)).map Change.reason =
      if Due old new .stack then [.stack] else [] := by
  by_cases hknown : old.runImage = "" ∨ new.runImage = ""
  · have hdue : ¬ Due old new .stack := by
      rintro ⟨ho, hn, -⟩
      rcases hknown with hk | hk
      · exact ho hk
      · exact hn hk
    rw [stackChange_of_unknown hknown, if_neg hdue]
    rfl
  · obtain ⟨ho, hn⟩ := not_or.1 hknown
    have hdigests := fun hd => h ⟨ho, hn, hd⟩
    obtain ⟨hod, hnd⟩ := not_or.1 hdigests
    obtain ⟨d, hd⟩ := Option.ne_none_iff_exists'.1 hod
    obtain ⟨e, he⟩ := Option.ne_none_iff_exists'.1 hnd
    have hdue : (Change.stack old.runImage new.runImage).required = .ok true ↔
        Due old new .stack := by
      rw [Change.required_stack_of_digests hd he]
      simp [Due, ho, hn, hd, he]
    rw [stackChange_of_known ho hn]
    exact reasons_singleton hdue

theorem dueReasons_eq (old new : BuildSnapshot) :
    dueReasons old new = (if Due old new .trigger then [.trigger] else []) ++
      ((if Due old new .commit then [.commit] else []) ++
        ((if Due old new .config then [.config] else []) ++
          ((if Due old new .buildpack then [.buildpack] else []) ++
            ((if Due old new .extension then [.extension] else []) ++
              if Due old new .stack then [.stack] else [])))) := by
  have hone : ∀ r, [r].filter (Due old new) = if Due old new r then [r] else [] := by
    intro r
    by_cases h : Due old new r <;> simp [h]
  have horder : reasonOrder = [.trigger] ++ ([.commit] ++ ([.config] ++ ([.buildpack] ++
      ([.extension] ++ [.stack])))) := rfl
  rw [dueReasons, horder]
  simp only [List.filter_append, hone]

/-- The changes that require a build have the reasons that are due. -/
theorem reasons_requiredChanges (h : ¬ Incomparable old new) :
    (requiredChanges (old.changes new)).map Change.reason = dueReasons old new := by
  have hconfig := reasons_singleton (c := .config old.config new.config)
    (P := Due old new .config) (by
      rw [Change.required_config_iff, ne_eq, BuildConfig.withoutRevision_eq_iff]
      simp only [Due, not_and_or, ne_eq])
  have hbuildpacks := reasons_singleton (c := .ofBuildpacks old.buildpacks new.buildpacks)
    (P := Due old new .buildpack) Change.required_ofBuildpacks_iff
  have hextensions := reasons_singleton (c := .ofExtensions old.extensions new.extensions)
    (P := Due old new .extension) Change.required_ofExtensions_iff
  simp only [changes_eq, ChangeSummary.requiredChanges_append, List.map_append,
    reasons_triggerChange, reasons_commitChange, hconfig, hbuildpacks, hextensions,
    reasons_stackChange h, dueReasons_eq]
  rfl

/-- The reason of a candidate settles its priority. -/
theorem priority_of_mem_changes {c : Change} (h : c ∈ old.changes new) :
    c.priority = c.reason.priority := by
  rcases mem_changes h with ⟨time, rfl⟩ | ⟨a, b, rfl, -, -⟩ | rfl | rfl | rfl | rfl
  all_goals rfl

theorem foldl_max_high (rs : List BuildReason) :
    (rs.map BuildReason.priority).foldl Priority.max .high = .high := by
  induction rs with
  | nil => rfl
  | cons r rs ih =>
    have h : Priority.max .high r.priority = .high := by cases r <;> decide
    rw [List.map_cons, List.foldl_cons, h, ih]

theorem foldl_max_low (rs : List BuildReason) :
    (rs.map BuildReason.priority).foldl Priority.max .low =
      if .trigger ∈ rs ∨ .commit ∈ rs ∨ .config ∈ rs then .high else .low := by
  induction rs with
  | nil => rfl
  | cons r rs ih =>
    have hmax : Priority.max .low r.priority = r.priority := by cases r <;> decide
    rw [List.map_cons, List.foldl_cons, hmax]
    cases r with
    | trigger | commit | config => simp [BuildReason.priority, foldl_max_high]
    | buildpack | extension | stack => simp [BuildReason.priority, ih]

theorem foldl_max_none (rs : List BuildReason) :
    (rs.map BuildReason.priority).foldl Priority.max .none = urgency rs := by
  cases rs with
  | nil => rfl
  | cons r rs =>
    have hmax : Priority.max .none r.priority = Priority.max .low r.priority := by
      cases r <;> decide
    have hlow := foldl_max_low (r :: rs)
    rw [List.map_cons, List.foldl_cons] at hlow
    rw [List.map_cons, List.foldl_cons, hmax, hlow]
    simp [urgency]

theorem priority_ofRequired (h : ¬ Incomparable old new) :
    (ofRequired (requiredChanges (old.changes new))).priority = urgency (dueReasons old new) := by
  have hpriority : (requiredChanges (old.changes new)).map Change.priority =
      (dueReasons old new).map BuildReason.priority := by
    rw [← reasons_requiredChanges h, List.map_map]
    apply List.map_congr_left
    intro c hc
    exact priority_of_mem_changes (ChangeSummary.mem_requiredChanges.1 hc).1
  rw [ofRequired, hpriority, foldl_max_none]

theorem summarize_eq_ok (h : ¬ Incomparable old new) :
    old.summarize new = .ok (ofRequired (requiredChanges (old.changes new))) :=
  ChangeSummary.ofChanges_of_failures_eq_nil (failures_changes_eq_nil_iff.2 h)

theorem summarize_eq_error_iff : (∃ e, old.summarize new = .error e) ↔ Incomparable old new := by
  constructor
  · rintro ⟨e, he⟩
    have hf : failures (old.changes new) ≠ [] := (ChangeSummary.ofChanges_eq_error_iff.1 he).1
    exact not_not.1 fun h => hf (failures_changes_eq_nil_iff.2 h)
  · intro h
    have hf : failures (old.changes new) ≠ [] := fun hf => failures_changes_eq_nil_iff.1 hf h
    exact ⟨_, ChangeSummary.ofChanges_of_failures_ne_nil hf⟩

/-- A summary lists the names of the reasons that are due. -/
theorem reasonList_eq_dueNames {s : ChangeSummary} (h : old.summarize new = .ok s) :
    s.reasonList = dueNames old new := by
  obtain ⟨hf, rfl⟩ := ChangeSummary.ofChanges_eq_ok_iff.1 h
  rw [ChangeSummary.reasonList_ofRequired, dueNames_eq,
    ← reasons_requiredChanges (failures_changes_eq_nil_iff.1 hf), List.map_map]
  rfl

/-- There is no summary exactly for incomparable run images. Any other summary
lists the reasons that are due, in order, and is as urgent as they are. -/
theorem summarize_decides (old new : BuildSnapshot) :
    ((∃ e, old.summarize new = .error e) ↔ Incomparable old new) ∧
      ((∃ s, old.summarize new = .ok s ∧
        s.reasonList = dueNames old new ∧
        s.priority = urgency (dueReasons old new)) ↔ ¬ Incomparable old new) := by
  refine ⟨summarize_eq_error_iff, ?_, ?_⟩
  · rintro ⟨s, hs, -⟩ h
    obtain ⟨e, he⟩ := summarize_eq_error_iff.2 h
    rw [hs] at he
    cases he
  · intro h
    have hs := summarize_eq_ok h
    exact ⟨_, hs, reasonList_eq_dueNames hs, priority_ofRequired h⟩

/-- A git snapshot on a run image whose digest repeats one digit. -/
def atCommit (revision : String) (digit : Char) : BuildSnapshot where
  config := ⟨[], .none, [], ⟨.git ⟨"https://host/app", revision, false⟩, none⟩⟩
  buildpacks := [⟨"java", "2"⟩, ⟨"java", "1"⟩]
  extensions := []
  runImage := "host/run@sha256:" ++ String.ofList (List.replicate 64 digit)
  triggeredAt := none

example : dueNames (atCommit "a" '0') (atCommit "b" '1') = ["COMMIT", "STACK"] := by
  decide +kernel

end BuildSnapshot

end ImageBuild
