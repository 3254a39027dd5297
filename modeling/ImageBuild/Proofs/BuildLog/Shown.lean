import ImageBuild.Proofs.BuildLog.Reading
import ImageBuild.Proofs.Change.Decision
import ImageBuild.Proofs.Change.Payload
import ImageBuild.Proofs.ImageReference.SingleLine
import Mathlib.Data.Set.Function

/-!
# Changes that a log shows

A build is required if two values differ, and a log compares their lines. Run
images are single lines, and values that are printed have different lines if the
printer tells them apart, so that each block but that of a commit removes or adds
a line. Revisions are shown as they are: that of a commit does so exactly if they
differ in more than the ends of their lines. The main statement is
`summarize_shown`.
-/
namespace ImageBuild

open ChangeSummary (ofRequired requiredChanges)

namespace Text

variable {s : String}

theorem cutLines_eq_singleton_nil {cs : List Char} (h : cutLines cs = [[]]) : cs = [] := by
  cases cs with
  | nil => rfl
  | cons c cs =>
    rw [cutLines, cut] at h
    split at h
    · exact absurd (List.cons.inj h).2 (cutLines_ne_nil cs)
    · split at h <;> simp at h

/-- All parts but the last are lines, and so is the last if it is not empty. -/
theorem lines_of_cutLines {cs last : List Char} {closed : List (List Char)}
    (h : cutLines cs = closed ++ [last]) :
    lines cs = closed.map dropReturn ++ if last = [] then [] else [last] := by
  simp only [lines, h, List.dropLast_concat, List.getLast?_concat]
  cases last <;> simp

/-- Only the empty text has no lines. -/
theorem linesOf_ne_nil (h : s ≠ "") : linesOf s ≠ [] := by
  intro hlines
  obtain ⟨closed, last, hcut⟩ :=
    (List.eq_nil_or_concat (cutLines s.toList)).resolve_left (cutLines_ne_nil _)
  rw [List.concat_eq_append] at hcut
  rw [linesOf, List.map_eq_nil_iff, lines_of_cutLines hcut, List.append_eq_nil_iff,
    List.map_eq_nil_iff] at hlines
  obtain ⟨rfl, hlast⟩ := hlines
  obtain rfl : last = [] := by simpa using hlast
  exact h (String.toList_eq_nil_iff.1 (cutLines_eq_singleton_nil hcut))

/-- A text without line feeds is its only line. -/
theorem linesOf_of_free (hne : s ≠ "") (h : '\n' ∉ s.toList) : linesOf s = [s] := by
  have hcut : cutLines s.toList = [] ++ [s.toList] := cut_of_free (beq_lineFeed_of_not_mem h)
  have hlast : s.toList ≠ [] := mt String.toList_eq_nil_iff.1 hne
  rw [linesOf, lines_of_cutLines hcut, if_neg hlast]
  simp

end Text

/-- Different values of the list are printed with different lines. -/
def Yaml.TellsApart (vs : List Json) : Prop :=
  Set.InjOn (fun v => Text.linesOf (Yaml.print v)) {v | v ∈ vs}

theorem Yaml.TellsApart.of_nodup {vs : List Json}
    (h : (vs.map fun v => Text.linesOf (Yaml.print v)).Nodup) : Yaml.TellsApart vs :=
  fun _ hv _ hw hlines => List.inj_on_of_nodup_map h hv hw hlines

namespace BuildLog

/-- The comparison of the record removes or adds a line. -/
def ShowsChange (r : ChangeRecord) : Prop :=
  ∃ l ∈ comparison r, "\t- ".toList <+: l ∨ "\t+ ".toList <+: l

variable {r : ChangeRecord}

theorem prefix_markedLine_iff (e : LineDiff.Entry String) :
    "\t- ".toList <+: markedLine e ∨ "\t+ ".toList <+: markedLine e ↔ e.isSame = false := by
  cases e <;> simp [markedLine, mark, LineDiff.Entry.isSame]

/-- A block shows a change if its values differ in their lines. -/
theorem showsChange_iff :
    ShowsChange r ↔ Text.linesOf (valueText r.old) ≠ Text.linesOf (valueText r.new) := by
  rw [← LineDiff.diff_changes_iff]
  simp only [ShowsChange, comparison, List.mem_map, exists_exists_and_eq_and,
    prefix_markedLine_iff, entries]

/-- Values of a record that are printed differ in their lines. -/
theorem showsChange_of_print (hyaml : Yaml.TellsApart [r.old, r.new])
    (hold : valueText r.old = Yaml.print r.old)
    (hnew : valueText r.new = Yaml.print r.new) (h : r.old ≠ r.new) : ShowsChange r := by
  rw [showsChange_iff, hold, hnew]
  exact fun hlines => h (hyaml List.mem_cons_self (List.mem_pair.2 (.inr rfl)) hlines)

end BuildLog

namespace ImageReference

theorem ne_empty_of_parse {image : String} {reference : ImageReference}
    (h : parse image = .ok reference) : image ≠ "" := by
  rintro rfl
  cases h

theorem linesOf_of_digestOf {image digest : String} (h : digestOf image = some digest) :
    Text.linesOf image = [image] := by
  unfold digestOf at h
  cases hparse : parse image with
  | error e =>
    rw [hparse] at h
    cases h
  | ok reference =>
    exact Text.linesOf_of_free (ne_empty_of_parse hparse) (lineFeed_not_mem_of_parse hparse)

end ImageReference

namespace Change

open BuildLog (ShowsChange showsChange_iff showsChange_of_print)

/-- The values of a change that a log shows as YAML. -/
def yamlValues : Change → List Json
  | .config old new =>
    [(BuildConfig.codec.encode old).sorted, (BuildConfig.codec.encode new).sorted]
  | .buildpacks _ old new => [(Buildpack.listJson old).sorted, (Buildpack.listJson new).sorted]
  | .trigger _ | .commit _ _ | .stack _ _ => []

theorem showsChange_commit_iff {a b : String} :
    ShowsChange (commit a b).record ↔ Text.linesOf a ≠ Text.linesOf b :=
  showsChange_iff

theorem showsChange_trigger {message : String} (h : (trigger message).required = .ok true) :
    ShowsChange (trigger message).record := by
  have hmessage : message ≠ "" := by simpa [required] using h
  exact showsChange_iff.2 (Text.linesOf_ne_nil hmessage).symm

theorem showsChange_stack {old new : String} (h : (stack old new).required = .ok true) :
    ShowsChange (stack old new).record := by
  have hdecided : ¬ ∃ e, (stack old new).required = .error e := by simp [h]
  rw [required_stack_eq_error_iff, not_or] at hdecided
  obtain ⟨d, hd⟩ := Option.ne_none_iff_exists'.1 hdecided.1
  obtain ⟨e, he⟩ := Option.ne_none_iff_exists'.1 hdecided.2
  have hdigests : d ≠ e := by simpa [required_stack_of_digests hd he] using h
  refine showsChange_iff.2 ?_
  change Text.linesOf old ≠ Text.linesOf new
  rw [ImageReference.linesOf_of_digestOf hd, ImageReference.linesOf_of_digestOf he]
  intro hlines
  obtain rfl := List.singleton_inj.1 hlines
  exact hdigests (Option.some.inj (hd.symm.trans he))

theorem showsChange_config {old new : BuildConfig}
    (hyaml : Yaml.TellsApart (config old new).yamlValues)
    (h : (config old new).required = .ok true) : ShowsChange (config old new).record := by
  refine showsChange_of_print hyaml rfl rfl fun hsorted => ?_
  have hkeeps : ∀ c, BuildConfig.codec.Keeps 5 c := fun c => c.codec_keeps
  obtain rfl : old = new := (hkeeps old).eq_of_sorted_eq (hkeeps new) hsorted
  exact required_config_iff.1 h rfl

theorem showsChange_buildpacks {reason : BuildReason} {old new : List Buildpack}
    (hyaml : Yaml.TellsApart (buildpacks reason old new).yamlValues)
    (h : (buildpacks reason old new).required = .ok true) :
    ShowsChange (buildpacks reason old new).record := by
  refine showsChange_of_print hyaml rfl rfl fun hsorted => ?_
  have hkeeps : ∀ bs, (Codec.list Buildpack.codec).Keeps 2 bs := fun bs =>
    Codec.list_keeps fun b _ => b.codec_keeps
  obtain rfl : old = new := (hkeeps old).eq_of_sorted_eq (hkeeps new) hsorted
  simp [required] at h

/-- A change that requires a build is shown, unless it is that of a revision whose lines stay
the same. -/
theorem showsChange_iff_of_required {c : Change} (hyaml : Yaml.TellsApart c.yamlValues)
    (h : c.required = .ok true) :
    ShowsChange c.record ↔ ∀ a b, c = .commit a b → Text.linesOf a ≠ Text.linesOf b := by
  cases c with
  | trigger message => exact iff_of_true (showsChange_trigger h) nofun
  | commit a b =>
    rw [showsChange_commit_iff]
    refine ⟨?_, fun hlines => hlines a b rfl⟩
    rintro hlines _ _ ⟨⟩
    exact hlines
  | config old new => exact iff_of_true (showsChange_config hyaml h) nofun
  | buildpacks reason old new => exact iff_of_true (showsChange_buildpacks hyaml h) nofun
  | stack old new => exact iff_of_true (showsChange_stack h) nofun

end Change

namespace ChangeSummary

theorem lineFeed_not_mem_reasons (cs : List Change) : '\n' ∉ (ofRequired cs).reasons.toList := by
  by_cases h : cs = []
  · subst h
    exact List.not_mem_nil
  · intro hmem
    rcases Text.exists_part_of_mem (p := (· == ',')) hmem with hcomma | ⟨part, hpart, hmem⟩
    · exact absurd hcomma (by decide)
    · rw [cut_reasons h] at hpart
      obtain ⟨c, -, rfl⟩ := List.mem_map.1 hpart
      have hfree : '\n' ∉ c.reason.text.toList := by cases c.reason <;> decide
      exact hfree hmem

end ChangeSummary

namespace BuildSnapshot

open BuildLog (ShowsChange)

variable {old new : BuildSnapshot}

/-- The revision as a log shows it. -/
def revisionLines (s : BuildSnapshot) : Option (List String) :=
  s.config.source.revision.map Text.linesOf

theorem showsChange_of_mem_changes {c : Change} (hmem : c ∈ old.changes new)
    (hyaml : Yaml.TellsApart c.yamlValues) (h : c.required = .ok true) :
    ShowsChange c.record ↔ (c.reason = .commit → old.revisionLines ≠ new.revisionLines) := by
  rw [Change.showsChange_iff_of_required hyaml h]
  rcases mem_changes hmem with ⟨time, rfl⟩ | ⟨a, b, rfl, ha, hb⟩ | rfl | rfl | rfl | rfl
  case inr.inl => simp [revisionLines, ha, hb, Change.reason]
  -- No other candidate has the reason of a commit.
  all_goals exact iff_of_true (fun _ _ hc => by cases hc) fun hc => by cases hc

/-- If there are changes, their records can be read and are rendered one block each. With a
printer that tells their values apart, each block removes or adds a line, but for the block of a
commit whose revisions have the same lines. -/
theorem summarize_shown {s : ChangeSummary}
    (hyaml : Yaml.TellsApart ((requiredChanges (old.changes new)).flatMap Change.yamlValues))
    (h : old.summarize new = .ok s) (hchanges : s.hasChanges = true) :
    ∃ records, s.records = .ok records ∧ records ≠ [] ∧
      Text.cutLines (BuildLog.render s.reasons records).toList =
        BuildLog.logLines s.reasons records ++ [[]] ∧
      ∀ r ∈ records,
        ShowsChange r ↔ (r.reason = .commit → old.revisionLines ≠ new.revisionLines) := by
  obtain ⟨-, rfl⟩ := ChangeSummary.ofChanges_eq_ok_iff.1 h
  have hreasons := ChangeSummary.lineFeed_not_mem_reasons (requiredChanges (old.changes new))
  refine ⟨_, ChangeSummary.records_ofRequired _, ?_, ?_, ?_⟩
  · simpa [ofRequired] using hchanges
  · rw [BuildLog.toList_render]
    exact Text.cutLines_flatMap (BuildLog.lineFeed_not_mem_logLines hreasons _)
  · intro r hr
    obtain ⟨c, hc, rfl⟩ := List.mem_map.1 hr
    obtain ⟨hmem, hrequired⟩ := ChangeSummary.mem_requiredChanges.1 hc
    have hvalues : Yaml.TellsApart c.yamlValues :=
      hyaml.mono fun v hv => List.mem_flatMap.2 ⟨c, hc, hv⟩
    exact showsChange_of_mem_changes hmem hvalues hrequired

/-- A git snapshot with one buildpack, on a run image whose digest repeats one digit. -/
def onJava (revision version : String) (digit : Char) : BuildSnapshot :=
  { atCommit revision digit with buildpacks := [⟨"java", version⟩] }

theorem changes_onJava (a b v w : String) (c d : Char) :
    (onJava a v c).changes (onJava b w d) =
      [.commit a b, .config (atCommit a c).config (atCommit b d).config,
        .buildpacks .buildpack [⟨"java", v⟩] [⟨"java", w⟩], .buildpacks .extension [] [],
        .stack (atCommit a c).runImage (atCommit b d).runImage] := by
  simp [changes, onJava, atCommit, triggerChange, commitChange, stackChange, Change.ofBuildpacks,
    Change.ofExtensions, Buildpack.sort, SourceConfig.revision]

/-- A line feed after a revision requires a build, and the log does not show it. -/
theorem lineFeed_unshown :
    Yaml.TellsApart ((requiredChanges ((onJava "a" "1" '0').changes (onJava "a\n" "1" '0'))).flatMap
        Change.yamlValues) ∧
      ∃ s, (onJava "a" "1" '0').summarize (onJava "a\n" "1" '0') = .ok s ∧
        s.hasChanges = true ∧ s.records = .ok [(Change.commit "a" "a\n").record] ∧
        ¬ ShowsChange (Change.commit "a" "a\n").record := by
  have hcomparable : ¬ Incomparable (onJava "a" "1" '0') (onJava "a\n" "1" '0') := by
    decide +kernel
  have hrequired : requiredChanges ((onJava "a" "1" '0').changes (onJava "a\n" "1" '0')) =
      [.commit "a" "a\n"] := by
    rw [changes_onJava]
    decide +kernel
  have hsummary := summarize_eq_ok hcomparable
  rw [hrequired] at hsummary ⊢
  refine ⟨.of_nodup List.nodup_nil, _, hsummary, rfl, ChangeSummary.records_ofRequired _, ?_⟩
  rw [Change.showsChange_commit_iff]
  decide +kernel

/-- Of a new revision, a new buildpack and a new run image, the revision is not shown. -/
theorem onJava_shown :
    Yaml.TellsApart ((requiredChanges ((onJava "a" "1" '0').changes (onJava "a\n" "2" '1'))).flatMap
        Change.yamlValues) ∧
      ∃ s, (onJava "a" "1" '0').summarize (onJava "a\n" "2" '1') = .ok s ∧
        s.hasChanges = true ∧ ∃ records, s.records = .ok records ∧ records ≠ [] ∧
          ∀ r ∈ records, ShowsChange r ↔ r.reason ≠ .commit := by
  have hcomparable : ¬ Incomparable (onJava "a" "1" '0') (onJava "a\n" "2" '1') := by
    decide +kernel
  have hrequired : requiredChanges ((onJava "a" "1" '0').changes (onJava "a\n" "2" '1')) =
      [.commit "a" "a\n", .buildpacks .buildpack [⟨"java", "1"⟩] [⟨"java", "2"⟩],
        .stack (atCommit "a" '0').runImage (atCommit "a\n" '1').runImage] := by
    rw [changes_onJava]
    decide +kernel
  have hlines : ([(Buildpack.listJson [⟨"java", "1"⟩]).sorted,
      (Buildpack.listJson [⟨"java", "2"⟩]).sorted].map fun v =>
        Text.linesOf (Yaml.print v)).Nodup := by
    decide +kernel
  have hyaml : Yaml.TellsApart ((requiredChanges
      ((onJava "a" "1" '0').changes (onJava "a\n" "2" '1'))).flatMap Change.yamlValues) := by
    rw [hrequired]
    exact .of_nodup hlines
  have hsummary := summarize_eq_ok hcomparable
  have hchanges : (ofRequired (requiredChanges
      ((onJava "a" "1" '0').changes (onJava "a\n" "2" '1')))).hasChanges = true := by
    rw [hrequired]
    rfl
  have hsame : (onJava "a" "1" '0').revisionLines = (onJava "a\n" "2" '1').revisionLines := by
    decide +kernel
  obtain ⟨records, hrecords, hne, -, hshown⟩ := summarize_shown hyaml hsummary hchanges
  refine ⟨hyaml, _, hsummary, hchanges, records, hrecords, hne, fun r hr => ?_⟩
  simpa [hsame] using hshown r hr

end BuildSnapshot

end ImageBuild
