import ImageBuild.Change.Basic
import ImageBuild.Proofs.Change.BuildpackOrder

/-!
# When a change requires a build

One statement for each kind of change says what `Change.required` decides. Only
a change of run images can fail to decide, and it does so exactly if one of the
images is not named with a digest.
-/
namespace ImageBuild

/-- The digest that an image is named with, if it has one. -/
def ImageReference.digestOf (image : String) : Option String :=
  (ImageReference.parse image).toOption.bind ImageReference.digest

/-- The digest to compare is the one that the image is named with. -/
theorem toOption_runImageDigest (image : String) :
    (runImageDigest image).toOption = ImageReference.digestOf image := by
  unfold runImageDigest ImageReference.digestOf
  cases ImageReference.parse image with
  | error e => rfl
  | ok reference => cases h : reference.digest <;> simp [Except.toOption, h]

theorem runImageDigest_eq_ok_iff {image d : String} :
    runImageDigest image = .ok d ↔ ImageReference.digestOf image = some d := by
  rw [← toOption_runImageDigest]
  cases runImageDigest image <;> simp [Except.toOption]

theorem runImageDigest_eq_error_iff {image : String} :
    (∃ e, runImageDigest image = .error e) ↔ ImageReference.digestOf image = none := by
  rw [← toOption_runImageDigest]
  cases runImageDigest image <;> simp [Except.toOption]

namespace SourceConfig

/-- Both sources are git repositories, at different revisions. -/
def Moved (s t : SourceConfig) : Prop :=
  match s.source, t.source with
  | .git g, .git h => g.revision ≠ h.revision
  | _, _ => False

/-- Two sources differ in nothing but the revisions of git repositories. -/
def SameButRevision (s t : SourceConfig) : Prop :=
  s.subPath = t.subPath ∧
    match s.source, t.source with
    | .git g, .git h => g.url = h.url ∧ g.submodules = h.submodules
    | .blob b, .blob c => b = c
    | .registry i, .registry j => i = j
    | _, _ => False

variable {s t : SourceConfig}

theorem moved_iff :
    Moved s t ↔ ∃ a b, s.revision = some a ∧ t.revision = some b ∧ a ≠ b := by
  obtain ⟨source, path⟩ := s
  obtain ⟨source', path'⟩ := t
  cases source <;> cases source' <;> simp [Moved, revision]

/-- Sources with their revisions left out are equal if nothing else differs. -/
theorem withoutRevision_eq_iff : s.withoutRevision = t.withoutRevision ↔ SameButRevision s t := by
  obtain ⟨source, path⟩ := s
  obtain ⟨source', path'⟩ := t
  cases source <;> cases source' <;> simp [withoutRevision, SameButRevision, and_comm]

instance : DecidableRel Moved := fun s t =>
  match s, t with
  | ⟨.git g, _⟩, ⟨.git h, _⟩ => inferInstanceAs (Decidable (g.revision ≠ h.revision))
  | ⟨.git _, _⟩, ⟨.blob _, _⟩ | ⟨.git _, _⟩, ⟨.registry _, _⟩ => .isFalse id
  | ⟨.blob _, _⟩, _ | ⟨.registry _, _⟩, _ => .isFalse id

instance : DecidableRel SameButRevision := fun s t =>
  match s, t with
  | ⟨.git g, p⟩, ⟨.git h, q⟩ =>
    inferInstanceAs (Decidable (p = q ∧ g.url = h.url ∧ g.submodules = h.submodules))
  | ⟨.blob b, p⟩, ⟨.blob c, q⟩ => inferInstanceAs (Decidable (p = q ∧ b = c))
  | ⟨.registry i, p⟩, ⟨.registry j, q⟩ => inferInstanceAs (Decidable (p = q ∧ i = j))
  | ⟨.git _, _⟩, ⟨.blob _, _⟩ | ⟨.git _, _⟩, ⟨.registry _, _⟩ => .isFalse And.right
  | ⟨.blob _, _⟩, ⟨.git _, _⟩ | ⟨.blob _, _⟩, ⟨.registry _, _⟩ => .isFalse And.right
  | ⟨.registry _, _⟩, ⟨.git _, _⟩ | ⟨.registry _, _⟩, ⟨.blob _, _⟩ => .isFalse And.right

theorem SameButRevision.refl (s : SourceConfig) : SameButRevision s s :=
  withoutRevision_eq_iff.1 rfl

/-- Blanked revisions hide nothing: a source of another kind is another source. -/
theorem SameButRevision.eq_of_not_moved (h : SameButRevision s t) (hm : ¬ Moved s t) : s = t := by
  obtain ⟨source, path⟩ := s
  obtain ⟨source', path'⟩ := t
  obtain ⟨rfl, hsource⟩ := h
  cases source with
  | git g =>
    cases source' with
    | git g' =>
      obtain ⟨url, rev, submodules⟩ := g
      obtain ⟨url', rev', submodules'⟩ := g'
      obtain ⟨rfl, rfl⟩ := hsource
      obtain rfl : rev = rev' := Decidable.not_not.1 hm
      rfl
    | blob b => exact hsource.elim
    | registry i => exact hsource.elim
  | blob b =>
    cases source' with
    | blob b' => rw [show b = b' from hsource]
    | git g => exact hsource.elim
    | registry i => exact hsource.elim
  | registry i =>
    cases source' with
    | registry i' => rw [show i = i' from hsource]
    | git g => exact hsource.elim
    | blob b => exact hsource.elim

end SourceConfig

theorem BuildConfig.withoutRevision_eq_iff {a b : BuildConfig} :
    a.withoutRevision = b.withoutRevision ↔
      a.env = b.env ∧ a.resources = b.resources ∧ a.services = b.services ∧
        a.source.SameButRevision b.source := by
  simp [withoutRevision, SourceConfig.withoutRevision_eq_iff]

namespace Change

theorem required_commit_iff {a b : String} : (commit a b).required = .ok true ↔ a ≠ b := by
  simp [required]

theorem required_config_iff {a b : BuildConfig} :
    (config a b).required = .ok true ↔ a.withoutRevision ≠ b.withoutRevision := by
  simp [required]

/-- Lists of buildpacks, in order or not, call for a build if they are no arrangements of
each other. -/
theorem required_buildpacks (reason : BuildReason) (as bs : List Buildpack) :
    (buildpacks reason as bs).required = .ok (decide (¬ as.Perm bs)) := by
  have hsort : (Buildpack.sort as != Buildpack.sort bs) = decide (¬ as.Perm bs) := by
    rw [Bool.eq_iff_iff, bne_iff_ne, decide_eq_true_iff, ne_eq, Buildpack.sort_eq_sort_iff]
  rw [required, hsort]

theorem required_sorted (reason : BuildReason) (as bs : List Buildpack) :
    (buildpacks reason (Buildpack.sort as) (Buildpack.sort bs)).required =
      .ok (decide (¬ as.Perm bs)) := by
  have hperm : (Buildpack.sort as).Perm (Buildpack.sort bs) ↔ as.Perm bs := by
    rw [← Buildpack.sort_eq_sort_iff, Buildpack.sort_sort, Buildpack.sort_sort,
      Buildpack.sort_eq_sort_iff]
  rw [required_buildpacks, decide_eq_decide.2 (not_congr hperm)]

theorem required_ofBuildpacks_iff {as bs : List Buildpack} :
    (ofBuildpacks as bs).required = .ok true ↔ ¬ as.Perm bs := by
  rw [ofBuildpacks, required_sorted, Except.ok.injEq, decide_eq_true_iff]

theorem required_ofExtensions_iff {as bs : List Buildpack} :
    (ofExtensions as bs).required = .ok true ↔ ¬ as.Perm bs := by
  rw [ofExtensions, required_sorted, Except.ok.injEq, decide_eq_true_iff]

/-- The message of a trigger is never empty. -/
theorem required_triggered (time : String) : (triggered time).required = .ok true := by
  simp [required, triggered]

theorem required_stack_of_digests {a b d e : String} (ha : ImageReference.digestOf a = some d)
    (hb : ImageReference.digestOf b = some e) : (stack a b).required = .ok (d != e) := by
  simp only [required, stackRequired, runImageDigest_eq_ok_iff.2 ha, runImageDigest_eq_ok_iff.2 hb]

theorem required_stack_eq_error_iff {a b : String} :
    (∃ e, (stack a b).required = .error e) ↔
      ImageReference.digestOf a = none ∨ ImageReference.digestOf b = none := by
  rw [← runImageDigest_eq_error_iff, ← runImageDigest_eq_error_iff]
  simp only [required, stackRequired]
  cases ha : runImageDigest a <;> cases hb : runImageDigest b <;> simp

end Change

end ImageBuild
