import ImageBuild.Proofs.Plan.AttachedNames
import Mathlib.Data.List.Forall2

/-!
# Which bindings can be attached

The bindings of a list are attached if no two of them share a name and only secrets are
attached as services. Otherwise the first binding that breaks a rule decides the error: a
name that an earlier binding has, else a kind that cannot be attached. What is attached
falls into one part for each binding, in the order of the list. The main statement is
`attachAll_decided`.
-/
namespace ImageBuild.ServiceBinding

open Attachment (volumes mounts volumeNames)

/-- Only secrets can be attached as services. -/
def Attachable : ServiceBinding → Prop
  | .service r => r.kind = "Secret"
  | .cnb _ => True

instance : DecidablePred Attachable
  | .service r => inferInstanceAs (Decidable (r.kind = "Secret"))
  | .cnb _ => isTrue trivial

/-- Why a binding is refused where some names are taken. A name that is taken goes before a
kind that cannot be attached. -/
inductive Refused (taken : List String) : ServiceBinding → PlanError → Prop
  | duplicate {b : ServiceBinding} (repeated : b.name ∈ taken) :
      Refused taken b (.duplicateBinding b.name)
  | unsupported {r : ServiceRef} (fresh : r.name ∉ taken) (kind : r.kind ≠ "Secret") :
      Refused taken (.service r) (.unsupportedBinding r.kind)

/-- Why the binding at a place is refused, where some names and those of all bindings before
the place are taken. -/
def RefusedAt (taken : List String) (bs : List ServiceBinding) (i : Nat) (e : PlanError) : Prop :=
  ∃ b, bs[i]? = some b ∧ Refused (taken ++ (bs.take i).map name) b e

/-- Why the first binding that is refused is refused. -/
def FirstRefused (taken : List String) (bs : List ServiceBinding) (e : PlanError) : Prop :=
  ∃ i, RefusedAt taken bs i e ∧ ∀ j < i, ∀ d, ¬ RefusedAt taken bs j d

variable {taken : List String} {b : ServiceBinding} {bs : List ServiceBinding}
  {as : List Attachment} {e : PlanError}

theorem exists_attachments_eq_ok_iff : (∃ as, b.attachments = .ok as) ↔ b.Attachable := by
  cases b with
  | service r => by_cases h : r.kind = "Secret" <;> simp [attachments, Attachable, h]
  | cnb m => simp [attachments, Attachable]

theorem refused_of_mem (h : b.name ∈ taken) :
    Refused taken b e ↔ e = .duplicateBinding b.name := by
  constructor
  · intro hrefused
    cases hrefused with
    | duplicate => rfl
    | unsupported fresh => exact absurd h fresh
  · rintro rfl
    exact .duplicate h

theorem refused_of_not_mem (h : b.name ∉ taken) : Refused taken b e ↔ b.attachments = .error e := by
  constructor
  · intro hrefused
    cases hrefused with
    | duplicate repeated => exact absurd repeated h
    | unsupported _ kind => exact if_neg kind
  · intro herror
    cases b with
    | cnb m => cases herror
    | service r =>
      simp only [attachments] at herror
      split at herror
      next => cases herror
      next hkind =>
        cases herror
        exact .unsupported h hkind

theorem Refused.congr {others : List String} (h : ∀ n, n ∈ taken ↔ n ∈ others) :
    Refused taken b e ↔ Refused others b e := by
  by_cases hb : b.name ∈ taken
  · rw [refused_of_mem hb, refused_of_mem ((h _).1 hb)]
  · rw [refused_of_not_mem hb, refused_of_not_mem (mt (h _).2 hb)]

theorem refusedAt_zero_iff : RefusedAt taken (b :: bs) 0 e ↔ Refused taken b e := by
  simp [RefusedAt]

/-- A binding is refused behind another one as it is where the name of that one is taken. -/
theorem refusedAt_succ_iff {i : Nat} :
    RefusedAt taken (b :: bs) (i + 1) e ↔ RefusedAt (b.name :: taken) bs i e := by
  have hnames : ∀ n, n ∈ taken ++ ((b :: bs).take (i + 1)).map name ↔
      n ∈ b.name :: taken ++ (bs.take i).map name := fun n => List.perm_middle.mem_iff
  simp only [RefusedAt, List.getElem?_cons_succ, Refused.congr hnames]

theorem firstRefused_cons_iff :
    FirstRefused taken (b :: bs) e ↔
      Refused taken b e ∨
        (∀ d, ¬ Refused taken b d) ∧ FirstRefused (b.name :: taken) bs e := by
  constructor
  · rintro ⟨i, hi, hfirst⟩
    cases i with
    | zero => exact .inl (refusedAt_zero_iff.1 hi)
    | succ i =>
      refine .inr ⟨fun d hd => hfirst 0 i.succ_pos d (refusedAt_zero_iff.2 hd), i,
        refusedAt_succ_iff.1 hi, fun j hj d hd => ?_⟩
      exact hfirst (j + 1) (Nat.succ_lt_succ hj) d (refusedAt_succ_iff.2 hd)
  · rintro (hb | ⟨hb, i, hi, hfirst⟩)
    · exact ⟨0, refusedAt_zero_iff.2 hb, fun j hj => absurd hj j.not_lt_zero⟩
    · refine ⟨i + 1, refusedAt_succ_iff.2 hi, fun j hj d hd => ?_⟩
      cases j with
      | zero => exact hb d (refusedAt_zero_iff.1 hd)
      | succ j => exact hfirst j (Nat.lt_of_succ_lt_succ hj) d (refusedAt_succ_iff.1 hd)

theorem attachUnless_cons_eq_error_iff :
    attachUnless taken (b :: bs) = .error e ↔
      Refused taken b e ∨
        (∀ d, ¬ Refused taken b d) ∧ attachUnless (b.name :: taken) bs = .error e := by
  rw [attachUnless]
  by_cases h : b.name ∈ taken
  · simp [h, refused_of_mem h, eq_comm]
  · simp only [List.contains_iff_mem, h, if_false, refused_of_not_mem h, bind_eq_error_iff]
    cases b.attachments <;> simp [pure, Except.pure]

/-- The first binding that is refused decides the error. -/
theorem attachUnless_eq_error_iff :
    attachUnless taken bs = .error e ↔ FirstRefused taken bs e := by
  induction bs generalizing taken with
  | nil => simp [attachUnless, FirstRefused, RefusedAt]
  | cons b bs ih => rw [attachUnless_cons_eq_error_iff, firstRefused_cons_iff, ih]

theorem exists_attachUnless_cons_iff :
    (∃ as, attachUnless taken (b :: bs) = .ok as) ↔
      b.name ∉ taken ∧ b.Attachable ∧ ∃ as, attachUnless (b.name :: taken) bs = .ok as := by
  rw [← exists_attachments_eq_ok_iff]
  simp only [attachUnless_cons_eq_ok_iff]
  constructor
  · rintro ⟨as, hb, here, rest, hhere, hrest, -⟩
    exact ⟨hb, ⟨here, hhere⟩, rest, hrest⟩
  · rintro ⟨hb, ⟨here, hhere⟩, rest, hrest⟩
    exact ⟨here ++ rest, hb, here, rest, hhere, hrest, rfl⟩

theorem exists_attachUnless_iff :
    (∃ as, attachUnless taken bs = .ok as) ↔
      ((bs.map name).Nodup ∧ ∀ n ∈ bs.map name, n ∉ taken) ∧ ∀ b ∈ bs, b.Attachable := by
  induction bs generalizing taken with
  | nil => simp [attachUnless]
  | cons b bs ih =>
    have hfree : (∀ n ∈ bs.map name, n ∉ b.name :: taken) ↔
        b.name ∉ bs.map name ∧ ∀ n ∈ bs.map name, n ∉ taken := by
      grind
    rw [exists_attachUnless_cons_iff, ih, hfree, List.map_cons, List.nodup_cons,
      List.forall_mem_cons, List.forall_mem_cons]
    tauto

/-- A volume, and a mount of it that cannot be written to. -/
def entry (name : String) (source : VolumeSource) (path : String) : Volume × VolumeMount :=
  (⟨name, source⟩, ⟨path, none, name, some true, none, none⟩)

/-- The entries of one binding. A binding that is no service has a secret if it names one. -/
inductive WiredBy : ServiceBinding → List (Volume × VolumeMount) → Prop
  | service (r : ServiceRef) :
      WiredBy (.service r)
        [entry ("service-binding-secret-" ++ r.name) (.secret r.name)
          ("/platform/bindings/" ++ r.name)]
  | metadata {b : MetadataBinding} (bare : ∀ secret, b.secret = some secret → secret = "") :
      WiredBy (.cnb b)
        [entry ("binding-metadata-" ++ b.name) (.configMap b.metadata)
          ("/platform/bindings/" ++ b.name ++ "/metadata")]
  | secret {b : MetadataBinding} {secret : String} (named : b.secret = some secret)
      (filled : secret ≠ "") :
      WiredBy (.cnb b)
        [entry ("binding-metadata-" ++ b.name) (.configMap b.metadata)
          ("/platform/bindings/" ++ b.name ++ "/metadata"),
        entry ("binding-secret-" ++ b.name) (.secret secret)
          ("/platform/bindings/" ++ b.name ++ "/secret")]

/-- The volumes and the mounts of a list of bindings. -/
structure Wiring (bs : List ServiceBinding) (volumes : List Volume) (mounts : List VolumeMount) :
    Prop where
  length_eq : volumes.length = mounts.length
  names_eq : volumes.map Volume.name = mounts.map VolumeMount.name
  names_nodup : (volumes.map Volume.name).Nodup
  readOnly : ∀ m ∈ mounts, m.readOnly = some true
  parts : ∃ parts, List.Forall₂ WiredBy bs parts ∧ volumes.zip mounts = parts.flatten

theorem zip_volumes_mounts (as : List Attachment) :
    (volumes as).zip (mounts as) = as.map fun a => (a.volume, a.mount) :=
  List.zip_map'

theorem wiredBy_attachments (h : b.attachments = .ok as) :
    WiredBy b (as.map fun a => (a.volume, a.mount)) := by
  have hroot : Layout.bindingRoot ++ "/" = "/platform/bindings/" := by decide
  cases b with
  | service r =>
    simp only [attachments, hroot] at h
    split at h
    · cases h
      exact .service r
    · cases h
  | cnb m =>
    simp only [attachments, hroot] at h
    cases h
    cases hsecret : m.secret.filter fun s => !s.isEmpty with
    | none => exact .metadata (by simpa using hsecret)
    | some s =>
      obtain ⟨hs, hne⟩ := Option.filter_eq_some_iff.1 hsecret
      exact .secret hs (by simpa using hne)

theorem parts_attachUnless (h : attachUnless taken bs = .ok as) :
    ∃ parts, List.Forall₂ WiredBy bs parts ∧ (volumes as).zip (mounts as) = parts.flatten := by
  simp only [zip_volumes_mounts]
  induction bs generalizing taken as with
  | nil =>
    cases h
    exact ⟨[], .nil, rfl⟩
  | cons b bs ih =>
    obtain ⟨-, here, rest, hhere, hrest, rfl⟩ := attachUnless_cons_eq_ok_iff.1 h
    obtain ⟨parts, hparts, hflat⟩ := ih hrest
    exact ⟨_ :: parts, .cons (wiredBy_attachments hhere) hparts, by
      rw [List.map_append, hflat, List.flatten_cons]⟩

theorem volumeNames_nodup (h : attachUnless taken bs = .ok as) : (volumeNames as).Nodup := by
  have hbindings := VolumeName.flatMap_ofBinding_nodup (attachUnless_nodup h).1
  exact (hbindings.map VolumeName.text_injective).sublist (names_attachUnless h)

theorem wiring_attachAll (h : attachAll bs = .ok as) : Wiring bs (volumes as) (mounts as) where
  length_eq := by rw [volumes, mounts, List.length_map, List.length_map]
  names_eq := by rw [Attachment.volumeNames_volumes, Attachment.volumeNames_mounts]
  names_nodup := by
    rw [Attachment.volumeNames_volumes]
    exact volumeNames_nodup h
  readOnly := by
    intro m hm
    obtain ⟨a, -, rfl⟩ := List.mem_map.1 hm
    rfl
  parts := parts_attachUnless h

/-- A list of bindings is attached exactly if no name is repeated and each binding can be
attached, and it is wired then. Otherwise the first binding that is refused decides the
error. -/
theorem attachAll_decided (bs : List ServiceBinding) :
    ((∃ as, attachAll bs = .ok as) ↔ (bs.map name).Nodup ∧ ∀ b ∈ bs, b.Attachable) ∧
      (∀ e, attachAll bs = .error e ↔ FirstRefused [] bs e) ∧
      ∀ as, attachAll bs = .ok as → Wiring bs (volumes as) (mounts as) := by
  refine ⟨?_, fun e => attachUnless_eq_error_iff, fun as => wiring_attachAll⟩
  rw [attachAll, exists_attachUnless_iff]
  simp

/-- A service, a binding without a secret, one with an empty secret, and one with a secret. -/
def mixedBindings : List ServiceBinding :=
  [.service ⟨"Secret", "db", "v1"⟩, .cnb ⟨"db-secret", "info", none⟩, .cnb ⟨"", "info", some ""⟩,
    .cnb ⟨"queue", "queue-info", some "queue-key"⟩]

theorem mixedBindings_wired :
    ∃ as, attachAll mixedBindings = .ok as ∧ Wiring mixedBindings (volumes as) (mounts as) := by
  obtain ⟨hok, -, hwiring⟩ := attachAll_decided mixedBindings
  obtain ⟨as, has⟩ := hok.2 (by decide)
  exact ⟨as, has, hwiring as has⟩

/-- A name that is taken goes before a kind that cannot be attached. -/
example :
    attachAll [.cnb ⟨"db", "info", none⟩, .service ⟨"ConfigMap", "db", "v1"⟩] =
      .error (.duplicateBinding "db") := by
  rfl

end ImageBuild.ServiceBinding
