import ImageBuild.Plan.Attachment
import ImageBuild.Proofs.Plan.Outcome
import ImageBuild.Proofs.Plan.VolumeName

/-!
# The names of attached volumes

Secrets are attached under names that count their places, and bindings under
names of their own, each of which is used by one binding only. So the names of
each kind of attachment are some of the names that could be used, in the same
order: none of them occurs twice.
-/
namespace ImageBuild

namespace VolumeName

/-- The names that could be used for `n` secrets of a kind. -/
def placed (name : Nat → VolumeName) (n : Nat) : List VolumeName := (List.range n).map name

/-- The names that could be used for a binding. -/
def ofBinding (binding : String) : List VolumeName :=
  [.service binding, .metadata binding, .bindingSecret binding]

/-- The names that could be used in a pod, those of the planner last. -/
def candidates (credentials pulls : Nat) (bindings : List String) : List VolumeName :=
  placed .credential credentials ++ placed .signing credentials ++ placed .pull pulls ++
    bindings.flatMap ofBinding ++ SharedVolume.all.map .shared

theorem placed_nodup {name : Nat → VolumeName} (h : Function.Injective name) (n : Nat) :
    (placed name n).Nodup :=
  List.nodup_range.map h

theorem suffix_of_mem_ofBinding {a : VolumeName} {binding : String} (h : a ∈ ofBinding binding) :
    a.suffix = binding := by
  simp only [ofBinding, List.mem_cons, List.not_mem_nil, or_false] at h
  rcases h with rfl | rfl | rfl <;> rfl

theorem flatMap_ofBinding_nodup {bindings : List String} (h : bindings.Nodup) :
    (bindings.flatMap ofBinding).Nodup := by
  rw [List.nodup_flatMap]
  constructor
  · intro n _
    simp [ofBinding]
  · refine h.imp fun {m n} hne a hm hn => hne ?_
    rw [← suffix_of_mem_ofBinding hm, suffix_of_mem_ofBinding hn]

theorem candidates_nodup (credentials pulls : Nat) {bindings : List String}
    (h : bindings.Nodup) : (candidates credentials pulls bindings).Nodup := by
  have hcredential := placed_nodup (fun _ _ => credential.inj) credentials
  have hsigning := placed_nodup (fun _ _ => signing.inj) credentials
  have hpull := placed_nodup (fun _ _ => pull.inj) pulls
  have hbinding := flatMap_ofBinding_nodup h
  have hshared := SharedVolume.all_nodup.map fun _ _ => shared.inj
  unfold candidates
  refine (((hcredential.append hsigning ?_).append hpull ?_).append hbinding ?_).append hshared ?_
  -- A name of one part has another constructor than those of the parts before it.
  all_goals
    intro a hbefore hafter
    simp only [placed, ofBinding, List.mem_append, List.mem_map, List.mem_flatMap, List.mem_cons,
      List.not_mem_nil, or_false] at hbefore hafter
    grind

end VolumeName

namespace Attachment

/-- The names of the volumes of a list of attachments. -/
def volumeNames (as : List Attachment) : List String := as.map fun a => a.volume.name

@[simp] theorem volumeNames_volumes (as : List Attachment) :
    (volumes as).map Volume.name = volumeNames as := by
  simp [volumes, volumeNames]

@[simp] theorem volumeNames_mounts (as : List Attachment) :
    (mounts as).map VolumeMount.name = volumeNames as := by
  simp [mounts, volumeNames, mount, VolumeMount.fixed]

/-- Where each member gives one result at most, and the result can be told from the
member, the results are those of some members. -/
theorem map_filterMap_sublist {α β γ : Type} {give : α → Option β} {f : β → γ} {g : α → γ}
    (h : ∀ x b, give x = some b → f b = g x) (xs : List α) :
    ((xs.filterMap give).map f).Sublist (xs.map g) := by
  induction xs with
  | nil => exact List.nil_sublist _
  | cons x xs ih =>
    rw [List.filterMap_cons, List.map_cons]
    cases hx : give x with
    | none => exact ih.cons _
    | some b =>
      rw [List.map_cons, h x b hx]
      exact ih.cons_cons _

/-- What is attached by place uses names of these places, each once at most. -/
theorem volumeNames_filterMap_zipIdx {α : Type} {attach : α → Nat → Option Attachment}
    {name : Nat → VolumeName}
    (h : ∀ x i a, attach x i = some a → a.volume.name = (name i).text) (xs : List α) :
    (volumeNames (xs.zipIdx.filterMap fun x => attach x.1 x.2)).Sublist
      ((VolumeName.placed name xs.length).map VolumeName.text) := by
  have hplaces : xs.zipIdx.map (fun x => (name x.2).text) =
      (VolumeName.placed name xs.length).map VolumeName.text := by
    rw [VolumeName.placed, List.range_eq_range', ← List.zipIdx_map_snd 0 xs, List.map_map,
      List.map_map]
    rfl
  rw [← hplaces]
  exact map_filterMap_sublist (fun x a => h x.1 x.2 a) xs.zipIdx

end Attachment

namespace Credential

open Attachment (volumeNames)

theorem names_attachments (scope : CredentialScope) (cs : List Credential) :
    (volumeNames (attachments scope cs)).Sublist
      ((VolumeName.placed .credential cs.length).map VolumeName.text) := by
  refine Attachment.volumeNames_filterMap_zipIdx (fun c i a h => ?_) cs
  obtain ⟨arg, -, rfl⟩ := Option.map_eq_some_iff.1 h
  rfl

theorem names_signingAttachments (cs : List Credential) :
    (volumeNames (signingAttachments cs)).Sublist
      ((VolumeName.placed .signing cs.length).map VolumeName.text) := by
  refine Attachment.volumeNames_filterMap_zipIdx (fun c i a h => ?_) cs
  unfold signingAttachment at h
  split at h
  · cases h
    rfl
  · cases h

theorem names_pullAttachments (builder request : List String) :
    (volumeNames (pullAttachments builder request)).Sublist
      ((VolumeName.placed .pull (names (builder ++ request)).length).map
        VolumeName.text) := by
  have hname : ∀ n i a, some (pullAttachment n i) = some a →
      a.volume.name = (VolumeName.pull i).text := by
    intro n i a h
    cases h
    rfl
  rw [pullAttachments, ← List.filterMap_eq_map]
  exact Attachment.volumeNames_filterMap_zipIdx hname (names (builder ++ request))

end Credential

namespace ServiceBinding

open Attachment (volumeNames)

variable {taken : List String} {b : ServiceBinding} {bs : List ServiceBinding}
  {as : List Attachment}

/-- A binding has parts of three kinds, each with a volume and a path of its own. -/
theorem parts_sublist (h : b.attachments = .ok as) :
    (as.map fun a => (a.volume.name, a.path)).Sublist
      [("service-binding-secret-" ++ b.name, Layout.bindingRoot ++ "/" ++ b.name),
        ("binding-metadata-" ++ b.name, Layout.bindingRoot ++ "/" ++ b.name ++ "/metadata"),
        ("binding-secret-" ++ b.name, Layout.bindingRoot ++ "/" ++ b.name ++ "/secret")] := by
  cases b with
  | service r =>
    simp only [attachments] at h
    split at h
    · cases h
      exact .cons_cons _ (List.nil_sublist _)
    · cases h
  | cnb m =>
    cases h
    apply List.Sublist.cons
    apply List.Sublist.cons_cons
    cases m.secret.filter fun s => !s.isEmpty with
    | none => exact List.nil_sublist _
    | some s => exact List.Sublist.refl _

theorem names_attachments (h : b.attachments = .ok as) :
    (volumeNames as).Sublist ((VolumeName.ofBinding b.name).map VolumeName.text) := by
  have hnames := (parts_sublist h).map Prod.fst
  rwa [List.map_map] at hnames

theorem attachUnless_cons_eq_ok_iff :
    attachUnless taken (b :: bs) = .ok as ↔
      b.name ∉ taken ∧ ∃ here rest, b.attachments = .ok here ∧
        attachUnless (b.name :: taken) bs = .ok rest ∧ as = here ++ rest := by
  rw [attachUnless]
  by_cases h : b.name ∈ taken
  · simp [h]
  · simp only [List.contains_iff_mem, h, if_false, not_false_eq_true, true_and, bind_eq_ok_iff,
      pure, Except.pure, Except.ok.injEq, eq_comm (a := as)]
    simp only [exists_and_left]

theorem attachUnless_nodup (h : attachUnless taken bs = .ok as) :
    (bs.map name).Nodup ∧ ∀ n ∈ bs.map name, n ∉ taken := by
  induction bs generalizing taken as with
  | nil => simp
  | cons b bs ih =>
    obtain ⟨hb, here, rest, -, hrest, -⟩ := attachUnless_cons_eq_ok_iff.1 h
    obtain ⟨hnodup, hfree⟩ := ih hrest
    rw [List.map_cons]
    refine ⟨List.nodup_cons.2 ⟨fun hmem => hfree _ hmem (List.mem_cons_self ..), hnodup⟩, ?_⟩
    intro n hn
    rcases List.mem_cons.1 hn with rfl | hn
    · exact hb
    · exact fun htaken => hfree n hn (List.mem_cons_of_mem _ htaken)

/-- What is told of the attachments of one binding by its name is told of those of all
bindings by their names. -/
theorem map_attachUnless_sublist {β : Type} {f : Attachment → β} {g : String → List β}
    (hone : ∀ {b : ServiceBinding} {as : List Attachment}, b.attachments = .ok as →
      (as.map f).Sublist (g b.name))
    (h : attachUnless taken bs = .ok as) : (as.map f).Sublist ((bs.map name).flatMap g) := by
  induction bs generalizing taken as with
  | nil =>
    cases h
    exact List.nil_sublist _
  | cons b bs ih =>
    obtain ⟨-, here, rest, hhere, hrest, rfl⟩ := attachUnless_cons_eq_ok_iff.1 h
    rw [List.map_cons, List.flatMap_cons, List.map_append]
    exact (hone hhere).append (ih hrest)

theorem names_attachUnless (h : attachUnless taken bs = .ok as) :
    (volumeNames as).Sublist
      (((bs.map name).flatMap VolumeName.ofBinding).map VolumeName.text) := by
  rw [List.map_flatMap]
  exact map_attachUnless_sublist names_attachments h

end ServiceBinding

end ImageBuild
