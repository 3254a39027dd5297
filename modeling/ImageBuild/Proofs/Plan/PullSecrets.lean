import ImageBuild.Proofs.Names
import ImageBuild.Proofs.Plan.AttachedNames

/-!
# Pull secrets

The pull secrets of a builder and of a request are attached once each, and numbered in the
order in which they first occur. Names that are empty or occur again take no number, so that
a further name gets the number of those that were attached before it. The main statement is
`pullAttachments_numbered`.
-/
namespace ImageBuild.Credential

open Attachment (volumes mounts allArgs)

/-- The volumes, the mounts and the arguments of pull secrets that are numbered by their
places. -/
structure Numbered (secrets : List String) (volumes : List Volume) (mounts : List VolumeMount)
    (args : List String) : Prop where
  volumes_eq : volumes = secrets.mapIdx fun k secret =>
    ⟨"image-pull-secret-volume-" ++ toString k, .secret secret⟩
  mounts_eq : mounts = secrets.mapIdx fun k secret =>
    ⟨"/var/build-secrets/imagepull/" ++ secret, none, "image-pull-secret-volume-" ++ toString k,
      some true, none, none⟩
  args_eq : args = secrets.map fun secret => "-imagepull=" ++ secret

theorem pullAttachment_eq (secret : String) (position : Nat) :
    pullAttachment secret position =
      ⟨⟨"image-pull-secret-volume-" ++ toString position, .secret secret⟩,
        "/var/build-secrets/imagepull/" ++ secret, ["-imagepull=" ++ secret]⟩ := by
  have hroot : secretsPath ++ "/imagepull/" = "/var/build-secrets/imagepull/" := by decide
  rw [pullAttachment, hroot]
  rfl

variable (builder request : List String)

theorem map_pullAttachments {β : Type} (f : Attachment → β) :
    (pullAttachments builder request).map f =
      (names (builder ++ request)).mapIdx fun k secret => f (pullAttachment secret k) := by
  rw [pullAttachments, List.mapIdx_eq_zipIdx_map, List.map_map]
  rfl

theorem length_pullAttachments :
    (pullAttachments builder request).length = (names (builder ++ request)).length := by
  rw [pullAttachments, List.length_map, List.length_zipIdx]

/-- A further name is attached behind the others if it is new, and changes none of them. -/
theorem pullAttachments_concat (secret : String) :
    pullAttachments builder (request ++ [secret]) =
      pullAttachments builder request ++
        if secret = "" ∨ secret ∈ builder ++ request then []
        else [⟨⟨"image-pull-secret-volume-" ++ toString (pullAttachments builder request).length,
          .secret secret⟩, "/var/build-secrets/imagepull/" ++ secret,
          ["-imagepull=" ++ secret]⟩] := by
  rw [← pullAttachment_eq, length_pullAttachments, pullAttachments, pullAttachments,
    ← List.append_assoc, names_concat]
  split
  · rw [List.append_nil, List.append_nil]
  · rw [List.zipIdx_append, List.map_append, Nat.zero_add]
    rfl

theorem numbered_pullAttachments :
    Numbered (names (builder ++ request)) (volumes (pullAttachments builder request))
      (mounts (pullAttachments builder request)) (allArgs (pullAttachments builder request)) where
  volumes_eq := by
    simp only [volumes, map_pullAttachments, pullAttachment_eq]
  mounts_eq := by
    simp only [mounts, map_pullAttachments, Attachment.mount, VolumeMount.fixed, pullAttachment_eq]
  args_eq := by
    calc allArgs (pullAttachments builder request)
      _ = (names (builder ++ request)).zipIdx.map fun n => "-imagepull=" ++ n.1 := by
        rw [allArgs, pullAttachments, List.flatMap_map]
        exact List.map_eq_flatMap.symm
      _ = ((names (builder ++ request)).zipIdx.map Prod.fst).map fun n => "-imagepull=" ++ n := by
        rw [List.map_map]
        rfl
      _ = (names (builder ++ request)).map fun n => "-imagepull=" ++ n := by
        rw [List.zipIdx_map_fst]

/-- The pull secrets that are attached are the names that are not empty, first occurrences
only, numbered without gaps. -/
theorem pullAttachments_numbered :
    ∃ secrets, secrets = ((builder ++ request).filter (· ≠ "")).eraseDups ∧
      AreFirst (builder ++ request) secrets ∧ secrets.Nodup ∧
      Numbered secrets (volumes (pullAttachments builder request))
        (mounts (pullAttachments builder request)) (allArgs (pullAttachments builder request)) ∧
      ∀ secret, pullAttachments builder (request ++ [secret]) =
        pullAttachments builder request ++
          if secret = "" ∨ secret ∈ builder ++ request then []
          else [⟨⟨"image-pull-secret-volume-" ++ toString (pullAttachments builder request).length,
            .secret secret⟩, "/var/build-secrets/imagepull/" ++ secret,
            ["-imagepull=" ++ secret]⟩] :=
  have hfirst := names_areFirst (builder ++ request)
  ⟨names (builder ++ request), names_eq_eraseDups _, hfirst, hfirst.nodup,
    numbered_pullAttachments builder request, pullAttachments_concat builder request⟩

/-- A name of the builder keeps its number, and empty names take none. -/
example :
    volumes (pullAttachments ["", "base", "shared"] ["shared", "", "own", "base"]) =
      [.secret "image-pull-secret-volume-0" "base", .secret "image-pull-secret-volume-1" "shared",
        .secret "image-pull-secret-volume-2" "own"] := by
  decide +kernel

end ImageBuild.Credential
