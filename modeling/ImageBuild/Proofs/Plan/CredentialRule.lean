import ImageBuild.Proofs.Plan.Restriction

/-!
# Rules for credentials

A credential is handed to a step by the first rule that matches it; the rules for
registries go before those for git. What a step has of a list of credentials is three
lists, and `Wiring` says what stands at each place of them. A step that needs registries
only has the entries of a step that needs both whose arguments are for registries. The
main statement is `attachments_wired`.
-/
namespace ImageBuild

namespace Credential

/-- The credential has an annotation with this value, which is not empty. -/
def Annotated (c : Credential) (key value : String) : Prop :=
  c.annotations.get? key = some value ∧ value ≠ ""

theorem annotation_eq_some_iff {c : Credential} {key value : String} :
    c.annotation key = some value ↔ c.Annotated key value := by
  unfold annotation Annotated
  simp [Option.filter_eq_some_iff]

theorem annotation_eq_none_iff {c : Credential} {key : String} :
    c.annotation key = none ↔ ∀ value, ¬ c.Annotated key value := by
  simp only [Option.eq_none_iff_forall_ne_some, ne_eq, annotation_eq_some_iff]

end Credential

/-- The rules for credentials. -/
inductive CredentialRule where
  | basicDocker
  | dockerConfigJson
  | dockerConfig
  | basicGit
  | sshGit
  deriving DecidableEq, Repr

namespace CredentialRule

open Credential (Annotated)

/-- The rule matches the credential and gives this argument. -/
inductive Gives (c : Credential) : CredentialRule → String → Prop
  | basicDocker {registry : String} (kind : c.kind = .basicAuth)
      (annotated : c.Annotated "kiln.dev/docker" registry) :
      Gives c .basicDocker ("-basic-docker=" ++ c.name ++ "=" ++ registry)
  | dockerConfigJson (kind : c.kind = .dockerConfigJson) :
      Gives c .dockerConfigJson ("-dockerconfig=" ++ c.name)
  | dockerConfig (kind : c.kind = .dockerConfig) : Gives c .dockerConfig ("-dockercfg=" ++ c.name)
  | basicGit {url : String} (kind : c.kind = .basicAuth)
      (annotated : c.Annotated "kiln.dev/git" url) :
      Gives c .basicGit ("-basic-git=" ++ c.name ++ "=" ++ url)
  | sshGit {url : String} (kind : c.kind = .sshAuth)
      (annotated : c.Annotated "kiln.dev/git" url) :
      Gives c .sshGit ("-ssh-git=" ++ c.name ++ "=" ++ url)
  | sshGitBare (kind : c.kind = .sshAuth) (bare : ∀ url, ¬ c.Annotated "kiln.dev/git" url) :
      Gives c .sshGit ("-ssh-git=" ++ c.name ++ "=")

/-- The first rule of a list that matches the credential gives this argument. -/
inductive First (c : Credential) : List CredentialRule → String → Prop
  | here {rule : CredentialRule} {rules : List CredentialRule} {arg : String}
      (gives : Gives c rule arg) : First c (rule :: rules) arg
  | later {rule : CredentialRule} {rules : List CredentialRule} {arg : String}
      (skipped : ∀ a, ¬ Gives c rule a) (rest : First c rules arg) : First c (rule :: rules) arg

/-- The rules for registries. -/
def registry : List CredentialRule := [.basicDocker, .dockerConfigJson, .dockerConfig]

/-- The rules for git. -/
def git : List CredentialRule := [.basicGit, .sshGit]

/-- The rules of a scope in their order. -/
def ofScope : CredentialScope → List CredentialRule
  | .all => registry ++ git
  | .registryOnly => registry

/-- The type of the credentials that a rule is for. -/
def kind : CredentialRule → SecretKind
  | .basicDocker | .basicGit => .basicAuth
  | .dockerConfigJson => .dockerConfigJson
  | .dockerConfig => .dockerConfig
  | .sshGit => .sshAuth

variable {c : Credential} {rule : CredentialRule} {rules more : List CredentialRule}
  {arg : String}

theorem Gives.kind_eq (h : Gives c rule arg) : c.kind = rule.kind := by
  cases h <;> assumption

theorem not_first_nil : ¬ First c [] arg := by
  intro h
  cases h

theorem first_cons_iff :
    First c (rule :: rules) arg ↔
      Gives c rule arg ∨ (∀ a, ¬ Gives c rule a) ∧ First c rules arg := by
  constructor
  · intro h
    cases h with
    | here gives => exact .inl gives
    | later skipped rest => exact .inr ⟨skipped, rest⟩
  · rintro (gives | ⟨skipped, rest⟩)
    · exact .here gives
    · exact .later skipped rest

theorem not_first_cons_iff :
    (∀ a, ¬ First c (rule :: rules) a) ↔
      (∀ a, ¬ Gives c rule a) ∧ ∀ a, ¬ First c rules a := by
  constructor
  · intro h
    have skipped : ∀ a, ¬ Gives c rule a := fun a gives => h a (.here gives)
    exact ⟨skipped, fun a rest => h a (.later skipped rest)⟩
  · rintro ⟨skipped, hrest⟩ a h
    rcases first_cons_iff.1 h with gives | ⟨-, rest⟩
    · exact skipped a gives
    · exact hrest a rest

theorem not_first_iff :
    (∀ a, ¬ First c rules a) ↔ ∀ rule ∈ rules, ∀ a, ¬ Gives c rule a := by
  induction rules with
  | nil => simp [not_first_nil]
  | cons rule rules ih => rw [not_first_cons_iff, ih, List.forall_mem_cons]

theorem exists_first_iff :
    (∃ arg, First c rules arg) ↔ ∃ rule ∈ rules, ∃ arg, Gives c rule arg := by
  rw [← not_iff_not]
  push Not
  exact not_first_iff

theorem first_append_iff :
    First c (rules ++ more) arg ↔
      First c rules arg ∨ (∀ a, ¬ First c rules a) ∧ First c more arg := by
  induction rules with
  | nil => simp [not_first_nil]
  | cons rule rules ih =>
    rw [List.cons_append, first_cons_iff, first_cons_iff, not_first_cons_iff, ih, and_or_left,
      or_assoc, and_assoc]

/-- Among rules for credentials of different types it does not matter which goes first. -/
theorem first_iff_of_kinds (h : (rules.map kind).Nodup) :
    First c rules arg ↔ ∃ rule ∈ rules, Gives c rule arg := by
  induction rules with
  | nil => simp [not_first_nil]
  | cons rule rules ih =>
    obtain ⟨hkind, hrest⟩ := List.nodup_cons.1 h
    rw [first_cons_iff, List.exists_mem_cons_iff, ih hrest]
    refine or_congr_right (and_iff_right_of_imp ?_)
    rintro ⟨other, hother, hgives⟩ a ha
    exact hkind (ha.kind_eq ▸ hgives.kind_eq ▸ List.mem_map_of_mem hother)

theorem registryArg_eq_some_iff :
    c.registryArg = some arg ↔ ∃ rule ∈ registry, Gives c rule arg := by
  constructor
  · intro h
    unfold Credential.registryArg at h
    split at h
    next hkind =>
      obtain ⟨value, hvalue, rfl⟩ := Option.map_eq_some_iff.1 h
      have hdocker := Credential.annotation_eq_some_iff.1 hvalue
      exact ⟨.basicDocker, by decide, .basicDocker hkind hdocker⟩
    next hkind =>
      cases h
      exact ⟨.dockerConfigJson, by decide, .dockerConfigJson hkind⟩
    next hkind =>
      cases h
      exact ⟨.dockerConfig, by decide, .dockerConfig hkind⟩
    next => cases h
  · rintro ⟨rule, hrule, hgives⟩
    cases hgives with
    | basicDocker hkind hvalue =>
      have hdocker := Credential.annotation_eq_some_iff.2 hvalue
      simp [Credential.registryArg, hkind, Credential.dockerKey, hdocker]
    | dockerConfigJson hkind => simp [Credential.registryArg, hkind]
    | dockerConfig hkind => simp [Credential.registryArg, hkind]
    | basicGit => exact absurd hrule (by decide)
    | sshGit => exact absurd hrule (by decide)
    | sshGitBare => exact absurd hrule (by decide)

theorem gitArg_eq_some_iff : c.gitArg = some arg ↔ ∃ rule ∈ git, Gives c rule arg := by
  constructor
  · intro h
    unfold Credential.gitArg at h
    split at h
    next hkind =>
      obtain ⟨value, hvalue, rfl⟩ := Option.map_eq_some_iff.1 h
      exact ⟨.basicGit, by decide, .basicGit hkind (Credential.annotation_eq_some_iff.1 hvalue)⟩
    next hkind =>
      cases h
      refine ⟨.sshGit, by decide, ?_⟩
      cases hvalue : c.annotation Credential.gitKey with
      | some value => exact .sshGit hkind (Credential.annotation_eq_some_iff.1 hvalue)
      | none =>
        rw [Option.getD_none, String.append_empty]
        exact .sshGitBare hkind (Credential.annotation_eq_none_iff.1 hvalue)
    next => cases h
  · rintro ⟨rule, hrule, hgives⟩
    cases hgives with
    | basicDocker => exact absurd hrule (by decide)
    | dockerConfigJson => exact absurd hrule (by decide)
    | dockerConfig => exact absurd hrule (by decide)
    | basicGit hkind hvalue =>
      have hgit := Credential.annotation_eq_some_iff.2 hvalue
      simp [Credential.gitArg, hkind, Credential.gitKey, hgit]
    | sshGit hkind hvalue =>
      have hgit := Credential.annotation_eq_some_iff.2 hvalue
      simp [Credential.gitArg, hkind, Credential.gitKey, hgit]
    | sshGitBare hkind hbare =>
      have hgit := Credential.annotation_eq_none_iff.2 hbare
      simp [Credential.gitArg, hkind, Credential.gitKey, hgit]

theorem first_registry_iff : First c registry arg ↔ c.registryArg = some arg := by
  rw [first_iff_of_kinds (by decide), registryArg_eq_some_iff]

theorem first_git_iff : First c git arg ↔ c.gitArg = some arg := by
  rw [first_iff_of_kinds (by decide), gitArg_eq_some_iff]

theorem first_ofScope_iff {scope : CredentialScope} :
    First c (ofScope scope) arg ↔ c.arg scope = some arg := by
  cases scope with
  | registryOnly => exact first_registry_iff
  | all =>
    rw [ofScope, first_append_iff, Credential.arg]
    simp only [first_registry_iff, first_git_iff]
    cases c.registryArg <;> simp

/-- Some rule of the scope matches the credential. -/
def Matches (scope : CredentialScope) (c : Credential) : Prop :=
  ∃ rule ∈ ofScope scope, ∃ arg, Gives c rule arg

theorem matches_iff {scope : CredentialScope} : Matches scope c ↔ (c.arg scope).isSome := by
  rw [Matches, ← exists_first_iff, Option.isSome_iff_exists]
  simp only [first_ofScope_iff]

instance (scope : CredentialScope) (c : Credential) : Decidable (Matches scope c) :=
  decidable_of_iff _ matches_iff.symm

/-- The argument has one of the forms for registries. -/
def IsForRegistry (arg : String) : Prop :=
  ∃ lead ∈ ["-basic-docker=", "-dockerconfig=", "-dockercfg="], lead.toList <+: arg.toList

instance (arg : String) : Decidable (IsForRegistry arg) :=
  inferInstanceAs (Decidable (∃ lead ∈ _, _))

theorem Gives.isForRegistry_iff (h : Gives c rule arg) : IsForRegistry arg ↔ rule ∈ registry := by
  cases h <;> simp [IsForRegistry, registry]

/-- A scope keeps the arguments for registries as they are and drops the others. -/
theorem arg_registryOnly (c : Credential) :
    c.arg .registryOnly = (c.arg .all).filter fun arg => decide (IsForRegistry arg) := by
  have hregistry : ∀ arg, c.registryArg = some arg → IsForRegistry arg := by
    intro arg h
    obtain ⟨rule, hrule, hgives⟩ := registryArg_eq_some_iff.1 h
    exact hgives.isForRegistry_iff.2 hrule
  have hgit : ∀ arg, c.gitArg = some arg → ¬ IsForRegistry arg := by
    intro arg h hform
    obtain ⟨rule, hrule, hgives⟩ := gitArg_eq_some_iff.1 h
    have hdisjoint : ∀ rule ∈ git, rule ∉ registry := by decide
    exact hdisjoint rule hrule (hgives.isForRegistry_iff.1 hform)
  rw [Credential.arg, Credential.arg]
  cases hdocker : c.registryArg with
  | some arg => simp [Option.filter, hregistry arg hdocker]
  | none =>
    cases hurl : c.gitArg with
    | some arg => simp [Option.filter, hgit arg hurl]
    | none => rfl

end CredentialRule

/-- A credential that a step is handed, with its position in its list and its argument. -/
structure CredentialEntry where
  position : Nat
  credential : Credential
  arg : String

namespace CredentialEntry

def attachment (e : CredentialEntry) : Attachment :=
  ⟨.secret ("secret-volume-" ++ toString e.position) e.credential.name,
    Credential.secretsPath ++ "/" ++ e.credential.name, [e.arg]⟩

/-- The entries of the credentials in scope. -/
def ofScope (scope : CredentialScope) (cs : List Credential) : List CredentialEntry :=
  cs.zipIdx.filterMap fun c => (c.1.arg scope).map fun arg => ⟨c.2, c.1, arg⟩

variable {scope : CredentialScope} {cs : List Credential} {e : CredentialEntry}

theorem mem_ofScope :
    e ∈ ofScope scope cs ↔
      cs[e.position]? = some e.credential ∧ e.credential.arg scope = some e.arg := by
  rw [ofScope, List.mem_filterMap]
  constructor
  · rintro ⟨c, hplace, h⟩
    obtain ⟨arg, harg, rfl⟩ := Option.map_eq_some_iff.1 h
    exact ⟨List.mem_zipIdx_iff_getElem?.1 hplace, harg⟩
  · rintro ⟨hplace, harg⟩
    refine ⟨(e.credential, e.position), List.mem_zipIdx_iff_getElem?.2 hplace, ?_⟩
    rw [harg, Option.map_some]

/-- The positions are those of the list, some left out. -/
theorem positions_ofScope (scope : CredentialScope) (cs : List Credential) :
    ((ofScope scope cs).map position).Pairwise (· < ·) := by
  have hall : (cs.zipIdx.map Prod.snd).Pairwise (· < ·) := by
    rw [List.zipIdx_map_snd]
    exact List.pairwise_lt_range'
  refine hall.sublist (Attachment.map_filterMap_sublist (fun c e h => ?_) cs.zipIdx)
  obtain ⟨arg, -, rfl⟩ := Option.map_eq_some_iff.1 h
  rfl

theorem ofScope_registryOnly (cs : List Credential) :
    ofScope .registryOnly cs =
      (ofScope .all cs).filter fun e => CredentialRule.IsForRegistry e.arg := by
  rw [ofScope, ofScope, List.filter_filterMap]
  refine List.filterMap_congr fun c _ => ?_
  rw [CredentialRule.arg_registryOnly]
  cases c.1.arg .all <;> simp [Option.filter]

end CredentialEntry

namespace Credential

open CredentialEntry (ofScope)

theorem attachments_eq_map (scope : CredentialScope) (cs : List Credential) :
    attachments scope cs = (ofScope scope cs).map CredentialEntry.attachment := by
  rw [ofScope, List.map_filterMap]
  refine List.filterMap_congr fun c _ => ?_
  rw [Option.map_map]
  rfl

theorem map_attachments {β : Type} (f : Attachment → β) (scope : CredentialScope)
    (cs : List Credential) :
    (attachments scope cs).map f = (ofScope scope cs).map fun e => f e.attachment := by
  rw [attachments_eq_map, List.map_map]
  rfl

theorem allArgs_attachments (scope : CredentialScope) (cs : List Credential) :
    Attachment.allArgs (attachments scope cs) = (ofScope scope cs).map CredentialEntry.arg := by
  rw [attachments_eq_map, Attachment.allArgs, List.flatMap_map]
  exact List.map_eq_flatMap.symm

end Credential

namespace Attachment

/-- The volumes, mounts and arguments of a list of attachments side by side. -/
def wires (as : List Attachment) : List (Volume × VolumeMount × String) :=
  (volumes as).zip ((mounts as).zip (allArgs as))

end Attachment

/-- The volumes, the mounts and the arguments of a step are those of some credentials of
a list: those that a rule matches, in the order of their positions. -/
structure Wiring (scope : CredentialScope) (cs : List Credential) (positions : List Nat)
    (volumes : List Volume) (mounts : List VolumeMount) (args : List String) : Prop where
  increasing : positions.Pairwise (· < ·)
  mem_positions : ∀ i, i ∈ positions ↔ ∃ c, cs[i]? = some c ∧ CredentialRule.Matches scope c
  volumes_length : volumes.length = positions.length
  mounts_length : mounts.length = positions.length
  args_length : args.length = positions.length
  entry : ∀ k i : Nat, positions[k]? = some i → ∃ c arg, cs[i]? = some c ∧
    CredentialRule.First c (CredentialRule.ofScope scope) arg ∧
    volumes[k]? = some ⟨"secret-volume-" ++ toString i, .secret c.name⟩ ∧
    mounts[k]? = some ⟨"/var/build-secrets/" ++ c.name, none, "secret-volume-" ++ toString i,
      some true, none, none⟩ ∧
    args[k]? = some arg

namespace Credential

open CredentialEntry (ofScope)

theorem wires_attachments (scope : CredentialScope) (cs : List Credential) :
    Attachment.wires (attachments scope cs) =
      (ofScope scope cs).map fun e => (e.attachment.volume, e.attachment.mount, e.arg) := by
  rw [Attachment.wires, Attachment.volumes, Attachment.mounts, map_attachments, map_attachments,
    allArgs_attachments, List.zip_map', List.zip_map']

theorem wiring_attachments (scope : CredentialScope) (cs : List Credential) :
    Wiring scope cs ((ofScope scope cs).map CredentialEntry.position)
      (Attachment.volumes (attachments scope cs)) (Attachment.mounts (attachments scope cs))
      (Attachment.allArgs (attachments scope cs)) where
  increasing := CredentialEntry.positions_ofScope scope cs
  mem_positions := by
    intro i
    simp only [CredentialRule.matches_iff, Option.isSome_iff_exists, List.mem_map,
      CredentialEntry.mem_ofScope]
    constructor
    · rintro ⟨e, ⟨hplace, harg⟩, rfl⟩
      exact ⟨e.credential, hplace, e.arg, harg⟩
    · rintro ⟨c, hplace, arg, harg⟩
      exact ⟨⟨i, c, arg⟩, ⟨hplace, harg⟩, rfl⟩
  volumes_length := by rw [Attachment.volumes, map_attachments, List.length_map, List.length_map]
  mounts_length := by rw [Attachment.mounts, map_attachments, List.length_map, List.length_map]
  args_length := by rw [allArgs_attachments, List.length_map, List.length_map]
  entry := by
    intro k i hk
    rw [List.getElem?_map] at hk
    obtain ⟨e, he, rfl⟩ := Option.map_eq_some_iff.1 hk
    obtain ⟨hplace, harg⟩ := CredentialEntry.mem_ofScope.1 (List.mem_of_getElem? he)
    refine ⟨e.credential, e.arg, hplace, CredentialRule.first_ofScope_iff.2 harg, ?_, ?_, ?_⟩
    · rw [Attachment.volumes, map_attachments, List.getElem?_map, he]
      rfl
    · have hroot : secretsPath ++ "/" = "/var/build-secrets/" := by decide
      rw [Attachment.mounts, map_attachments, List.getElem?_map, he, ← hroot]
      rfl
    · rw [allArgs_attachments, List.getElem?_map, he]
      rfl

/-- What a step has of a list of credentials is wired by the first rule that matches,
and a step that needs registries only has what is for registries, unchanged. -/
theorem attachments_wired (cs : List Credential) :
    (∀ scope, ∃ positions, Wiring scope cs positions (Attachment.volumes (attachments scope cs))
        (Attachment.mounts (attachments scope cs)) (Attachment.allArgs (attachments scope cs))) ∧
      Attachment.wires (attachments .registryOnly cs) =
        (Attachment.wires (attachments .all cs)).filter fun w =>
          CredentialRule.IsForRegistry w.2.2 := by
  refine ⟨fun scope => ⟨_, wiring_attachments scope cs⟩, ?_⟩
  rw [wires_attachments, wires_attachments, CredentialEntry.ofScope_registryOnly, List.filter_map]
  rfl

/-- An empty annotation is none, and a credential without a rule leaves its place free. -/
example :
    attachments .all
      [⟨"a", .basicAuth, .ofList [("kiln.dev/docker", "")], false⟩,
        ⟨"b", .basicAuth, .ofList [("kiln.dev/docker", ""), ("kiln.dev/git", "host")], false⟩] =
    [⟨.secret "secret-volume-1" "b", "/var/build-secrets/b", ["-basic-git=b=host"]⟩] := by
  decide +kernel

end Credential

end ImageBuild
