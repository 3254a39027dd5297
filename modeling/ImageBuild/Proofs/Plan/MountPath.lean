import ImageBuild.Proofs.Names
import ImageBuild.Proofs.Plan.VolumeClosure
import ImageBuild.Proofs.Text.Cut

/-!
# Where steps see volumes

A path is spelled by the names on it. Names that are free of slashes can be read
off again, so that different places are spelled differently. Each step sees its
own volumes below one directory, each at a place of its own, and the volumes that
it shares with other steps elsewhere. The main statement is
`plan_mountPathsDistinct`.
-/
namespace ImageBuild

namespace MountPath

/-- How the path with some names is spelled. -/
def text : List String → String
  | [] => ""
  | name :: names => "/" ++ name ++ text names

/-- No name has a slash. -/
def Free (names : List String) : Prop := ∀ n ∈ names, '/' ∉ n.toList

instance (names : List String) : Decidable (Free names) :=
  inferInstanceAs (Decidable (∀ n ∈ names, '/' ∉ n.toList))

theorem text_append (names more : List String) :
    text (names ++ more) = text names ++ text more := by
  induction names with
  | nil => exact String.empty_append.symm
  | cons n names ih =>
    rw [List.cons_append, text, text, ih, String.append_assoc, String.append_assoc,
      String.append_assoc]

theorem text_concat (names : List String) (n : String) :
    text (names ++ [n]) = text names ++ "/" ++ n := by
  rw [text_append, String.append_assoc]
  exact congrArg (text names ++ ·) String.append_empty

/-- The directory of the secrets that serve the planner's own steps. -/
def secretRoot : List String := ["var", "build-secrets"]

/-- The directory of the service bindings. -/
def bindingRoot : List String := ["platform", "bindings"]

theorem text_secretRoot : text secretRoot = Credential.secretsPath := by decide

theorem text_bindingRoot : text bindingRoot = Layout.bindingRoot := by decide

theorem free_append {names more : List String} : Free (names ++ more) ↔ Free names ∧ Free more :=
  List.forall_mem_append

theorem free_cons {n : String} {names : List String} :
    Free (n :: names) ↔ '/' ∉ n.toList ∧ Free names :=
  List.forall_mem_cons

theorem cut_append_text {s : List Char} {names : List String} (hs : '/' ∉ s) (h : Free names) :
    Text.cut (· == '/') (s ++ (text names).toList) = s :: names.map String.toList := by
  have hsep : ∀ {s : List Char}, '/' ∉ s → ∀ c ∈ s, (c == '/') = false := by
    intro s hs c hc
    exact beq_false_of_ne fun heq => hs (heq ▸ hc)
  induction names generalizing s with
  | nil =>
    rw [text, String.toList_empty, List.append_nil, List.map_nil]
    exact Text.cut_of_free (hsep hs)
  | cons n names ih =>
    obtain ⟨hn, hnames⟩ := free_cons.1 h
    have hchars : (text (n :: names)).toList = '/' :: (n.toList ++ (text names).toList) := by
      simp [text]
    rw [hchars, Text.cut_append_separator (hsep hs) (beq_self_eq_true '/'), ih hn hnames,
      List.map_cons]

theorem eq_of_text_eq {names others : List String} (hn : Free names) (ho : Free others)
    (h : text names = text others) : names = others := by
  have hslash : '/' ∉ ([] : List Char) := List.not_mem_nil
  have hcut := cut_append_text hslash hn
  rw [h, cut_append_text hslash ho] at hcut
  have hchars : others.map String.toList = names.map String.toList := (List.cons.inj hcut).2
  exact (List.map_injective_iff.2 (fun _ _ => String.toList_injective) hchars).symm

/-- The places are different and lie below a directory. -/
structure Below (root : List String) (places : List (List String)) : Prop where
  nodup : places.Nodup
  below : ∀ p ∈ places, root <+: p
  free : ∀ p ∈ places, Free p

/-- The places are different and lie outside of a directory. -/
def Elsewhere (root : List String) (places : List (List String)) : Prop :=
  places.Nodup ∧ ∀ p ∈ places, ¬ root <+: p ∧ Free p

instance (root : List String) (places : List (List String)) : Decidable (Elsewhere root places) :=
  inferInstanceAs (Decidable (places.Nodup ∧ ∀ p ∈ places, ¬ root <+: p ∧ Free p))

variable {root : List String} {own before after : List (List String)}

theorem Below.nil : Below root [] :=
  ⟨List.nodup_nil, fun _ h => absurd h List.not_mem_nil, fun _ h => absurd h List.not_mem_nil⟩

theorem Below.append {more : List (List String)} (h : Below root own) (hmore : Below root more)
    (hdisjoint : ∀ p ∈ own, p ∉ more) : Below root (own ++ more) where
  nodup := h.nodup.append hmore.nodup hdisjoint
  below := List.forall_mem_append.2 ⟨h.below, hmore.below⟩
  free := List.forall_mem_append.2 ⟨h.free, hmore.free⟩

/-- Names that differ make different places below a directory. -/
theorem below_map {α : Type} {as : List α} (lead tail : List String) {name : α → String}
    (hnames : (as.map name).Nodup) (hfree : ∀ a ∈ as, '/' ∉ (name a).toList)
    (hlead : root <+: lead) (hfixed : Free (lead ++ tail)) :
    Below root (as.map fun a => lead ++ name a :: tail) where
  nodup := by
    have hplace : Function.Injective fun n : String => lead ++ n :: tail := by
      intro n m h
      exact (List.cons.inj (List.append_cancel_left h)).1
    have hcomp := hnames.map hplace
    rwa [List.map_map] at hcomp
  below := by
    intro p hp
    obtain ⟨a, -, rfl⟩ := List.mem_map.1 hp
    exact hlead.trans (List.prefix_append lead _)
  free := by
    intro p hp
    obtain ⟨a, ha, rfl⟩ := List.mem_map.1 hp
    obtain ⟨hfirst, hlast⟩ := free_append.1 hfixed
    exact free_append.2 ⟨hfirst, free_cons.2 ⟨hfree a ha, hlast⟩⟩

theorem nodup_around (hown : Below root own) (hshared : Elsewhere root (before ++ after)) :
    ((before ++ own ++ after).map text).Nodup := by
  have hperm : (before ++ own ++ after).Perm (own ++ (before ++ after)) := by
    rw [← List.append_assoc own]
    exact (List.perm_append_comm).append_right after
  have hnodup : (own ++ (before ++ after)).Nodup :=
    hown.nodup.append hshared.1 fun p hp hother => (hshared.2 p hother).1 (hown.below p hp)
  have hfree : ∀ p ∈ own ++ (before ++ after), Free p :=
    List.forall_mem_append.2 ⟨hown.free, fun p hp => (hshared.2 p hp).2⟩
  refine ((hperm.map text).nodup_iff).2 (List.Nodup.map_on ?_ hnodup)
  intro p hp q hq h
  exact eq_of_text_eq (hfree p hp) (hfree q hq) h

end MountPath

open MountPath (Below Elsewhere)

/-- The paths at which a container sees volumes. -/
def Container.mountPaths (c : Container) : List String :=
  (c.mounts.getD []).map VolumeMount.mountPath

namespace Attachment

def paths (as : List Attachment) : List String := as.map Attachment.path

@[simp] theorem mountPaths_mounts (as : List Attachment) :
    (mounts as).map VolumeMount.mountPath = paths as := by
  simp [mounts, paths, mount, VolumeMount.fixed]

/-- What is attached by name is seen at the places of these names, each once at most. -/
theorem paths_filterMap_zipIdx {α : Type} {attach : α → Nat → Option Attachment}
    {place : α → List String}
    (h : ∀ x i a, attach x i = some a → a.path = MountPath.text (place x)) (xs : List α) :
    (paths (xs.zipIdx.filterMap fun x => attach x.1 x.2)).Sublist
      ((xs.map place).map MountPath.text) := by
  have hplaces : xs.zipIdx.map (fun x => MountPath.text (place x.1)) =
      (xs.map place).map MountPath.text := by
    conv_rhs => rw [← List.zipIdx_map_fst 0 xs]
    rw [List.map_map, List.map_map]
    rfl
  rw [← hplaces]
  exact map_filterMap_sublist (fun x a => h x.1 x.2 a) xs.zipIdx

end Attachment

open Attachment (paths)

namespace Credential

/-- Where a step sees credentials. -/
def places (cs : List Credential) : List (List String) :=
  cs.map fun c => MountPath.secretRoot ++ [c.name]

/-- Where a step sees signing keys. -/
def signingPlaces (cs : List Credential) : List (List String) :=
  cs.map fun c => MountPath.secretRoot ++ ["cosign"] ++ [c.name]

/-- Where a step sees pull secrets. -/
def pullPlaces (pulls : List String) : List (List String) :=
  pulls.map fun n => MountPath.secretRoot ++ ["imagepull"] ++ [n]

theorem paths_attachments (scope : CredentialScope) (cs : List Credential) :
    (paths (attachments scope cs)).Sublist ((places cs).map MountPath.text) := by
  refine Attachment.paths_filterMap_zipIdx (fun c i a h => ?_) cs
  obtain ⟨arg, -, rfl⟩ := Option.map_eq_some_iff.1 h
  rw [MountPath.text_concat, MountPath.text_secretRoot]

theorem paths_signingAttachments (cs : List Credential) :
    (paths (signingAttachments cs)).Sublist ((signingPlaces cs).map MountPath.text) := by
  have hlead : MountPath.text (MountPath.secretRoot ++ ["cosign"]) ++ "/" =
      secretsPath ++ "/cosign/" := by
    decide
  refine Attachment.paths_filterMap_zipIdx (fun c i a h => ?_) cs
  unfold signingAttachment at h
  split at h
  · cases h
    rw [MountPath.text_concat, hlead]
  · cases h

theorem paths_pullAttachments (builder request : List String) :
    (paths (pullAttachments builder request)).Sublist
      ((pullPlaces (names (builder ++ request))).map MountPath.text) := by
  have hlead : MountPath.text (MountPath.secretRoot ++ ["imagepull"]) ++ "/" =
      secretsPath ++ "/imagepull/" := by
    decide
  have hpath : ∀ n i a, some (pullAttachment n i) = some a →
      a.path = MountPath.text (MountPath.secretRoot ++ ["imagepull"] ++ [n]) := by
    intro n i a h
    cases h
    rw [MountPath.text_concat, hlead]
    rfl
  rw [pullAttachments, ← List.filterMap_eq_map]
  exact Attachment.paths_filterMap_zipIdx hpath (names (builder ++ request))

/-- Credentials and pull secrets do not meet, since a name is no path. -/
theorem below_places {cs : List Credential} {pulls : List String}
    (hnames : (cs.map name).Nodup) (hpulls : pulls.Nodup)
    (hfree : ∀ c ∈ cs, '/' ∉ c.name.toList) (hpullsFree : ∀ n ∈ pulls, '/' ∉ n.toList) :
    Below MountPath.secretRoot (places cs ++ pullPlaces pulls) := by
  have hself : (pulls.map id).Nodup := by rwa [List.map_id]
  have hcredentials := MountPath.below_map MountPath.secretRoot [] hnames hfree
    (List.prefix_refl MountPath.secretRoot) (by decide)
  have hpull := MountPath.below_map (MountPath.secretRoot ++ ["imagepull"]) [] hself hpullsFree
    (List.prefix_append MountPath.secretRoot _) (by decide)
  refine hcredentials.append hpull ?_
  intro p hp hother
  obtain ⟨c, -, rfl⟩ := List.mem_map.1 hp
  obtain ⟨n, -, hn⟩ := List.mem_map.1 hother
  simp [MountPath.secretRoot] at hn

theorem below_signingPlaces {cs : List Credential} (hnames : (cs.map name).Nodup)
    (hfree : ∀ c ∈ cs, '/' ∉ c.name.toList) : Below MountPath.secretRoot (signingPlaces cs) :=
  MountPath.below_map (MountPath.secretRoot ++ ["cosign"]) [] hnames hfree
    (List.prefix_append MountPath.secretRoot _) (by decide)

end Credential

namespace ServiceBinding

/-- Where a step can see the parts of a binding. -/
def places (binding : String) : List (List String) :=
  [[], ["metadata"], ["secret"]].map fun part => MountPath.bindingRoot ++ binding :: part

theorem paths_attachments {b : ServiceBinding} {as : List Attachment}
    (h : b.attachments = .ok as) :
    (paths as).Sublist ((places b.name).map MountPath.text) := by
  have hplaces : (places b.name).map MountPath.text =
      [Layout.bindingRoot ++ "/" ++ b.name, Layout.bindingRoot ++ "/" ++ b.name ++ "/metadata",
        Layout.bindingRoot ++ "/" ++ b.name ++ "/secret"] := by
    simp [places, MountPath.text_append, MountPath.text_bindingRoot, MountPath.text,
      String.append_assoc]
  have hpaths := (parts_sublist h).map Prod.snd
  rw [List.map_map] at hpaths
  rwa [hplaces]

theorem paths_attachAll {bs : List ServiceBinding} {as : List Attachment}
    (h : attachAll bs = .ok as) :
    (paths as).Sublist (((bs.map name).flatMap places).map MountPath.text) := by
  rw [List.map_flatMap]
  exact map_attachUnless_sublist paths_attachments h

theorem below_places {names : List String} (hnames : names.Nodup)
    (hfree : ∀ n ∈ names, '/' ∉ n.toList) :
    Below MountPath.bindingRoot (names.flatMap places) where
  nodup := by
    rw [List.nodup_flatMap]
    constructor
    · intro n _
      simp [places]
    · refine hnames.imp fun {m n} hne p hm hn => hne ?_
      obtain ⟨part, -, rfl⟩ := List.mem_map.1 hm
      obtain ⟨other, -, hother⟩ := List.mem_map.1 hn
      exact (List.cons.inj (List.append_cancel_left hother)).1.symm
  below := by
    intro p hp
    obtain ⟨n, -, hp⟩ := List.mem_flatMap.1 hp
    obtain ⟨part, -, rfl⟩ := List.mem_map.1 hp
    exact List.prefix_append _ _
  free := by
    intro p hp
    obtain ⟨n, hn, hp⟩ := List.mem_flatMap.1 hp
    obtain ⟨part, hpart, rfl⟩ := List.mem_map.1 hp
    have hparts : ∀ part ∈ [[], ["metadata"], ["secret"]], MountPath.Free part := by decide
    have hroot : MountPath.Free MountPath.bindingRoot := by decide
    exact MountPath.free_append.2
      ⟨hroot, MountPath.free_cons.2 ⟨hfree n hn, hparts part hpart⟩⟩

end ServiceBinding

namespace PlanBasis

variable (b : PlanBasis) {bindings : List Attachment} {epoch : Option Int64}

@[simp] theorem mountPaths_helperStep (name image command : String) (args : List String)
    (env : List EnvVar) (mounts : List VolumeMount) :
    (helperStep name image command args env mounts).mountPaths =
      mounts.map VolumeMount.mountPath :=
  rfl

@[simp] theorem mountPaths_lifecycleStep (name command : String) (args : List String)
    (env : List EnvVar) (mounts : List VolumeMount) :
    (b.lifecycleStep name command args env mounts).mountPaths =
      mounts.map VolumeMount.mountPath :=
  rfl

theorem mountPaths_adapt (c : Container) :
    (b.adapt c).mountPaths =
      c.mountPaths ++ if b.windows then [Layout.networkWait.mountPath] else [] := by
  unfold adapt
  cases b.windows with
  | false => exact (List.append_nil _).symm
  | true => exact List.map_append

/-- The step sees its own volumes below a directory and the others elsewhere, also
where the operating system adds the launcher. -/
structure SeesApart (c : Container) (root : List String) (before own after : List (List String)) :
    Prop where
  paths : c.mountPaths.Sublist ((before ++ own ++ after).map MountPath.text)
  own : Below root own
  shared : Elsewhere root (before ++ (after ++ [["networkWait"]]))

variable {b}

theorem SeesApart.nodup_adapt {c : Container} {root : List String}
    {before own after : List (List String)} (h : SeesApart c root before own after) :
    (b.adapt c).mountPaths.Nodup := by
  have hlauncher : (if b.windows then [Layout.networkWait.mountPath] else []).Sublist
      ([["networkWait"]].map MountPath.text) := by
    cases b.windows <;> decide
  have hpaths := h.paths.append hlauncher
  rw [← List.map_append, List.append_assoc] at hpaths
  rw [mountPaths_adapt]
  exact (MountPath.nodup_around h.own h.shared).sublist hpaths

/-- Credentials have different names, and no name of a secret or of a binding is a path. -/
structure NamesApart (b : PlanBasis) : Prop where
  credentials : (b.context.credentials.map Credential.name).Nodup
  credentialsFree : ∀ c ∈ b.context.credentials, '/' ∉ c.name.toList
  pullsFree : ∀ n ∈ b.request.builder.pullSecrets ++
    (b.context.pullSecrets ++ b.request.source.source.pullSecrets), '/' ∉ n.toList
  servicesFree : ∀ s ∈ b.request.services, '/' ∉ s.name.toList

/-- Where a step can see credentials and pull secrets. -/
def accessPlaces (b : PlanBasis) : List (List String) :=
  Credential.places b.context.credentials ++
    Credential.pullPlaces (names (b.request.builder.pullSecrets ++
      (b.context.pullSecrets ++ b.request.source.source.pullSecrets)))

theorem paths_access (scope : CredentialScope) :
    (paths (b.credentials scope) ++ paths b.pulls).Sublist (b.accessPlaces.map MountPath.text) := by
  rw [accessPlaces, List.map_append]
  exact (Credential.paths_attachments scope _).append (Credential.paths_pullAttachments _ _)

theorem below_accessPlaces (h : b.NamesApart) : Below MountPath.secretRoot b.accessPlaces := by
  have hpulls := (names_areFirst (b.request.builder.pullSecrets ++
    (b.context.pullSecrets ++ b.request.source.source.pullSecrets))).nodup
  refine Credential.below_places h.credentials hpulls h.credentialsFree fun n hn => ?_
  exact h.pullsFree n (mem_names.1 hn).2

/-- The credentials and pull secrets of a step are seen at these places, which are apart. -/
structure AccessAt (b : PlanBasis) (scope : CredentialScope) (places : List (List String)) :
    Prop where
  paths : (paths (b.credentials scope) ++ paths b.pulls).Sublist (places.map MountPath.text)
  below : Below MountPath.secretRoot places

theorem NamesApart.access (h : b.NamesApart) (scope : CredentialScope) :
    b.AccessAt scope b.accessPlaces :=
  ⟨paths_access scope, below_accessPlaces h⟩

variable {places : List (List String)}

/-- A step that has credentials sees them before the volumes that it shares. -/
theorem access_seesApart {scope : CredentialScope} (h : b.AccessAt scope places)
    {name image command : String} {args : List String} {env : List EnvVar}
    {shared : List VolumeMount} {after : List (List String)}
    (hshared : shared.map VolumeMount.mountPath = after.map MountPath.text)
    (hafter : Elsewhere MountPath.secretRoot (after ++ [["networkWait"]])) :
    SeesApart (helperStep name image command args env
      (Attachment.mounts (b.credentials scope) ++ Attachment.mounts b.pulls ++ shared))
      MountPath.secretRoot [] places after where
  paths := by
    rw [mountPaths_helperStep, List.map_append, List.map_append, hshared, List.nil_append,
      List.map_append, Attachment.mountPaths_mounts, Attachment.mountPaths_mounts]
    exact h.paths.append (List.Sublist.refl _)
  own := h.below
  shared := hafter

theorem prepare_seesApart (h : b.AccessAt .all places) :
    SeesApart b.prepareStep MountPath.secretRoot [] places
      [["platform"], ["workspace"], ["builder", "home"], ["projectMetadata"]] :=
  access_seesApart h (by decide) (by decide)

theorem rebase_seesApart (h : b.AccessAt .registryOnly places) (image : String) :
    SeesApart (b.rebaseStep image) MountPath.secretRoot [] places
      [["builder", "home"], ["var", "report"]] :=
  access_seesApart h (by decide) (by decide)

theorem completion_seesApart
    (hpaths : (paths b.signing).Sublist (places.map MountPath.text))
    (hplaces : Below MountPath.secretRoot places) :
    SeesApart b.completionStep MountPath.secretRoot
      [["var", "report"], ["builder", "home"], ["var", "notary", "v1"]] places [] where
  paths := by
    have hall : [Layout.report, Layout.home, Layout.notary].map VolumeMount.mountPath =
        [["var", "report"], ["builder", "home"], ["var", "notary", "v1"]].map MountPath.text := by
      decide
    have hnotary : ([Layout.report, Layout.home] ++
        (b.notary.map fun _ => Layout.notary).toList).Sublist
          [Layout.report, Layout.home, Layout.notary] := by
      cases b.notary with
      | none => exact List.sublist_append_left _ _
      | some n => exact List.Sublist.refl _
    rw [completionStep, mountPaths_helperStep, List.append_nil, List.map_append,
      Attachment.mountPaths_mounts, List.map_append (f := MountPath.text), ← hall]
    exact (hnotary.map _).append hpaths
  own := hplaces
  shared := by decide

theorem prepareStep_seesApart (h : b.NamesApart) :
    SeesApart b.prepareStep MountPath.secretRoot [] b.accessPlaces
      [["platform"], ["workspace"], ["builder", "home"], ["projectMetadata"]] :=
  prepare_seesApart (h.access .all)

theorem rebaseStep_seesApart (h : b.NamesApart) (image : String) :
    SeesApart (b.rebaseStep image) MountPath.secretRoot [] b.accessPlaces
      [["builder", "home"], ["var", "report"]] :=
  rebase_seesApart (h.access .registryOnly) image

theorem completionStep_seesApart (h : b.NamesApart) :
    SeesApart b.completionStep MountPath.secretRoot
      [["var", "report"], ["builder", "home"], ["var", "notary", "v1"]]
      (Credential.signingPlaces b.context.credentials) [] :=
  completion_seesApart (Credential.paths_signingAttachments _)
    (Credential.below_signingPlaces h.credentials h.credentialsFree)

/-- A step that runs buildpacks sees the bindings after the volumes that it shares. -/
theorem bound_seesApart (hfree : ∀ s ∈ b.request.services, '/' ∉ s.name.toList)
    (hbindings : ServiceBinding.attachAll b.request.services = .ok bindings)
    {name command : String} {args : List String} {env : List EnvVar} :
    SeesApart (b.lifecycleStep name command args env
      ([Layout.layers, Layout.platform, Layout.workspace] ++ Attachment.mounts bindings))
      MountPath.bindingRoot [["layers"], ["platform"], ["workspace"]]
      ((b.request.services.map ServiceBinding.name).flatMap ServiceBinding.places) [] where
  paths := by
    have hshared : [Layout.layers, Layout.platform, Layout.workspace].map VolumeMount.mountPath =
        [["layers"], ["platform"], ["workspace"]].map MountPath.text := by
      decide
    rw [mountPaths_lifecycleStep, List.map_append, List.append_nil, List.map_append, hshared,
      Attachment.mountPaths_mounts]
    exact (List.Sublist.refl _).append (ServiceBinding.paths_attachAll hbindings)
  own := by
    refine ServiceBinding.below_places (ServiceBinding.attachUnless_nodup hbindings).1 ?_
    intro n hn
    obtain ⟨s, hs, rfl⟩ := List.mem_map.1 hn
    exact hfree s hs
  shared := by decide

/-- The other steps of a build see shared volumes only, that of the cache last. -/
theorem shared_seesApart {name command : String} {args : List String} {env : List EnvVar}
    {shared cached : List VolumeMount} {places : List (List String)}
    (hshared : shared.map VolumeMount.mountPath = places.map MountPath.text)
    (hcached : cached.Sublist [Layout.cache])
    (hplaces : Elsewhere MountPath.secretRoot (places ++ ([["cache"]] ++ [["networkWait"]]))) :
    SeesApart (b.lifecycleStep name command args env (shared ++ cached)) MountPath.secretRoot
      places [] [["cache"]] where
  paths := by
    have hcache : (cached.map VolumeMount.mountPath).Sublist ([["cache"]].map MountPath.text) :=
      hcached.map VolumeMount.mountPath
    rw [mountPaths_lifecycleStep, List.map_append, List.append_nil, List.map_append, hshared]
    exact (List.Sublist.refl _).append hcache
  own := .nil
  shared := hplaces

theorem cacheMounts_sublist (c : CacheStrategy) : c.mounts.Sublist [Layout.cache] := by
  cases c with
  | volume claim => exact List.Sublist.refl _
  | _ => exact List.nil_sublist _

theorem analyzeStep_seesApart :
    SeesApart b.analyzeStep MountPath.secretRoot [["layers"], ["workspace"], ["builder", "home"]]
      [] [["cache"]] := by
  refine shared_seesApart (by decide) ?_ (by decide)
  cases b.legacy with
  | false => exact List.nil_sublist _
  | true => exact cacheMounts_sublist b.cache

theorem restoreStep_seesApart :
    SeesApart b.restoreStep MountPath.secretRoot [["layers"], ["builder", "home"]] []
      [["cache"]] :=
  shared_seesApart (by decide) (cacheMounts_sublist b.cache) (by decide)

theorem exportStep_seesApart :
    SeesApart (b.exportStep epoch) MountPath.secretRoot
      [["layers"], ["workspace"], ["builder", "home"], ["var", "report"]] [] [["cache"]] :=
  shared_seesApart (by decide) (cacheMounts_sublist b.cache) (by decide)

/-- The steps of a build besides the first have no credentials, and see their volumes apart. -/
theorem buildSteps_cases (hfree : ∀ s ∈ b.request.services, '/' ∉ s.name.toList)
    (hbindings : ServiceBinding.attachAll b.request.services = .ok bindings) {c : Container}
    (hc : c ∈ b.buildSteps bindings epoch) :
    c = b.prepareStep ∨ (b.adapt c).mountPaths.Nodup := by
  rcases b.mem_buildSteps.1 hc with rfl | rfl | rfl | rfl | rfl | rfl
  · exact .inl rfl
  · exact .inr (bound_seesApart hfree hbindings).nodup_adapt
  · exact .inr analyzeStep_seesApart.nodup_adapt
  · exact .inr restoreStep_seesApart.nodup_adapt
  · exact .inr (bound_seesApart hfree hbindings).nodup_adapt
  · exact .inr exportStep_seesApart.nodup_adapt

theorem buildSteps_mountPaths_nodup (h : b.NamesApart)
    (hbindings : ServiceBinding.attachAll b.request.services = .ok bindings) :
    ∀ c ∈ b.buildSteps bindings epoch, (b.adapt c).mountPaths.Nodup := by
  intro c hc
  rcases buildSteps_cases h.servicesFree hbindings hc with rfl | hnodup
  · exact (prepareStep_seesApart h).nodup_adapt
  · exact hnodup

theorem pod_mountPaths_nodup (h : b.NamesApart) {steps : List Container} {volumes : List Volume}
    (hsteps : ∀ c ∈ steps, (b.adapt c).mountPaths.Nodup) :
    ∀ c ∈ (b.pod steps volumes).steps, c.mountPaths.Nodup := by
  intro c hc
  obtain ⟨d, hd, rfl⟩ := b.mem_steps_pod.1 hc
  rcases List.mem_cons.1 hd with rfl | hd
  · exact (completionStep_seesApart h).nodup_adapt
  · exact hsteps d hd

end PlanBasis

/-- No container of a planned pod sees two volumes at one path, if credentials have
different names and no name of a credential, a pull secret or a binding has a slash. -/
theorem plan_mountPathsDistinct {r : BuildRequest} {ctx : PlanContext} {pod : Pod}
    (hnames : (ctx.credentials.map Credential.name).Nodup)
    (hcredentials : ∀ c ∈ ctx.credentials, '/' ∉ c.name.toList)
    (hpulls : ∀ n ∈ r.builder.pullSecrets ++ (ctx.pullSecrets ++ r.source.source.pullSecrets),
      '/' ∉ n.toList)
    (hservices : ∀ s ∈ r.services, '/' ∉ s.name.toList) (h : plan r ctx = .ok pod) :
    ∀ c ∈ pod.steps, ((c.mounts.getD []).map VolumeMount.mountPath).Nodup := by
  obtain ⟨b, rfl, rfl, -, hpod⟩ := plan_cases h
  have hapart : b.NamesApart := ⟨hnames, hcredentials, hpulls, hservices⟩
  cases hpod with
  | rebase =>
    refine PlanBasis.pod_mountPaths_nodup hapart fun c hc => ?_
    rw [List.mem_singleton.1 hc]
    exact (PlanBasis.rebaseStep_seesApart hapart _).nodup_adapt
  | build _ hbindings =>
    exact PlanBasis.pod_mountPaths_nodup hapart
      (PlanBasis.buildSteps_mountPaths_nodup hapart hbindings)

theorem bound_mountPathsDistinct :
    (boundContext.credentials.map Credential.name).Nodup ∧
      (∀ c ∈ boundContext.credentials, '/' ∉ c.name.toList) ∧
      (∀ n ∈ boundRequest.builder.pullSecrets ++
        (boundContext.pullSecrets ++ boundRequest.source.source.pullSecrets), '/' ∉ n.toList) ∧
      (∀ s ∈ boundRequest.services, '/' ∉ s.name.toList) ∧
      ∃ pod, plan boundRequest boundContext = .ok pod ∧
        ∀ c ∈ pod.steps, ((c.mounts.getD []).map VolumeMount.mountPath).Nodup := by
  have hnames : (boundContext.credentials.map Credential.name).Nodup := by decide
  have hcredentials : ∀ c ∈ boundContext.credentials, '/' ∉ c.name.toList := by decide
  have hpulls : ∀ n ∈ boundRequest.builder.pullSecrets ++
      (boundContext.pullSecrets ++ boundRequest.source.source.pullSecrets), '/' ∉ n.toList := by
    decide
  have hservices : ∀ s ∈ boundRequest.services, '/' ∉ s.name.toList := by decide
  obtain ⟨pod, hplan⟩ : ∃ pod, plan boundRequest boundContext = .ok pod :=
    exists_eq_ok_iff.2 (by decide +kernel)
  exact ⟨hnames, hcredentials, hpulls, hservices, pod, hplan,
    plan_mountPathsDistinct hnames hcredentials hpulls hservices hplan⟩

end ImageBuild
