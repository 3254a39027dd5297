import ImageBuild.Build.Builder
import ImageBuild.Build.Config
import ImageBuild.Build.Credential
import ImageBuild.Change.Snapshot
import ImageBuild.Proofs.Codec.Lossless
import ImageBuild.Proofs.Version.Reading

/-!
# The records of builds lose nothing

Each record that a build is described with is read back from what is written
for it. What is left out is the default, what is absent stays absent, and the
empty list stays apart from no list. The main statement is `records_readBack`.
-/
namespace ImageBuild

open Codec Format
open Json (Shows ShowsFields)

variable {depth : Nat}

theorem texts_keep (ss : List String) : (list text).Keeps (depth + 1) ss :=
  list_keeps fun s _ => text_keeps s

theorem textMap_keeps (m : StringMap String) : (map text).Keeps (depth + 1) m :=
  map_keeps fun e _ => text_keeps e.2

theorem optionalText_keeps {name : String} (s : Option String) :
    (optional name text).Keeps depth s :=
  optional_keeps fun s _ => text_keeps s

theorem KeySelector.codec_keeps (s : KeySelector) : KeySelector.codec.Keeps (depth + 1) s :=
  object_keeps (as_keeps (and_keeps (filled_keeps (text_keeps _)) <|
    and_keeps (optionalText_keeps _) <| optional_keeps fun b _ => bool_keeps b) rfl) (by decide)

theorem FieldSelector.codec_keeps (s : FieldSelector) : FieldSelector.codec.Keeps (depth + 1) s :=
  object_keeps (as_keeps (and_keeps (optionalText_keeps _) <| filled_keeps (text_keeps _)) rfl)
    (by decide)

theorem ResourceSelector.codec_keeps (s : ResourceSelector) :
    ResourceSelector.codec.Keeps (depth + 1) s :=
  object_keeps (as_keeps (and_keeps (optionalText_keeps _) <|
    and_keeps (optionalText_keeps _) <| filled_keeps (text_keeps _)) rfl) (by decide)

theorem EnvSource.codec_keeps (s : EnvSource) : EnvSource.codec.Keeps (depth + 2) s :=
  object_keeps (as_keeps
    (and_keeps (optional_keeps fun k _ => k.codec_keeps) <|
      and_keeps (optional_keeps fun f _ => f.codec_keeps) <|
      and_keeps (optional_keeps fun r _ => r.codec_keeps) <|
      optional_keeps fun k _ => k.codec_keeps) rfl) (by decide)

theorem EnvVar.codec_keeps (v : EnvVar) : EnvVar.codec.Keeps (depth + 3) v :=
  object_keeps (as_keeps (and_keeps (filled_keeps (text_keeps _)) <|
    and_keeps (optionalText_keeps _) <| optional_keeps fun s _ => s.codec_keeps) rfl) (by decide)

theorem ResourceClaim.codec_keeps (c : ResourceClaim) : ResourceClaim.codec.Keeps (depth + 1) c :=
  object_keeps (as_keeps (filled_keeps (text_keeps _)) rfl) (by decide)

theorem ResourceRequirements.codec_keeps (r : ResourceRequirements) :
    ResourceRequirements.codec.Keeps (depth + 3) r :=
  object_keeps (as_keeps
    (and_keeps (optional_keeps fun cs _ => list_keeps fun c _ => c.codec_keeps) <|
      and_keeps (optional_keeps fun m _ => textMap_keeps m) <|
      optional_keeps fun m _ => textMap_keeps m) rfl) (by decide)

theorem Toleration.codec_keeps (t : Toleration) : Toleration.codec.Keeps (depth + 1) t :=
  object_keeps (as_keeps (and_keeps (optionalText_keeps _) <| and_keeps (optionalText_keeps _) <|
    and_keeps (optionalText_keeps _) <| and_keeps (optional_keeps fun n _ => int64_keeps n) <|
    optionalText_keeps _) rfl) (by decide)

theorem LabelExpression.codec_keeps (e : LabelExpression) :
    LabelExpression.codec.Keeps (depth + 2) e :=
  object_keeps (as_keeps (and_keeps (filled_keeps (text_keeps _)) <|
    and_keeps (filled_keeps (text_keeps _)) <| optional_keeps fun ss _ => texts_keep ss) rfl)
    (by decide)

theorem expressions_keep {name : String} (es : Option (List LabelExpression)) :
    (optional name (list LabelExpression.codec)).Keeps (depth + 3) es :=
  optional_keeps fun _ _ => list_keeps fun e _ => e.codec_keeps

theorem NodeTerm.codec_keeps (t : NodeTerm) : NodeTerm.codec.Keeps (depth + 4) t :=
  object_keeps (as_keeps (and_keeps (expressions_keep _) <| expressions_keep _) rfl) (by decide)

theorem NodeSelector.codec_keeps (s : NodeSelector) : NodeSelector.codec.Keeps (depth + 6) s :=
  object_keeps (as_keeps (filled_keeps (list_keeps fun t _ => t.codec_keeps)) rfl) (by decide)

theorem PreferredNodeTerm.codec_keeps (t : PreferredNodeTerm) :
    PreferredNodeTerm.codec.Keeps (depth + 5) t :=
  object_keeps (as_keeps (and_keeps (filled_keeps t.preference.codec_keeps) <|
    filled_keeps (int32_keeps _)) rfl) (by decide)

theorem NodeAffinity.codec_keeps (a : NodeAffinity) : NodeAffinity.codec.Keeps (depth + 7) a :=
  object_keeps (as_keeps
    (and_keeps (optional_keeps fun ts _ => list_keeps fun t _ => t.codec_keeps) <|
      optional_keeps fun s _ => s.codec_keeps) rfl) (by decide)

theorem LabelSelector.codec_keeps (s : LabelSelector) : LabelSelector.codec.Keeps (depth + 4) s :=
  object_keeps (as_keeps (and_keeps (expressions_keep _) <|
    optional_keeps fun m _ => textMap_keeps m) rfl) (by decide)

theorem PodTerm.codec_keeps (t : PodTerm) : PodTerm.codec.Keeps (depth + 5) t :=
  object_keeps (as_keeps
    (and_keeps (optional_keeps fun s _ => s.codec_keeps) <|
      and_keeps (optional_keeps fun ss _ => texts_keep ss) <|
      and_keeps (optional_keeps fun ss _ => texts_keep ss) <|
      and_keeps (optional_keeps fun s _ => s.codec_keeps) <|
      and_keeps (optional_keeps fun ss _ => texts_keep ss) <|
      filled_keeps (text_keeps _)) rfl) (by decide)

theorem PreferredPodTerm.codec_keeps (t : PreferredPodTerm) :
    PreferredPodTerm.codec.Keeps (depth + 6) t :=
  object_keeps (as_keeps (and_keeps (filled_keeps t.term.codec_keeps) <|
    filled_keeps (int32_keeps _)) rfl) (by decide)

theorem PodAffinity.codec_keeps (a : PodAffinity) : PodAffinity.codec.Keeps (depth + 8) a :=
  object_keeps (as_keeps
    (and_keeps (optional_keeps fun ts _ => list_keeps fun t _ => t.codec_keeps) <|
      optional_keeps fun ts _ => list_keeps fun t _ => t.codec_keeps) rfl) (by decide)

theorem Affinity.codec_keeps (a : Affinity) : Affinity.codec.Keeps (depth + 9) a :=
  object_keeps (as_keeps
    (and_keeps (optional_keeps fun n _ => n.codec_keeps) <|
      and_keeps (optional_keeps fun p _ => p.codec_keeps) <|
      optional_keeps fun p _ => p.codec_keeps) rfl) (by decide)

theorem variant?_of_shows {name : String} {v : Json} {d : Document}
    (h : (Json.obj [(name, v)]).Shows d) :
    ∃ content, d.variant? = some (name, content) ∧ v.Shows content := by
  cases h with
  | obj hgs hperm =>
    obtain ⟨content, rfl, hcontent⟩ := hgs.eq_singleton
    obtain rfl := hperm.eq_singleton
    exact ⟨content, rfl, hcontent⟩

/-- A variant is written as its name and its content. -/
theorem variant_keeps {α β : Type} {c : Codec α} {inner : Codec β} {a : α} {b : β} {name : String}
    (h : inner.Keeps depth b) (hencode : c.encode a = .obj [(name, inner.encode b)])
    (hdecode : ∀ {d content}, d.variant? = some (name, content) →
      inner.decode content = some b → c.decode d = some a) :
    c.Keeps (depth + 1) a where
  exact_encode := by
    rw [hencode]
    exact .obj (List.forall_mem_singleton.2 h.exact_encode)
  distinct_encode := by
    rw [hencode]
    exact .obj (List.nodup_singleton name) (List.forall_mem_singleton.2 h.distinct_encode)
  encode_ne_null := by simp [hencode]
  decode hd := by
    rw [hencode] at hd
    obtain ⟨content, hvariant, hcontent⟩ := variant?_of_shows hd
    exact hdecode hvariant (h.decode hcontent)

theorem ServiceRef.codec_keeps (r : ServiceRef) : ServiceRef.codec.Keeps (depth + 1) r :=
  record_keeps (as_keeps (and_keeps (required_keeps (text_keeps _)) <|
    and_keeps (required_keeps (text_keeps _)) <| omitted_keeps (text_keeps _)) rfl) (by decide)

theorem MetadataBinding.codec_keeps (b : MetadataBinding) :
    MetadataBinding.codec.Keeps (depth + 1) b :=
  record_keeps (as_keeps (and_keeps (required_keeps (text_keeps _)) <|
    and_keeps (required_keeps (text_keeps _)) <| optionalText_keeps _) rfl) (by decide)

theorem ServiceBinding.codec_keeps (b : ServiceBinding) :
    ServiceBinding.codec.Keeps (depth + 2) b := by
  cases b with
  | service r =>
    refine variant_keeps r.codec_keeps rfl ?_
    intro d content hvariant hcontent
    simp [codec, decode, hvariant, hcontent]
  | cnb m =>
    refine variant_keeps m.codec_keeps rfl ?_
    intro d content hvariant hcontent
    simp [codec, decode, hvariant, hcontent]

theorem CacheConfig.codec_keeps (c : CacheConfig) : CacheConfig.codec.Keeps (depth + 2) c := by
  cases c with
  | volume claim =>
    have hclaim : volumeCodec.Keeps (depth + 1) claim :=
      record_keeps (required_keeps (text_keeps claim)) (by decide)
    refine variant_keeps hclaim rfl ?_
    intro d content hvariant hcontent
    simp [codec, decode, hvariant, hcontent]
  | registry tag =>
    have htag : registryCodec.Keeps (depth + 1) tag :=
      record_keeps (required_keeps (text_keeps tag)) (by decide)
    refine variant_keeps htag rfl ?_
    intro d content hvariant hcontent
    simp [codec, decode, hvariant, hcontent]

theorem GitSource.codec_keeps (g : GitSource) : GitSource.codec.Keeps (depth + 1) g :=
  record_keeps (as_keeps (and_keeps (required_keeps (text_keeps _)) <|
    and_keeps (defaulted_keeps (text_keeps _)) <| defaulted_keeps (bool_keeps _)) rfl) (by decide)

theorem BlobSource.codec_keeps (b : BlobSource) : BlobSource.codec.Keeps (depth + 1) b :=
  record_keeps (as_keeps (and_keeps (required_keeps (text_keeps _)) <|
    and_keeps (defaulted_keeps (int64_keeps _)) <| defaulted_keeps (bool_keeps _)) rfl) (by decide)

theorem RegistrySource.codec_keeps (r : RegistrySource) :
    RegistrySource.codec.Keeps (depth + 2) r :=
  record_keeps (as_keeps (and_keeps (required_keeps (text_keeps _)) <|
    omitted_keeps (texts_keep _)) rfl) (by decide)

/-- The document of a value has no node that could be of several kinds. -/
theorem fixed?_of_shows {v : Json} {d : Document} (h : v.Shows d) : d.fixed? = some d := by
  cases h <;> rfl

/-- What is written for a source, beside the path, is read as the source. -/
structure Source.Keeps (s : Source) (depth : Nat) : Prop where
  exact_content : s.toField.2.Exact depth
  distinct_content : s.toField.2.Distinct
  kind_mem : s.toField.1 ∈ kinds
  decode : ∀ {d}, s.toField.2.Shows d → decodeKind s.toField.1 d = some s

theorem Source.keeps_of_codec {α : Type} {c : Codec α} {a : α} {s : Source} {kind : String}
    (h : c.Keeps depth a) (hfield : s.toField = (kind, c.encode a)) (hkind : kind ∈ kinds)
    (hdecode : ∀ {d}, c.decode d = some a → decodeKind kind d = some s) : s.Keeps depth := by
  constructor <;> rw [hfield]
  · exact h.exact_encode
  · exact h.distinct_encode
  · exact hkind
  · exact fun hd => hdecode (h.decode hd)

theorem Source.keeps (s : Source) (depth : Nat) : s.Keeps (depth + 2) := by
  cases s with
  | git g =>
    refine keeps_of_codec g.codec_keeps rfl (by decide) ?_
    intro d hd
    simp [decodeKind, hd]
  | blob b =>
    refine keeps_of_codec b.codec_keeps rfl (by decide) ?_
    intro d hd
    simp [decodeKind, hd]
  | registry r =>
    refine keeps_of_codec r.codec_keeps rfl (by decide) ?_
    intro d hd
    simp [decodeKind, hd]

namespace SourceConfig

/-- The field of the path, if there is a path. -/
def pathFields (s : SourceConfig) : List (String × Json) :=
  (Format.optional "subPath" text).write s.subPath

theorem path_keeps (s : SourceConfig) (depth : Nat) :
    (Format.optional "subPath" text).Keeps depth s.subPath :=
  optionalText_keeps s.subPath

theorem name_of_mem_pathFields {s : SourceConfig} {e : String × Json} (h : e ∈ s.pathFields) :
    e.1 = "subPath" :=
  List.mem_singleton.1 ((s.path_keeps 0).names_write.subset (List.mem_map_of_mem h))

theorem kind_ne_subPath (s : Source) : s.toField.1 ≠ "subPath" := by
  cases s <;> simp [Source.toField]

theorem nodup_fields (s : SourceConfig) :
    ((s.source.toField :: s.pathFields).map Prod.fst).Nodup := by
  rw [List.map_cons, List.nodup_cons]
  constructor
  · intro h
    obtain ⟨e, he, hname⟩ := List.mem_map.1 h
    exact kind_ne_subPath s.source (hname ▸ name_of_mem_pathFields he)
  · exact nodup_write (s.path_keeps 0) (by decide)

variable {s : SourceConfig} {hs : Fields}

/-- The path is read like any field that may be absent. -/
theorem path_of_give (h : hs.Give ["subPath"] (s.source.toField :: s.pathFields)) :
    hs.optional "subPath" Document.string? = some s.subPath := by
  have hpath : hs.Give ["subPath"] s.pathFields := by
    intro name hname
    have hshown := h name hname
    have hother : s.source.toField.1 ≠ name := by
      rw [List.mem_singleton.1 hname]
      exact kind_ne_subPath s.source
    rwa [List.filter_cons_of_neg (by simpa using hother)] at hshown
  exact (s.path_keeps 0).read (by decide) hpath

/-- The one other field is the source. -/
theorem source_of_shows {gs : Fields} (h : ShowsFields (s.source.toField :: s.pathFields) gs)
    (hperm : hs.Perm gs) :
    ∃ content, hs.filter (·.1 != "subPath") = [(s.source.toField.1, content)] ∧
      s.source.toField.2.Shows content := by
  have hpath : s.pathFields.filter (·.1 != "subPath") = [] := by
    rw [List.filter_eq_nil_iff]
    intro e he
    simpa using name_of_mem_pathFields he
  have hshown := h.filter (· != "subPath")
  rw [List.filter_cons_of_pos (by simpa using kind_ne_subPath s.source), hpath] at hshown
  obtain ⟨content, hgs, hcontent⟩ := hshown.eq_singleton
  have hfilter := hperm.filter (·.1 != "subPath")
  rw [hgs] at hfilter
  exact ⟨content, hfilter.eq_singleton, hcontent⟩

theorem codec_keeps (s : SourceConfig) : SourceConfig.codec.Keeps (depth + 3) s where
  exact_encode :=
    .obj (List.forall_mem_cons.2
      ⟨(s.source.keeps depth).exact_content, (s.path_keeps (depth + 2)).exact_write⟩)
  distinct_encode :=
    .obj s.nodup_fields (List.forall_mem_cons.2
      ⟨(s.source.keeps depth).distinct_content, (s.path_keeps depth).distinct_write⟩)
  encode_ne_null := by simp [codec, encode]
  decode hd := by
    cases hd with
    | @obj _ gs hs hgs hperm =>
      have honce : Document.givenOnce ["subPath"] hs = true := by
        have hkeys : (hs.map Prod.fst).Nodup := by
          rw [(hperm.map Prod.fst).nodup_iff, hgs.map_fst]
          exact s.nodup_fields
        simpa [Document.givenOnce] using length_filter_le_one hkeys "subPath"
      have hfields :
          (Document.object hs).fields?.filter (Document.givenOnce ["subPath"]) = some hs :=
        Option.filter_some_pos honce
      have hpath := path_of_give (Fields.give_of_perm hgs s.nodup_fields hperm)
      obtain ⟨content, hothers, hcontent⟩ := source_of_shows hgs hperm
      have hkind := (s.source.keeps depth).kind_mem
      have hsource := (s.source.keeps depth).decode hcontent
      simp [codec, decode, hfields, hpath, hothers, fixed?_of_shows hcontent, hkind, hsource]

end SourceConfig

theorem BuilderRef.codec_keeps (b : BuilderRef) : BuilderRef.codec.Keeps (depth + 2) b :=
  record_keeps (as_keeps (and_keeps (required_keeps (text_keeps _)) <|
    omitted_keeps (texts_keep _)) rfl) (by decide)

theorem LastBuild.codec_keeps (b : LastBuild) : LastBuild.codec.Keeps (depth + 1) b :=
  record_keeps (as_keeps (and_keeps (defaulted_keeps (text_keeps _)) <|
    and_keeps (defaulted_keeps (text_keeps _)) <| defaulted_keeps (text_keeps _)) rfl) (by decide)

theorem NotaryConfig.codec_keeps (n : NotaryConfig) : NotaryConfig.codec.Keeps (depth + 1) n :=
  record_keeps (as_keeps (and_keeps (required_keeps (text_keeps _)) <|
    required_keeps (text_keeps _)) rfl) (by decide)

theorem ImageSigning.codec_keeps (s : ImageSigning) : ImageSigning.codec.Keeps (depth + 2) s :=
  record_keeps (as_keeps (and_keeps (optional_keeps fun n _ => n.codec_keeps) <|
    omitted_keeps (textMap_keeps _)) rfl) (by decide)

theorem Scheduling.codec_keeps (s : Scheduling) : Scheduling.codec.Keeps (depth + 10) s :=
  record_keeps (as_keeps
    (and_keeps (omitted_keeps (list_keeps fun t _ => t.codec_keeps)) <|
      and_keeps (optional_keeps fun a _ => a.codec_keeps) <|
      and_keeps (omitted_keeps (textMap_keeps _)) <|
      and_keeps (optionalText_keeps _) <| and_keeps (optionalText_keeps _) <|
      and_keeps (optionalText_keeps _) <| optional_keeps fun n _ => int64_keeps n) rfl) (by decide)

theorem BuildRequest.codec_keeps (r : BuildRequest) : BuildRequest.codec.Keeps (depth + 11) r :=
  record_keeps (as_keeps
    (and_keeps (required_keeps (text_keeps _)) <|
      and_keeps (defaulted_keeps (text_keeps _)) <|
      and_keeps (omitted_keeps (textMap_keeps _)) <|
      and_keeps (required_keeps (texts_keep _)) <|
      and_keeps (required_keeps r.builder.codec_keeps) <|
      and_keeps (defaulted_keeps (text_keeps _)) <|
      and_keeps (required_keeps r.source.codec_keeps) <|
      and_keeps (optional_keeps fun c _ => c.codec_keeps) <|
      and_keeps (optional_keeps fun b _ => b.codec_keeps) <|
      and_keeps (defaulted_keeps r.resources.codec_keeps) <|
      and_keeps (optional_keeps fun s _ => s.codec_keeps) <|
      and_keeps (omitted_keeps (list_keeps fun b _ => b.codec_keeps)) <|
      and_keeps (omitted_keeps (list_keeps fun v _ => v.codec_keeps)) <|
      and_keeps (defaulted_keeps r.scheduling.codec_keeps) <|
      and_keeps (defaulted_keeps (text_keeps _)) <|
      and_keeps (defaulted_keeps (text_keeps _)) <|
      and_keeps (defaulted_keeps (text_keeps _)) <|
      defaulted_keeps (text_keeps _)) rfl) (by decide)

theorem Buildpack.codec_keeps (b : Buildpack) : Buildpack.codec.Keeps (depth + 1) b :=
  record_keeps (as_keeps (and_keeps (required_keeps (text_keeps _)) <|
    defaulted_keeps (text_keeps _)) rfl) (by decide)

theorem BuildConfig.codec_keeps (c : BuildConfig) : BuildConfig.codec.Keeps (depth + 5) c :=
  record_keeps (as_keeps
    (and_keeps (defaulted_keeps (list_keeps fun v _ => v.codec_keeps)) <|
      and_keeps (defaulted_keeps c.resources.codec_keeps) <|
      and_keeps (defaulted_keeps (list_keeps fun b _ => b.codec_keeps)) <|
      required_keeps c.source.codec_keeps) rfl) (by decide)

theorem BuildSnapshot.codec_keeps (s : BuildSnapshot) : BuildSnapshot.codec.Keeps (depth + 6) s :=
  record_keeps (as_keeps
    (and_keeps (required_keeps s.config.codec_keeps) <|
      and_keeps (defaulted_keeps (list_keeps fun b _ => b.codec_keeps)) <|
      and_keeps (defaulted_keeps (list_keeps fun b _ => b.codec_keeps)) <|
      and_keeps (defaulted_keeps (text_keeps _)) <| optionalText_keeps _) rfl) (by decide)

theorem Builder.codec_keeps (b : Builder) : Builder.codec.Keeps (depth + 2) b :=
  record_keeps (as_keeps
    (and_keeps (required_keeps (text_keeps _)) <| and_keeps (required_keeps (text_keeps _)) <|
      and_keeps (required_keeps (int64_keeps _)) <| and_keeps (required_keeps (int64_keeps _)) <|
      and_keeps (defaulted_keeps (text_keeps _)) <| defaulted_keeps (texts_keep _)) rfl) (by decide)

theorem Version.codec_keeps (v : Version) : Version.codec.Keeps depth v where
  exact_encode := .str v.text
  distinct_encode := .str v.text
  encode_ne_null := by simp [codec]
  decode hd := by
    cases hd
    simp [codec, Document.string?, parseText_text, Except.toOption]

theorem PlanConfig.codec_keeps (c : PlanConfig) : PlanConfig.codec.Keeps (depth + 1) c :=
  record_keeps (as_keeps
    (and_keeps (required_keeps (text_keeps _)) <| and_keeps (required_keeps (text_keeps _)) <|
      and_keeps (required_keeps (text_keeps _)) <| and_keeps (required_keeps (text_keeps _)) <|
      and_keeps (required_keeps (text_keeps _)) <|
      optional_keeps fun v _ => v.codec_keeps) rfl) (by decide)

theorem SecretKind.ofText_text {k : SecretKind}
    (h : ∀ t, k = .other t → t ∉ known.map SecretKind.text) : ofText k.text = k := by
  cases k with
  | other t =>
    have hnone : known.find? (·.text == t) = none := by
      rw [List.find?_eq_none]
      intro k hk htext
      exact h t rfl (List.mem_map.2 ⟨k, hk, beq_iff_eq.1 htext⟩)
    rw [ofText, SecretKind.text, hnone]
    rfl
  | _ => decide

theorem Credential.codec_keeps {c : Credential}
    (h : ∀ t, c.kind = .other t → t ∉ SecretKind.known.map SecretKind.text) :
    Credential.codec.Keeps (depth + 2) c :=
  record_keeps (Format.as_keeps
    (and_keeps (required_keeps (text_keeps _)) <|
      and_keeps (required_keeps (Codec.as_keeps (text_keeps _) (SecretKind.ofText_text h))) <|
      and_keeps (omitted_keeps (textMap_keeps _)) <| defaulted_keeps (bool_keeps _)) rfl)
      (by decide)

/-- Nothing is lost between what is written for a request, a snapshot, a builder
or a configuration and what is read, and nothing of a credential unless it spells
a built-in type out as another one. -/
theorem records_readBack :
    (∀ r : BuildRequest, BuildRequest.codec.ReadsBack r) ∧
      (∀ s : BuildSnapshot, BuildSnapshot.codec.ReadsBack s) ∧
      (∀ b : Builder, Builder.codec.ReadsBack b) ∧
      (∀ c : PlanConfig, PlanConfig.codec.ReadsBack c) ∧
      ∀ c : Credential, (∀ t, c.kind = .other t → t ∉ SecretKind.known.map SecretKind.text) →
        Credential.codec.ReadsBack c := by
  refine ⟨fun r => ?_, fun s => ?_, fun b => ?_, fun c => ?_, fun c hkind => ?_⟩
  · exact Codec.Keeps.readsBack r.codec_keeps
  · exact Codec.Keeps.readsBack s.codec_keeps
  · exact Codec.Keeps.readsBack b.codec_keeps
  · exact Codec.Keeps.readsBack c.codec_keeps
  · exact Codec.Keeps.readsBack (Credential.codec_keeps hkind)

/-- An empty list is written, and no list is not. -/
example : ResourceRequirements.codec.encode ⟨some [], none, some ∅⟩ =
    .obj [("claims", .arr []), ("requests", .obj [])] :=
  rfl

/-- A secret of a type that has no meaning of its own. -/
def signingCredential : Credential := ⟨"key", .other "Opaque", ∅, true⟩

theorem signingCredential_readBack :
    (∀ t, signingCredential.kind = .other t → t ∉ SecretKind.known.map SecretKind.text) ∧
      Credential.codec.ReadsBack signingCredential := by
  have hkind : ∀ t, signingCredential.kind = .other t →
      t ∉ SecretKind.known.map SecretKind.text := by
    intro t ht
    obtain rfl : "Opaque" = t := SecretKind.other.inj ht
    decide
  exact ⟨hkind, records_readBack.2.2.2.2 signingCredential hkind⟩

end ImageBuild
