import ImageBuild.Proofs.Codec.Records

/-!
# Which source an object is read as

A source is written as one field that is named for its kind. When an object is read,
its first field with such a name is the source; the others are passed over like fields
of unknown names. So an object that names one kind is read alike in each order of its
fields, and one that names several is read as each source that one of them gives, if
that comes first. The main statement is `reads_firstKind`.
-/
namespace ImageBuild

/-- The field gives a source of the kind that it is named for. -/
inductive Source.GivenBy : String × Json → Source → Prop
  | git {v : Json} {g : GitSource} (h : GitSource.codec.decode v.toDocument = some g) :
      GivenBy ("git", v) (.git g)
  | blob {v : Json} {b : BlobSource} (h : BlobSource.codec.decode v.toDocument = some b) :
      GivenBy ("blob", v) (.blob b)
  | registry {v : Json} {r : RegistrySource}
      (h : RegistrySource.codec.decode v.toDocument = some r) :
      GivenBy ("registry", v) (.registry r)

theorem Source.givenBy_iff {kind : String} {v : Json} {s : Source} :
    GivenBy (kind, v) s ↔ decodeKind kind v.toDocument = some s := by
  constructor
  · intro h
    cases h with
    | git h | blob h | registry h => simp [decodeKind, h]
  · intro h
    unfold decodeKind at h
    split at h
    · obtain ⟨g, hg, rfl⟩ := Option.map_eq_some_iff.1 h
      exact .git hg
    · obtain ⟨b, hb, rfl⟩ := Option.map_eq_some_iff.1 h
      exact .blob hb
    · obtain ⟨r, hr, rfl⟩ := Option.map_eq_some_iff.1 h
      exact .registry hr
    · cases h

namespace SourceConfig

/-- What is read of an object. -/
def ofObject? (es : List (String × Json)) : Option SourceConfig :=
  codec.decode (Json.obj es).toDocument

/-- The fields of an object that are named for a kind of source. -/
def kindEntries (es : List (String × Json)) : List (String × Json) :=
  es.filter fun e => Source.kinds.contains e.1

/-- The fields of an object that are named for the path. -/
def pathEntries (es : List (String × Json)) : List (String × Json) :=
  es.filter fun e => e.1 == "subPath"

/-- The path of an object, which is given once at most: it is absent, null or a text. -/
inductive PathGiven (es : List (String × Json)) : Option String → Prop
  | absent (h : pathEntries es = []) : PathGiven es none
  | null (h : pathEntries es = [("subPath", .null)]) : PathGiven es none
  | text {path : String} (h : pathEntries es = [("subPath", .str path)]) : PathGiven es (some path)

variable {es fs : List (String × Json)} {e : String × Json} {s : SourceConfig}

theorem mem_kindEntries : e ∈ kindEntries es ↔ e ∈ es ∧ e.1 ∈ Source.kinds := by
  rw [kindEntries, List.mem_filter, List.contains_iff_mem]

theorem optional?_toDocument {v : Json} {path : Option String} :
    v.toDocument.optional? Document.string? = some path ↔
      v = .null ∧ path = none ∨ ∃ text, v = .str text ∧ path = some text := by
  cases v <;> simp [Json.toDocument, Document.optional?, Document.string?, eq_comm]

theorem filter_toFields (p : String → Bool) (es : List (String × Json)) :
    (Json.toFields es).filter (fun e => p e.1) = Json.toFields (es.filter fun e => p e.1) := by
  rw [Json.toFields_eq_map, Json.toFields_eq_map, List.filter_map]
  rfl

theorem filter_path_toFields (es : List (String × Json)) :
    (Json.toFields es).filter (·.1 == "subPath") = Json.toFields (pathEntries es) :=
  filter_toFields (· == "subPath") es

theorem givenOnce_toFields_iff :
    Document.givenOnce ["subPath"] (Json.toFields es) = true ↔ (pathEntries es).length ≤ 1 := by
  have hlength : (Json.toFields (pathEntries es)).length = (pathEntries es).length := by
    rw [Json.toFields_eq_map, List.length_map]
  simp only [Document.givenOnce, List.all_cons, List.all_nil, Bool.and_true, decide_eq_true_eq,
    filter_path_toFields, hlength]

theorem name_of_mem_pathEntries (h : e ∈ pathEntries es) : e.1 = "subPath" :=
  beq_iff_eq.1 (List.mem_filter.1 h).2

theorem pathGiven_iff {path : Option String} :
    PathGiven es path ↔ Document.givenOnce ["subPath"] (Json.toFields es) = true ∧
      (Json.toFields es).optional "subPath" Document.string? = some path := by
  rw [givenOnce_toFields_iff, Fields.optional, filter_path_toFields]
  constructor
  · intro h
    cases h with
    | absent h | null h | text h =>
      rw [h]
      exact ⟨by simp, rfl⟩
  · rintro ⟨honce, hpath⟩
    cases hentries : pathEntries es with
    | nil =>
      rw [hentries] at hpath
      cases hpath
      exact .absent hentries
    | cons e rest =>
      rw [hentries] at honce hpath
      obtain rfl : rest = [] := by simpa using honce
      obtain ⟨name, v⟩ := e
      have hname : name = "subPath" :=
        name_of_mem_pathEntries (hentries ▸ List.mem_singleton_self (name, v))
      have hvalue : v.toDocument.optional? Document.string? = some path := by
        cases hv : v.toDocument.optional? Document.string? with
        | none => simp [Json.toFields, hv] at hpath
        | some o => simpa [Json.toFields, hv] using hpath
      rcases optional?_toDocument.1 hvalue with ⟨rfl, rfl⟩ | ⟨text, rfl, rfl⟩
      · exact .null (hname ▸ hentries)
      · exact .text (hname ▸ hentries)

theorem PathGiven.perm {path : Option String} (hperm : es.Perm fs) (h : PathGiven es path) :
    PathGiven fs path := by
  have hentries : (pathEntries fs).Perm (pathEntries es) := (hperm.filter _).symm
  cases h with
  | absent h => exact .absent (h ▸ hentries).eq_nil
  | null h => exact .null (h ▸ hentries).eq_singleton
  | text h => exact .text (h ▸ hentries).eq_singleton

/-- JSON values have fixed kinds. -/
theorem mapM_fixed?_toFields (es : List (String × Json)) :
    (Json.toFields es).mapM (fun e => e.2.fixed?.map (e.1, ·)) = some (Json.toFields es) := by
  induction es with
  | nil => rfl
  | cons e es ih =>
    simp [Json.toFields, List.mapM_cons, ih, fixed?_of_shows (Json.shows_toDocument e.2)]

/-- The path is not named for a kind. -/
theorem find?_kind_toFields (es : List (String × Json)) :
    ((Json.toFields es).filter (·.1 != "subPath")).find? (fun e => Source.kinds.contains e.1) =
      (kindEntries es).head?.map fun e => (e.1, e.2.toDocument) := by
  have hkind : ∀ name : String,
      (Source.kinds.contains name && name != "subPath") = Source.kinds.contains name := by
    intro name
    by_cases h : name = "subPath"
    · subst h
      decide
    · simp [h]
  calc ((Json.toFields es).filter (·.1 != "subPath")).find? (fun e => Source.kinds.contains e.1)
    _ = ((Json.toFields es).filter fun e => Source.kinds.contains e.1).head? := by
      rw [← List.head?_filter, List.filter_filter]
      simp only [hkind]
    _ = (Json.toFields (kindEntries es)).head? := by
      rw [filter_toFields fun name => Source.kinds.contains name, kindEntries]
    _ = (kindEntries es).head?.map fun e => (e.1, e.2.toDocument) := by
      rw [Json.toFields_eq_map, List.head?_map]

/-- An object is read as a source if it gives a path and if its first field that is named
for a kind gives the source. -/
theorem ofObject?_eq_some_iff :
    ofObject? es = some s ↔
      PathGiven es s.subPath ∧
        ∃ e, (kindEntries es).head? = some e ∧ Source.GivenBy e s.source := by
  have hfields : (Json.obj es).toDocument.fields? = some (Json.toFields es) := rfl
  have hothers := mapM_fixed?_toFields (es.filter fun e => e.1 != "subPath")
  rw [← filter_toFields (· != "subPath")] at hothers
  obtain ⟨source, path⟩ := s
  simp only [ofObject?, codec, decode, hfields, Option.bind_eq_bind, Option.bind_eq_some_iff,
    Option.filter_eq_some_iff, pathGiven_iff]
  constructor
  · rintro ⟨fields, ⟨hes, honce⟩, given, hpath, others, hmap, entry, hfind, found, hsource, heq⟩
    cases hes
    cases heq
    cases hothers.symm.trans hmap
    rw [find?_kind_toFields, Option.map_eq_some_iff] at hfind
    obtain ⟨e, he, rfl⟩ := hfind
    exact ⟨⟨honce, hpath⟩, e, he, Source.givenBy_iff.2 hsource⟩
  · rintro ⟨⟨honce, hpath⟩, e, he, hgiven⟩
    have hfind := find?_kind_toFields es
    rw [he] at hfind
    exact ⟨_, ⟨rfl, honce⟩, path, hpath, _, hothers, _, hfind, source,
      Source.givenBy_iff.1 hgiven, rfl⟩

theorem kindEntries_perm (h : fs.Perm es) : (kindEntries fs).Perm (kindEntries es) := h.filter _

/-- A field that gives a source can be moved to the front. -/
theorem exists_perm_ofObject?_iff :
    (∃ fs, fs.Perm es ∧ ofObject? fs = some s) ↔
      PathGiven es s.subPath ∧ ∃ e ∈ kindEntries es, Source.GivenBy e s.source := by
  constructor
  · rintro ⟨fs, hperm, hfs⟩
    obtain ⟨hpath, e, he, hgiven⟩ := ofObject?_eq_some_iff.1 hfs
    exact ⟨hpath.perm hperm, e, (kindEntries_perm hperm).mem_iff.1 (List.mem_of_mem_head? he),
      hgiven⟩
  · rintro ⟨hpath, e, he, hgiven⟩
    obtain ⟨hmem, hkind⟩ := mem_kindEntries.1 he
    obtain ⟨before, after, rfl⟩ := List.append_of_mem hmem
    have hperm : (e :: (before ++ after)).Perm (before ++ e :: after) := List.perm_middle.symm
    have hfirst : (kindEntries (e :: (before ++ after))).head? = some e := by
      rw [kindEntries, List.filter_cons_of_pos (by simpa using hkind), List.head?_cons]
    exact ⟨_, hperm, ofObject?_eq_some_iff.2 ⟨hpath.perm hperm.symm, e, hfirst, hgiven⟩⟩

/-- An object that names one kind is read alike in each order of its fields. -/
theorem ofObject?_perm (hone : (kindEntries es).length ≤ 1) (h : fs.Perm es) :
    ofObject? fs = ofObject? es := by
  have hkinds : kindEntries fs = kindEntries es :=
    eq_of_perm_of_length_le_one (kindEntries_perm h) hone
  ext s
  rw [ofObject?_eq_some_iff, ofObject?_eq_some_iff, hkinds]
  exact and_congr_left fun _ => ⟨PathGiven.perm h, PathGiven.perm h.symm⟩

theorem kindEntries_eq_singleton (hone : (kindEntries es).length ≤ 1)
    (h : (kindEntries es).head? = some e) : kindEntries es = [e] := by
  obtain ⟨rest, hentries⟩ := List.head?_eq_some_iff.1 h
  rw [hentries] at hone
  obtain rfl : rest = [] := by simpa using hone
  exact hentries

/-- An object is read as a source only if just one of the kinds is among the names of its
fields, and gives that source. The order of the fields makes no difference to it. -/
structure OneKindRead (es : List (String × Json)) : Prop where
  one : ∀ s, ofObject? es = some s → ∃ kind ∈ Source.kinds,
    (∀ k ∈ Source.kinds, k ∈ es.map Prod.fst ↔ k = kind) ∧
      ∃ v, (kind, v) ∈ es ∧ Source.GivenBy (kind, v) s.source
  ordered : ∀ fs, fs.Perm es → ∀ s t, ofObject? es = some s → ofObject? fs = some t →
    s.source = t.source

theorem oneKindRead_of_length (hone : (kindEntries es).length ≤ 1) : OneKindRead es where
  one := by
    intro s hs
    obtain ⟨-, ⟨kind, v⟩, he, hgiven⟩ := ofObject?_eq_some_iff.1 hs
    have hmem := mem_kindEntries.1 (List.mem_of_mem_head? he)
    have hentries := kindEntries_eq_singleton hone he
    refine ⟨kind, hmem.2, fun k hk => ⟨fun hname => ?_, fun hname => ?_⟩, v, hmem.1, hgiven⟩
    · obtain ⟨e, hes, rfl⟩ := List.mem_map.1 hname
      have hentry : e ∈ kindEntries es := mem_kindEntries.2 ⟨hes, hk⟩
      rw [hentries, List.mem_singleton] at hentry
      rw [hentry]
    · exact hname ▸ List.mem_map_of_mem hmem.1
  ordered := by
    intro fs hperm s t hs ht
    rw [ofObject?_perm hone hperm, hs] at ht
    rw [Option.some.inj ht]

/-- The first field that is named for a kind is the source, and by reordering its fields an
object can be made to be read as just those sources that such fields give. So an object
that names one kind once is read as one source, in each order of its fields. -/
theorem reads_firstKind (es : List (String × Json)) :
    (∀ s, ofObject? es = some s ↔
      PathGiven es s.subPath ∧
        ∃ e, (kindEntries es).head? = some e ∧ Source.GivenBy e s.source) ∧
      (∀ s, (∃ fs, fs.Perm es ∧ ofObject? fs = some s) ↔
        PathGiven es s.subPath ∧ ∃ e ∈ kindEntries es, Source.GivenBy e s.source) ∧
      ((kindEntries es).length ≤ 1 →
        OneKindRead es ∧ ∀ fs, fs.Perm es → ofObject? fs = ofObject? es) := by
  refine ⟨fun s => ofObject?_eq_some_iff, fun s => exists_perm_ofObject?_iff, fun hone => ?_⟩
  exact ⟨oneKindRead_of_length hone, fun fs hperm => ofObject?_perm hone hperm⟩

/-- An object with a path, an image as its source, and a field of another name. -/
def annotatedImage : List (String × Json) :=
  [("note", .int 1), ("registry", .obj [("image", .str "host/app")]), ("subPath", .str "svc")]

theorem annotatedImage_read :
    (kindEntries annotatedImage).length ≤ 1 ∧
      ofObject? annotatedImage = some ⟨.registry ⟨"host/app", []⟩, some "svc"⟩ ∧
      ofObject? annotatedImage.reverse = some ⟨.registry ⟨"host/app", []⟩, some "svc"⟩ ∧
      OneKindRead annotatedImage := by
  have hone : (kindEntries annotatedImage).length ≤ 1 := by decide
  have hread : ofObject? annotatedImage = some ⟨.registry ⟨"host/app", []⟩, some "svc"⟩ := by
    decide +kernel
  obtain ⟨hkind, hordered⟩ := (reads_firstKind annotatedImage).2.2 hone
  exact ⟨hone, hread, (hordered _ (List.reverse_perm _)).trans hread, hkind⟩

/-- An object that names an archive and a repository. -/
def twoKinds : List (String × Json) :=
  [("blob", .obj [("url", .str "https://host/app.tar")]),
    ("git", .obj [("url", .str "https://host/app")])]

theorem twoKinds_ambiguous :
    ofObject? twoKinds = some ⟨.blob ⟨"https://host/app.tar", 0, false⟩, none⟩ ∧
      ofObject? twoKinds.reverse = some ⟨.git ⟨"https://host/app", "", false⟩, none⟩ ∧
      ¬ OneKindRead twoKinds := by
  have hread : ofObject? twoKinds = some ⟨.blob ⟨"https://host/app.tar", 0, false⟩, none⟩ := by
    decide +kernel
  have hreversed :
      ofObject? twoKinds.reverse = some ⟨.git ⟨"https://host/app", "", false⟩, none⟩ := by
    decide +kernel
  refine ⟨hread, hreversed, fun h => ?_⟩
  cases h.ordered _ (List.reverse_perm _) _ _ hread hreversed

end SourceConfig

end ImageBuild
