import ImageBuild.Codec
import ImageBuild.Proofs.Json.Shown
import Mathlib.Data.List.Nodup

/-!
# Codecs that lose nothing

A codec keeps a value if each document that shows what it writes is read as
the value again. Each way to build codecs and formats keeps a value if its
parts keep the parts of the value, so that the law of a record is put together
like its codec.
-/
namespace ImageBuild

open Json (Shows ShowsFields ShowsItems)

variable {α β : Type} {depth : Nat}

/-- The fields with one of the names show those that are written. -/
def Fields.Give (fs : Fields) (names : List String) (written : List (String × Json)) : Prop :=
  ∀ name ∈ names, ShowsFields (written.filter (·.1 == name)) (fs.filter (·.1 == name))

/-- What the codec writes for the value is read as the value. -/
structure Codec.Keeps (c : Codec α) (depth : Nat) (a : α) : Prop where
  exact_encode : (c.encode a).Exact depth
  distinct_encode : (c.encode a).Distinct
  encode_ne_null : c.encode a ≠ .null
  decode : ∀ {d}, (c.encode a).Shows d → c.decode d = some a

/-- The fields that the format writes for the value are read as the value, also
among fields with other names. -/
structure Format.Keeps (f : Format α) (depth : Nat) (a : α) : Prop where
  names_write : ((f.write a).map Prod.fst).Sublist f.names
  exact_write : ∀ e ∈ f.write a, e.2.Exact depth
  distinct_write : ∀ e ∈ f.write a, e.2.Distinct
  read : f.names.Nodup → ∀ {fs : Fields}, fs.Give f.names (f.write a) → f.read fs = some a

namespace Json

variable {es : List (String × Json)} {fs gs : Fields} {v : Json} {d : Document}

theorem ShowsFields.filter (h : ShowsFields es fs) (p : String → Bool) :
    ShowsFields (es.filter (p ·.1)) (fs.filter (p ·.1)) := by
  induction es generalizing fs with
  | nil =>
    cases h
    exact .nil
  | cons e es ih =>
    cases h with
    | @cons name v _ d gs hd hs =>
      by_cases hp : p name
      · simp only [List.filter_cons, hp, if_true]
        exact .cons hd (ih hs)
      · simp only [List.filter_cons, hp]
        exact ih hs

theorem ShowsFields.map_fst (h : ShowsFields es fs) : fs.map Prod.fst = es.map Prod.fst := by
  induction es generalizing fs with
  | nil =>
    cases h
    rfl
  | cons e es ih =>
    cases h with
    | cons hd hs => rw [List.map_cons, List.map_cons, ih hs]

theorem ShowsFields.eq_singleton {name : String} (h : ShowsFields [(name, v)] fs) :
    ∃ d, fs = [(name, d)] ∧ v.Shows d := by
  cases h with
  | cons hd hs =>
    cases hs
    exact ⟨_, rfl, hd⟩

theorem ShowsFields.eq_nil (h : ShowsFields [] fs) : fs = [] := by
  cases h
  rfl

end Json

theorem length_filter_le_one {fs : List (String × α)} (h : (fs.map Prod.fst).Nodup)
    (name : String) :
    (fs.filter (·.1 == name)).length ≤ 1 := by
  have hcount : (fs.filter (·.1 == name)).length = (fs.map Prod.fst).count name := by
    rw [List.count, List.countP_map, List.countP_eq_length_filter]
    rfl
  rw [hcount]
  exact List.nodup_iff_count_le_one.1 h name

theorem eq_of_perm_of_length_le_one {xs ys : List α} (h : xs.Perm ys) (hys : ys.length ≤ 1) :
    xs = ys := by
  match ys, hys with
  | [], _ => exact h.eq_nil
  | [y], _ => exact h.eq_singleton

/-- The fields that are written, in any order, give what is written. -/
theorem Fields.give_of_perm {es : List (String × Json)} {gs hs : Fields} {names : List String}
    (h : ShowsFields es gs) (hnames : (es.map Prod.fst).Nodup) (hperm : hs.Perm gs) :
    hs.Give names es := by
  intro name _
  have hfilter := hperm.filter (·.1 == name)
  have hlength := length_filter_le_one (h.map_fst ▸ hnames) name
  rw [eq_of_perm_of_length_le_one hfilter hlength]
  exact h.filter (· == name)

namespace Codec

variable {c : Codec α} {a : α}

theorem text_keeps (s : String) : text.Keeps depth s where
  exact_encode := .str s
  distinct_encode := .str s
  encode_ne_null := by simp [text]
  decode h := by
    cases h
    exact text_lawful s

theorem bool_keeps (b : Bool) : bool.Keeps depth b where
  exact_encode := .bool b
  distinct_encode := .bool b
  encode_ne_null := by simp [bool]
  decode h := by
    cases h
    exact bool_lawful b

theorem int64_keeps (n : Int64) : int64.Keeps depth n where
  exact_encode := by
    have hmin : -9223372036854775808 ≤ n.toInt := Int64.le_toInt n
    have hmax : n.toInt < 9223372036854775808 := Int64.toInt_lt n
    exact .int hmin (by rw [Json.intMax]; omega)
  distinct_encode := .int _
  encode_ne_null := by simp [int64]
  decode h := by
    cases h
    exact int64_lawful n

theorem int32_keeps (n : Int32) : int32.Keeps depth n where
  exact_encode := by
    have hmin : -2147483648 ≤ n.toInt := Int32.le_toInt n
    have hmax : n.toInt < 2147483648 := Int32.toInt_lt n
    exact .int (by rw [Json.intMin]; omega) (by rw [Json.intMax]; omega)
  distinct_encode := .int _
  encode_ne_null := by simp [int32]
  decode h := by
    cases h
    have hmin := Int32.minValue_le_toInt n
    have hmax := Int32.toInt_le n
    simp only [int32, Document.int32?, Document.int?, Option.filter, hmin, hmax, decide_true,
      Bool.and_self, if_true, Option.map, Int32.ofInt_toInt]

theorem as_keeps {make : α → β} {part : β → α} {b : β} (h : c.Keeps depth (part b))
    (hb : make (part b) = b) : (c.as make part).Keeps depth b where
  exact_encode := h.exact_encode
  distinct_encode := h.distinct_encode
  encode_ne_null := h.encode_ne_null
  decode hd := by simp [as, h.decode hd, hb]

theorem list_keeps {as : List α} (h : ∀ a ∈ as, c.Keeps depth a) :
    (list c).Keeps (depth + 1) as where
  exact_encode := .arr (List.forall_mem_map.2 fun a ha => (h a ha).exact_encode)
  distinct_encode := .arr (List.forall_mem_map.2 fun a ha => (h a ha).distinct_encode)
  encode_ne_null := by simp [list]
  decode hd := by
    cases hd with
    | @arr _ ds hds =>
      have hitems : ds.mapM c.decode = some as := by
        induction as generalizing ds with
        | nil =>
          cases hds
          rfl
        | cons a as ih =>
          obtain ⟨ha, has⟩ := List.forall_mem_cons.1 h
          cases hds with
          | cons hd hds => simp [List.mapM_cons, ha.decode hd, ih has hds]
      exact hitems

theorem mapM_perm {f : α → Option β} {xs ys : List α} {bs : List β} (hperm : xs.Perm ys)
    (h : xs.mapM f = some bs) : ∃ cs, ys.mapM f = some cs ∧ cs.Perm bs := by
  induction hperm generalizing bs with
  | nil => exact ⟨bs, h, List.Perm.refl _⟩
  | cons x hperm ih =>
    simp only [List.mapM_cons, Option.bind_eq_bind, Option.bind_eq_some_iff, Option.pure_def,
      Option.some.injEq] at h ⊢
    obtain ⟨b, hb, bs, hbs, rfl⟩ := h
    obtain ⟨cs, hcs, hperm⟩ := ih hbs
    exact ⟨b :: cs, ⟨b, hb, cs, hcs, rfl⟩, hperm.cons b⟩
  | swap x y xs =>
    simp only [List.mapM_cons, Option.bind_eq_bind, Option.bind_eq_some_iff, Option.pure_def,
      Option.some.injEq] at h ⊢
    obtain ⟨b, hb, _, ⟨c, hc, bs, hbs, rfl⟩, rfl⟩ := h
    exact ⟨c :: b :: bs, ⟨c, hc, _, ⟨b, hb, bs, hbs, rfl⟩, rfl⟩, List.Perm.swap ..⟩
  | trans _ _ ih₁ ih₂ =>
    obtain ⟨cs, hcs, hperm₁⟩ := ih₁ h
    obtain ⟨ds, hds, hperm₂⟩ := ih₂ hcs
    exact ⟨ds, hds, hperm₂.trans hperm₁⟩

theorem mapM_shown {es : List (String × α)} {gs : Fields} (h : ∀ e ∈ es, c.Keeps depth e.2)
    (hgs : ShowsFields (es.map fun e => (e.1, c.encode e.2)) gs) :
    gs.mapM (fun e => (c.decode e.2).map (e.1, ·)) = some es := by
  induction es generalizing gs with
  | nil =>
    cases hgs
    rfl
  | cons e es ih =>
    obtain ⟨he, hes⟩ := List.forall_mem_cons.1 h
    cases hgs with
    | cons hd hgs => simp [List.mapM_cons, he.decode hd, ih hes hgs]

theorem map_keeps {m : StringMap α} (h : ∀ e ∈ m.toList, c.Keeps depth e.2) :
    (map c).Keeps (depth + 1) m where
  exact_encode := .obj (List.forall_mem_map.2 fun e he => (h e he).exact_encode)
  distinct_encode := by
    refine .obj ?_ (List.forall_mem_map.2 fun e he => (h e he).distinct_encode)
    rw [List.map_map]
    exact nodup_of_keysSorted m.sorted
  encode_ne_null := by simp [map]
  decode hd := by
    cases hd with
    | obj hgs hperm =>
      obtain ⟨es, hes, hentries⟩ := mapM_perm hperm.symm (mapM_shown h hgs)
      have hmap : StringMap.ofList es = m :=
        StringMap.ext (sortEntries_of_perm m.sorted hentries)
      simp [map, Document.map?, Document.fields?, hes, hmap]

end Codec

namespace Format

variable {f : Format α} {g : Format β} {c : Codec α} {a : α} {name : String} {fs : Fields}

theorem give_singleton {v : Json} (h : fs.Give [name] [(name, v)]) :
    ∃ d, fs.filter (·.1 == name) = [(name, d)] ∧ v.Shows d := by
  have hshown := h name (List.mem_singleton_self name)
  rw [List.filter_cons_of_pos (by simp), List.filter_nil] at hshown
  exact hshown.eq_singleton

theorem give_nil (h : fs.Give [name] []) : fs.filter (·.1 == name) = [] :=
  (h name (List.mem_singleton_self name)).eq_nil

theorem get?_eq_head? (fs : Fields) (name : String) :
    fs.get? name = (fs.filter (·.1 == name)).head?.map (·.2) := by
  rw [Fields.get?, List.head?_filter]

theorem get?_of_give {v : Json} (h : fs.Give [name] [(name, v)]) :
    ∃ d, fs.get? name = some d ∧ v.Shows d := by
  obtain ⟨d, hd, hshows⟩ := give_singleton h
  exact ⟨d, by rw [get?_eq_head?, hd]; rfl, hshows⟩

theorem get?_of_give_nil (h : fs.Give [name] []) : fs.get? name = none := by
  rw [get?_eq_head?, give_nil h]
  rfl

theorem optional?_of_shows {v : Json} {d : Document} {f : Document → Option α} (h : v.Shows d)
    (hv : v ≠ .null) : d.optional? f = (f d).map some := by
  cases h <;> first | rfl | exact absurd rfl hv

theorem optional_of_give {v : Json} {f : Document → Option α} (h : fs.Give [name] [(name, v)])
    (hv : v ≠ .null) : ∃ d, v.Shows d ∧ fs.optional name f = (f d).map some := by
  obtain ⟨d, hd, hshows⟩ := give_singleton h
  refine ⟨d, hshows, ?_⟩
  rw [Fields.optional, hd]
  cases hf : f d <;> simp [optional?_of_shows hshows hv, hf]

theorem required_keeps (h : c.Keeps depth a) : (required name c).Keeps depth a where
  names_write := List.Sublist.refl _
  exact_write := List.forall_mem_singleton.2 h.exact_encode
  distinct_write := List.forall_mem_singleton.2 h.distinct_encode
  read _ fs hfs := by
    obtain ⟨d, hd, hshows⟩ := get?_of_give hfs
    simp [required, Fields.required, hd, h.decode hshows]

theorem defaulted_keeps {value : α} (h : c.Keeps depth a) :
    (defaulted name value c).Keeps depth a where
  names_write := List.Sublist.refl _
  exact_write := List.forall_mem_singleton.2 h.exact_encode
  distinct_write := List.forall_mem_singleton.2 h.distinct_encode
  read _ fs hfs := by
    obtain ⟨d, hd, hshows⟩ := get?_of_give hfs
    simp [defaulted, Fields.defaulted, hd, h.decode hshows]

theorem filled_keeps {value : α} (h : c.Keeps depth a) : (filled name value c).Keeps depth a where
  names_write := List.Sublist.refl _
  exact_write := List.forall_mem_singleton.2 h.exact_encode
  distinct_write := List.forall_mem_singleton.2 h.distinct_encode
  read _ fs hfs := by
    obtain ⟨d, hshows, hd⟩ := optional_of_give (f := c.decode) hfs h.encode_ne_null
    simp [filled, hd, h.decode hshows]

/-- What is not written is the default. -/
theorem omitted_keeps [DecidableEq α] {value : α} (h : c.Keeps depth a) :
    (omitted name value c).Keeps depth a := by
  by_cases ha : a = value
  · have hwrite : (omitted name value c).write a = [] := if_pos ha
    constructor
    · rw [hwrite]
      exact List.nil_sublist _
    · simp [hwrite]
    · simp [hwrite]
    · intro _ fs hfs
      rw [hwrite] at hfs
      simp [omitted, Fields.defaulted, get?_of_give_nil hfs, ha]
  · have hwrite : (omitted name value c).write a = [(name, c.encode a)] := if_neg ha
    constructor
    · rw [hwrite]
      exact List.Sublist.refl _
    · simpa [hwrite] using h.exact_encode
    · simpa [hwrite] using h.distinct_encode
    · intro _ fs hfs
      rw [hwrite] at hfs
      obtain ⟨d, hd, hshows⟩ := get?_of_give hfs
      simp [omitted, Fields.defaulted, hd, h.decode hshows]

theorem optional_keeps {o : Option α} (h : ∀ a ∈ o, c.Keeps depth a) :
    (optional name c).Keeps depth o := by
  cases o with
  | none =>
    refine ⟨List.nil_sublist _, nofun, nofun, ?_⟩
    intro _ fs hfs
    have hnone : fs.filter (·.1 == name) = [] := give_nil hfs
    simp [optional, Fields.optional, hnone]
  | some a =>
    have ha := h a rfl
    refine ⟨List.Sublist.refl _, List.forall_mem_singleton.2 ha.exact_encode,
      List.forall_mem_singleton.2 ha.distinct_encode, ?_⟩
    intro _ fs hfs
    obtain ⟨d, hshows, hd⟩ := optional_of_give (f := c.decode) hfs ha.encode_ne_null
    simp [optional, hd, ha.decode hshows]

/-- A field with a name of its own is none of the other fields that are written. -/
theorem filter_write_eq_nil {b : β} (hg : g.Keeps depth b) (h : name ∉ g.names) :
    (g.write b).filter (·.1 == name) = [] := by
  rw [List.filter_eq_nil_iff]
  intro e he hname
  have hmem : e.1 ∈ g.names := hg.names_write.subset (List.mem_map_of_mem he)
  exact h (beq_iff_eq.1 hname ▸ hmem)

theorem and_keeps {p : α × β} (hf : f.Keeps depth p.1) (hg : g.Keeps depth p.2) :
    (f.and g).Keeps depth p where
  names_write := by
    have hwrite : (f.and g).write p = f.write p.1 ++ g.write p.2 := rfl
    rw [hwrite, List.map_append]
    exact hf.names_write.append hg.names_write
  exact_write := List.forall_mem_append.2 ⟨hf.exact_write, hg.exact_write⟩
  distinct_write := List.forall_mem_append.2 ⟨hf.distinct_write, hg.distinct_write⟩
  read hnames fs hfs := by
    obtain ⟨hfnames, hgnames, hdisjoint⟩ := List.nodup_append.1 hnames
    have hwrite : (f.and g).write p = f.write p.1 ++ g.write p.2 := rfl
    have hfirst : fs.Give f.names (f.write p.1) := by
      intro name hname
      have hshown := hfs name (List.mem_append_left _ hname)
      have hother : name ∉ g.names := fun hg => hdisjoint name hname name hg rfl
      rwa [hwrite, List.filter_append, filter_write_eq_nil hg hother, List.append_nil] at hshown
    have hsecond : fs.Give g.names (g.write p.2) := by
      intro name hname
      have hshown := hfs name (List.mem_append_right _ hname)
      have hother : name ∉ f.names := fun hf => hdisjoint name hf name hname rfl
      rwa [hwrite, List.filter_append, filter_write_eq_nil hf hother, List.nil_append] at hshown
    simp [and, hf.read hfnames hfirst, hg.read hgnames hsecond]

theorem as_keeps {make : α → β} {part : β → α} {b : β} (h : f.Keeps depth (part b))
    (hb : make (part b) = b) : (f.as make part).Keeps depth b where
  names_write := h.names_write
  exact_write := h.exact_write
  distinct_write := h.distinct_write
  read hnames fs hfs := by
    have hread : f.read fs = some (part b) := h.read hnames hfs
    simp [as, hread, hb]

theorem nodup_write (h : f.Keeps depth a) (hnames : f.names.Nodup) :
    ((f.write a).map Prod.fst).Nodup :=
  hnames.sublist h.names_write

theorem object_keeps (h : f.Keeps depth a) (hnames : f.names.Nodup) :
    f.object.Keeps (depth + 1) a where
  exact_encode := .obj h.exact_write
  distinct_encode := .obj (nodup_write h hnames) h.distinct_write
  encode_ne_null := by simp [object]
  decode hd := by
    cases hd with
    | obj hgs hperm =>
      exact h.read hnames (Fields.give_of_perm hgs (nodup_write h hnames) hperm)

theorem record_keeps (h : f.Keeps depth a) (hnames : f.names.Nodup) :
    f.record.Keeps (depth + 1) a where
  exact_encode := .obj h.exact_write
  distinct_encode := .obj (nodup_write h hnames) h.distinct_write
  encode_ne_null := by simp [record]
  decode hd := by
    cases hd with
    | @obj _ gs hs hgs hperm =>
      have honce : Document.givenOnce f.names hs = true := by
        rw [Document.givenOnce, List.all_eq_true]
        intro name _
        have hkeys : (hs.map Prod.fst).Nodup := by
          rw [(hperm.map Prod.fst).nodup_iff, hgs.map_fst]
          exact nodup_write h hnames
        simpa using length_filter_le_one hkeys name
      have hfields : Document.record? f.names (.object hs) = some hs := Option.filter_some_pos honce
      show (Document.record? f.names (.object hs)).bind f.read = some a
      rw [hfields, Option.bind_some]
      exact h.read hnames (Fields.give_of_perm hgs (nodup_write h hnames) hperm)

end Format

/-- What a codec writes for a value comes back, read from the tree, with the
fields of objects in any order, or from the text. -/
structure Codec.ReadsBack (c : Codec α) (a : α) : Prop where
  tree : c.decode (c.encode a).toDocument = some a
  anyOrder : ∀ d, (c.encode a).Shows d → c.decode d = some a
  text : (Json.parse (c.encode a).compact).bind (fun v => c.decode v.toDocument) = some a

/-- Values that are kept differ in what is written for them, whatever the order of fields. -/
theorem Codec.Keeps.eq_of_sorted_eq {c : Codec α} {a b : α} (ha : c.Keeps depth a)
    (hb : c.Keeps depth b) (h : (c.encode a).sorted = (c.encode b).sorted) : a = b := by
  have hdecode := ha.decode (Json.shows_sorted ha.distinct_encode)
  rw [h, hb.decode (Json.shows_sorted hb.distinct_encode)] at hdecode
  exact (Option.some.inj hdecode).symm

/-- Values whose parts are not nested too deep are read back. -/
theorem Codec.Keeps.readsBack {c : Codec α} {a : α} (h : c.Keeps Json.maxDepth a) :
    c.ReadsBack a where
  tree := h.decode (Json.shows_toDocument _)
  anyOrder _ hd := h.decode hd
  text := by
    rw [Json.parse_compact h.exact_encode, Option.bind_some]
    exact h.decode (Json.shows_sorted h.distinct_encode)

end ImageBuild
