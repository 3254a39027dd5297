import ImageBuild.Document
import ImageBuild.Proofs.Json.Sorted

/-!
# Documents that show a value

The fields of an object have no order. A document shows a value if it has the
same tree, with the fields of each object in some order, and so does the
document that is read from the text of the value. The main statements are
`shows_sorted` and `parse_compact`.
-/
namespace ImageBuild

section Entries

variable {α : Type} {es fs : List (String × α)}

theorem insertEntry_perm {key : String} {value : α} (h : ∀ e ∈ es, e.1 ≠ key) :
    (insertEntry key value es).Perm ((key, value) :: es) := by
  induction es with
  | nil => exact List.Perm.refl _
  | cons e es ih =>
    obtain ⟨he, hes⟩ := List.forall_mem_cons.1 h
    rw [insertEntry, if_neg he.symm]
    split
    · exact List.Perm.refl _
    · exact ((ih hes).cons e).trans (List.Perm.swap ..)

/-- Putting entries in key order keeps them if no key is repeated. -/
theorem sortEntries_perm (h : (es.map Prod.fst).Nodup) : (sortEntries es).Perm es := by
  have hfold : ∀ acc : List (String × α), ((acc ++ es).map Prod.fst).Nodup →
      (es.foldl (fun acc e => insertEntry e.1 e.2 acc) acc).Perm (acc ++ es) := by
    clear h
    induction es with
    | nil => simp
    | cons e es ih =>
      intro acc h
      have hnew : ∀ a ∈ acc, a.1 ≠ e.1 := by
        intro a ha heq
        rw [List.map_append, List.map_cons] at h
        exact (List.nodup_append.1 h).2.2 _ (List.mem_map_of_mem ha) _ List.mem_cons_self heq
      have hinsert : (insertEntry e.1 e.2 acc).Perm (e :: acc) := insertEntry_perm hnew
      have hnodup : ((insertEntry e.1 e.2 acc ++ es).map Prod.fst).Nodup := by
        have hperm : (insertEntry e.1 e.2 acc ++ es).Perm (acc ++ e :: es) :=
          (hinsert.append_right es).trans List.perm_middle.symm
        exact (hperm.map Prod.fst).nodup_iff.2 h
      exact (ih _ hnodup).trans ((hinsert.append_right es).trans List.perm_middle.symm)
  exact hfold [] h

theorem nodup_of_keysSorted (h : KeysSorted es) : (es.map Prod.fst).Nodup := by
  rw [List.Nodup, List.pairwise_map]
  refine List.Pairwise.imp ?_ h
  intro a b hlt heq
  rw [heq] at hlt
  exact String.lt_irrefl _ hlt

/-- Entries in key order are determined by which ones they are. -/
theorem sortEntries_of_perm (hsorted : KeysSorted es) (h : fs.Perm es) : sortEntries fs = es := by
  have hnodup : (fs.map Prod.fst).Nodup :=
    (h.map Prod.fst).nodup_iff.2 (nodup_of_keysSorted hsorted)
  have hperm : (sortEntries fs).Perm es := (sortEntries_perm hnodup).trans h
  refine hperm.eq_of_pairwise ?_ (keysSorted_sortEntries fs) hsorted
  intro a b _ _ hab hba
  exact absurd (String.lt_trans hab hba) (String.lt_irrefl _)

end Entries

namespace Json

/-- No object has two fields of one name. -/
inductive Distinct : Json → Prop
  | null : Distinct .null
  | bool (b : Bool) : Distinct (.bool b)
  | int (i : Int) : Distinct (.int i)
  | float (x : Decimal.Binary64) : Distinct (.float x)
  | str (s : String) : Distinct (.str s)
  | arr {items : List Json} (h : ∀ v ∈ items, Distinct v) : Distinct (.arr items)
  | obj {fields : List (String × Json)} (hnames : (fields.map Prod.fst).Nodup)
      (h : ∀ f ∈ fields, Distinct f.2) : Distinct (.obj fields)

mutual

/-- The document has the tree of the value, with the fields of objects in some order. -/
inductive Shows : Json → Document → Prop
  | null : Shows .null .null
  | bool (b : Bool) : Shows (.bool b) (.bool b)
  | int (i : Int) : Shows (.int i) (.int i)
  | float (x : Decimal.Binary64) : Shows (.float x) .float
  | str (s : String) : Shows (.str s) (.str s)
  | arr {items : List Json} {ds : List Document} (h : ShowsItems items ds) :
      Shows (.arr items) (.array ds)
  | obj {fields : List (String × Json)} {gs hs : Fields} (h : ShowsFields fields gs)
      (hperm : hs.Perm gs) : Shows (.obj fields) (.object hs)

inductive ShowsItems : List Json → List Document → Prop
  | nil : ShowsItems [] []
  | cons {v : Json} {vs : List Json} {d : Document} {ds : List Document} (h : Shows v d)
      (hs : ShowsItems vs ds) : ShowsItems (v :: vs) (d :: ds)

inductive ShowsFields : List (String × Json) → Fields → Prop
  | nil : ShowsFields [] []
  | cons {name : String} {v : Json} {fs : List (String × Json)} {d : Document} {gs : Fields}
      (h : Shows v d) (hs : ShowsFields fs gs) : ShowsFields ((name, v) :: fs) ((name, d) :: gs)

end

theorem toDocuments_eq_map (vs : List Json) : toDocuments vs = vs.map toDocument := by
  induction vs with
  | nil => rfl
  | cons v vs ih => rw [toDocuments, ih, List.map_cons]

theorem toFields_eq_map (fs : List (String × Json)) :
    toFields fs = fs.map fun f => (f.1, f.2.toDocument) := by
  induction fs with
  | nil => rfl
  | cons f fs ih => rw [toFields, ih, List.map_cons]

variable {vs : List Json} {fs : List (String × Json)} {gs : Fields} {v : Json}

theorem showsItems_map {f : Json → Document} (h : ∀ v ∈ vs, v.Shows (f v)) :
    ShowsItems vs (vs.map f) := by
  induction vs with
  | nil => exact .nil
  | cons v vs ih =>
    obtain ⟨hv, hvs⟩ := List.forall_mem_cons.1 h
    exact .cons hv (ih hvs)

theorem showsFields_map {f : Json → Document} (h : ∀ e ∈ fs, e.2.Shows (f e.2)) :
    ShowsFields fs (fs.map fun e => (e.1, f e.2)) := by
  induction fs with
  | nil => exact .nil
  | cons e fs ih =>
    obtain ⟨he, hfs⟩ := List.forall_mem_cons.1 h
    exact .cons he (ih hfs)

mutual

/-- A value is shown with its fields in the order in which they are written. -/
theorem shows_toDocument : ∀ v : Json, v.Shows v.toDocument
  | .null => .null
  | .bool b => .bool b
  | .int i => .int i
  | .float x => .float x
  | .str s => .str s
  | .arr items => .arr (showsItems_toDocuments items)
  | .obj fields => .obj (showsFields_toFields fields) (List.Perm.refl _)

theorem showsItems_toDocuments : ∀ vs : List Json, ShowsItems vs (toDocuments vs)
  | [] => .nil
  | v :: vs => .cons (shows_toDocument v) (showsItems_toDocuments vs)

theorem showsFields_toFields : ∀ fs : List (String × Json), ShowsFields fs (toFields fs)
  | [] => .nil
  | (_, v) :: fs => .cons (shows_toDocument v) (showsFields_toFields fs)

end

/-- A value is shown with its fields in key order. -/
theorem shows_sorted (h : v.Distinct) : v.Shows v.sorted.toDocument := by
  induction h with
  | null => exact .null
  | bool b => exact .bool b
  | int i => exact .int i
  | float x => exact .float x
  | str s => exact .str s
  | arr h ih =>
    rw [sorted, sortedItems_eq_map, toDocument, toDocuments_eq_map, List.map_map]
    exact .arr (showsItems_map ih)
  | @obj fields hnames h ih =>
    have hshown := showsFields_map (f := fun v => v.sorted.toDocument) ih
    have hkeys : ((sortedFields fields).map Prod.fst).Nodup := by
      rw [sortedFields_eq_map, List.map_map]
      exact hnames
    have hperm := (sortEntries_perm hkeys).map fun f => (f.1, f.2.toDocument)
    rw [← toFields_eq_map, sortedFields_eq_map, List.map_map] at hperm
    rw [sorted, toDocument, sortedFields_eq_map]
    exact .obj hshown hperm

/-- The text of an exact value is read as the value, with its fields in key order. -/
theorem parse_compact (h : Exact maxDepth v) : parse v.compact = some v.sorted := by
  simp [parse, read_compact h, depth_written h, value?_written h]

end Json

end ImageBuild
