import ImageBuild.Proofs.Json.Reading

/-!
# Values in key order

Putting the fields of objects in key order keeps a value exact, and what is in
order already stays as it is. The main statements are `sorted_sorted` and
`Exact.sorted`.
-/
namespace ImageBuild

theorem mem_sortEntries {α : Type} {e : String × α} {es : List (String × α)}
    (h : e ∈ sortEntries es) : e ∈ es := by
  have hfold : ∀ acc : List (String × α),
      e ∈ es.foldl (fun acc e => insertEntry e.1 e.2 acc) acc → e ∈ acc ∨ e ∈ es := by
    clear h
    induction es with
    | nil => exact fun _ h => .inl h
    | cons f fs ih =>
      intro acc h
      rcases ih _ h with hacc | hfs
      · rcases mem_insertEntry hacc with rfl | hacc
        · exact .inr List.mem_cons_self
        · exact .inl hacc
      · exact .inr (List.mem_cons_of_mem f hfs)
  exact (hfold [] h).resolve_left List.not_mem_nil

namespace Json

theorem sortedItems_eq_map (vs : List Json) : sortedItems vs = vs.map sorted := by
  induction vs with
  | nil => rfl
  | cons v vs ih => rw [sortedItems, ih, List.map_cons]

theorem sortedFields_eq_map (fs : List (String × Json)) :
    sortedFields fs = fs.map fun f => (f.1, f.2.sorted) := by
  induction fs with
  | nil => rfl
  | cons f fs ih => rw [sortedFields, ih, List.map_cons]

mutual

theorem sorted_sorted : ∀ v : Json, v.sorted.sorted = v.sorted
  | .null | .bool _ | .int _ | .float _ | .str _ => rfl
  | .arr items => by
    have hitems := List.map_congr_left (sorted_of_mem_sortedItems items)
    rw [sorted, sorted, sortedItems_eq_map (sortedItems items), hitems, List.map_id']
  | .obj fields => by
    have hfields : ∀ f ∈ sortEntries (sortedFields fields), (f.1, f.2.sorted) = f := fun f hf => by
      rw [sorted_of_mem_sortedFields fields f (mem_sortEntries hf)]
    rw [sorted, sorted, sortedFields_eq_map (sortEntries _), List.map_congr_left hfields,
      List.map_id', sortEntries_eq_self (keysSorted_sortEntries _)]

theorem sorted_of_mem_sortedItems : ∀ vs : List Json, ∀ v ∈ sortedItems vs, v.sorted = v
  | [], _, h => by cases h
  | u :: us, v, h => by
    rcases List.mem_cons.1 h with rfl | h
    · exact sorted_sorted u
    · exact sorted_of_mem_sortedItems us v h

theorem sorted_of_mem_sortedFields :
    ∀ fs : List (String × Json), ∀ f ∈ sortedFields fs, f.2.sorted = f.2
  | [], _, h => by cases h
  | (k, v) :: fs, f, h => by
    rcases List.mem_cons.1 h with rfl | h
    · exact sorted_sorted v
    · exact sorted_of_mem_sortedFields fs f h

end

theorem Exact.sorted {depth : Nat} {v : Json} (h : Exact depth v) : Exact depth v.sorted := by
  induction h with
  | null => exact .null
  | bool b => exact .bool b
  | int hmin hmax => exact .int hmin hmax
  | str s => exact .str s
  | arr h ih =>
    apply Exact.arr
    rw [sortedItems_eq_map]
    exact List.forall_mem_map.2 ih
  | obj h ih =>
    apply Exact.obj
    intro f hf
    have hmem := mem_sortEntries hf
    rw [sortedFields_eq_map] at hmem
    obtain ⟨g, hg, rfl⟩ := List.mem_map.1 hmem
    exact ih g hg

end Json

end ImageBuild
