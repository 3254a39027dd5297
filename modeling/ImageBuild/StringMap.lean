/-!
# Maps with text keys

A map is its list of entries in strictly increasing key order, so two maps
with the same entries are equal. Keys are compared by code points.
-/
namespace ImageBuild

/-- Put an entry at its place in key order; an equal key is replaced. -/
def insertEntry (key : String) (value : α) : List (String × α) → List (String × α)
  | [] => [(key, value)]
  | e :: es =>
    if key < e.1 then (key, value) :: e :: es
    else if key = e.1 then (key, value) :: es
    else e :: insertEntry key value es

/-- Entries in strictly increasing key order. -/
def KeysSorted (es : List (String × α)) : Prop := es.Pairwise (fun a b => a.1 < b.1)

theorem keysSorted_nil : KeysSorted ([] : List (String × α)) := List.Pairwise.nil

theorem mem_insertEntry {key : String} {value : α} {e : String × α} {es : List (String × α)}
    (h : e ∈ insertEntry key value es) : e = (key, value) ∨ e ∈ es := by
  induction es with
  | nil => simpa [insertEntry] using h
  | cons f fs ih =>
    simp only [insertEntry] at h
    split at h
    · simpa using h
    · split at h
      · rcases List.mem_cons.1 h with h | h
        · exact .inl h
        · exact .inr (List.mem_cons_of_mem _ h)
      · rcases List.mem_cons.1 h with h | h
        · exact .inr (h ▸ List.mem_cons_self)
        · exact (ih h).imp_right (List.mem_cons_of_mem _)

theorem keysSorted_insertEntry {es : List (String × α)} (key : String) (value : α)
    (h : KeysSorted es) : KeysSorted (insertEntry key value es) := by
  induction es with
  | nil => simp [insertEntry, KeysSorted]
  | cons f fs ih =>
    have hf : ∀ g ∈ fs, f.1 < g.1 := (List.pairwise_cons.1 h).1
    have hfs : KeysSorted fs := (List.pairwise_cons.1 h).2
    simp only [insertEntry]
    split
    next hlt =>
      refine List.pairwise_cons.2 ⟨?_, h⟩
      intro g hg
      rcases List.mem_cons.1 hg with rfl | hg
      · exact hlt
      · exact String.lt_trans hlt (hf g hg)
    next hnlt =>
      split
      next heq =>
        refine List.pairwise_cons.2 ⟨?_, hfs⟩
        intro g hg
        exact heq ▸ hf g hg
      next hne =>
        refine List.pairwise_cons.2 ⟨?_, ih hfs⟩
        intro g hg
        rcases mem_insertEntry hg with rfl | hg
        · exact Std.lt_of_le_of_ne (Std.not_lt.1 hnlt) (Ne.symm hne)
        · exact hf g hg

/-- The entries in key order, of equal keys the last. -/
def sortEntries (es : List (String × α)) : List (String × α) :=
  es.foldl (fun acc e => insertEntry e.1 e.2 acc) []

theorem keysSorted_sortEntries (es : List (String × α)) : KeysSorted (sortEntries es) := by
  have : ∀ acc : List (String × α), KeysSorted acc →
      KeysSorted (es.foldl (fun acc e => insertEntry e.1 e.2 acc) acc) := by
    induction es with
    | nil => exact fun _ h => h
    | cons e es ih => exact fun acc h => ih _ (keysSorted_insertEntry e.1 e.2 h)
  exact this [] keysSorted_nil

/-- A new greatest key goes to the end. -/
theorem insertEntry_append {es : List (String × α)} {key : String} {value : α}
    (h : ∀ e ∈ es, e.1 < key) : insertEntry key value es = es ++ [(key, value)] := by
  induction es with
  | nil => rfl
  | cons f fs ih =>
    have hf : f.1 < key := h f List.mem_cons_self
    have h1 : ¬ key < f.1 := fun hlt => String.lt_irrefl _ (String.lt_trans hlt hf)
    have h2 : key ≠ f.1 := fun heq => String.lt_irrefl _ (heq ▸ hf)
    rw [insertEntry, if_neg h1, if_neg h2, ih fun e he => h e (List.mem_cons_of_mem _ he)]
    rfl

/-- Of two values that are put at one key, the last stays. -/
theorem insertEntry_insertEntry (key : String) (value other : α) (es : List (String × α)) :
    insertEntry key value (insertEntry key other es) = insertEntry key value es := by
  have hself : ¬ key < key := String.lt_irrefl key
  induction es with
  | nil => simp only [insertEntry, hself, if_true, if_false]
  | cons e es ih =>
    simp only [insertEntry]
    split
    next => simp only [insertEntry, hself, if_true, if_false]
    next hlt =>
      split
      next => simp only [insertEntry, hself, if_true, if_false]
      next hne => rw [insertEntry, if_neg hlt, if_neg hne, ih]

/-- Entries that are in key order stay as they are. -/
theorem sortEntries_eq_self {es : List (String × α)} (h : KeysSorted es) : sortEntries es = es := by
  have : ∀ acc : List (String × α), KeysSorted (acc ++ es) →
      es.foldl (fun acc e => insertEntry e.1 e.2 acc) acc = acc ++ es := by
    clear h
    induction es with
    | nil => simp
    | cons e es ih =>
      intro acc h
      have hacc : ∀ a ∈ acc, a.1 < e.1 := fun a ha =>
        (List.pairwise_append.1 h).2.2 a ha e List.mem_cons_self
      rw [List.foldl_cons, insertEntry_append hacc, ih]
      · simp
      · simpa using h
  exact this [] h

/-- A finite map from texts. -/
structure StringMap (α : Type) where
  entries : List (String × α)
  sorted : KeysSorted entries

namespace StringMap

theorem ext {a b : StringMap α} (h : a.entries = b.entries) : a = b := by
  cases a
  cases b
  cases h
  rfl

instance [DecidableEq α] : DecidableEq (StringMap α) := fun a b =>
  decidable_of_iff (a.entries = b.entries) ⟨ext, fun h => h ▸ rfl⟩

instance [Repr α] : Repr (StringMap α) := ⟨fun m n => reprPrec m.entries n⟩

/-- The map without entries. -/
def empty : StringMap α := ⟨[], keysSorted_nil⟩

instance : EmptyCollection (StringMap α) := ⟨empty⟩

instance : Inhabited (StringMap α) := ⟨empty⟩

/-- The map of a list of entries, of equal keys the last. -/
def ofList (es : List (String × α)) : StringMap α := ⟨sortEntries es, keysSorted_sortEntries es⟩

/-- The entries in key order. -/
def toList (m : StringMap α) : List (String × α) := m.entries

/-- The map with one entry added or replaced. -/
def insert (m : StringMap α) (key : String) (value : α) : StringMap α :=
  ⟨insertEntry key value m.entries, keysSorted_insertEntry key value m.sorted⟩

theorem insert_insert (m : StringMap α) (key : String) (value other : α) :
    (m.insert key other).insert key value = m.insert key value :=
  ext (insertEntry_insertEntry key value other m.entries)

/-- The value of a key. -/
def get? (m : StringMap α) (key : String) : Option α :=
  (m.entries.find? (·.1 == key)).map (·.2)

def contains (m : StringMap α) (key : String) : Bool := (m.get? key).isSome

def isEmpty (m : StringMap α) : Bool := m.entries.isEmpty

end StringMap

end ImageBuild
