import ImageBuild.Proofs.Json.Literal

/-!
# Values read back

A value is exact if its numbers are integers in range. The text of an exact
value is read as one tree, and this tree has the value again. The main
statement is `read_compact`, with `value?_written` and `depth_written` for what
the tree holds.
-/
namespace ImageBuild.Json

/-- All numbers are integers in range, and parts are nested no deeper than this. -/
inductive Exact : Nat → Json → Prop
  | null {depth} : Exact depth .null
  | bool {depth} (b : Bool) : Exact depth (.bool b)
  | int {depth} {i : Int} (hmin : intMin ≤ i) (hmax : i ≤ intMax) : Exact depth (.int i)
  | str {depth} (s : String) : Exact depth (.str s)
  | arr {depth} {items : List Json} (h : ∀ v ∈ items, Exact depth v) :
      Exact (depth + 1) (.arr items)
  | obj {depth} {fields : List (String × Json)} (h : ∀ f ∈ fields, Exact depth f.2) :
      Exact (depth + 1) (.obj fields)

mutual

/-- The tree of the text of a value. A number that is no integer is left to the
literal that its digits are read as. -/
def written : Json → Written
  | .null => .null
  | .bool b => .bool b
  | .int i => .number (literal i)
  | .float x => (number (x.render numberLayout)).elim .null fun r => .number r.1
  | .str s => .string (units s)
  | .arr items => .array (writtenItems items)
  | .obj fields => .object (writtenFields fields)

def writtenItems : List Json → List Written
  | [] => []
  | v :: vs => v.written :: writtenItems vs

def writtenFields : List (String × Json) → List (List StringUnit × Written)
  | [] => []
  | (k, v) :: fs => (units k, v.written) :: writtenFields fs

end

theorem values?_writtenItems {vs : List Json} (h : ∀ v ∈ vs, v.written.value? = some v) :
    Written.values? (writtenItems vs) = some vs := by
  induction vs with
  | nil => rfl
  | cons v vs ih =>
    obtain ⟨hv, hvs⟩ := List.forall_mem_cons.1 h
    simp [writtenItems, Written.values?, hv, ih hvs]

theorem fieldValues?_writtenFields {fs : List (String × Json)}
    (h : ∀ f ∈ fs, f.2.written.value? = some f.2) :
    Written.fieldValues? (writtenFields fs) = some fs := by
  induction fs with
  | nil => rfl
  | cons f fs ih =>
    obtain ⟨hf, hfs⟩ := List.forall_mem_cons.1 h
    simp [writtenFields, Written.fieldValues?, decodeString_units, hf, ih hfs]

theorem value?_written {depth : Nat} {v : Json} (h : Exact depth v) :
    v.written.value? = some v := by
  induction h with
  | null => rfl
  | bool b => rfl
  | int hmin hmax => exact value?_literal hmin hmax
  | str s => simp [written, Written.value?, decodeString_units]
  | arr h ih => simp [written, Written.value?, values?_writtenItems ih]
  | obj h ih => simp [written, Written.value?, fieldValues?_writtenFields ih]

theorem depthItems_writtenItems {depth : Nat} {vs : List Json}
    (h : ∀ v ∈ vs, v.written.depth ≤ depth) :
    Written.depthItems (writtenItems vs) ≤ depth := by
  induction vs with
  | nil => exact Nat.zero_le depth
  | cons v vs ih =>
    obtain ⟨hv, hvs⟩ := List.forall_mem_cons.1 h
    exact Nat.max_le.2 ⟨hv, ih hvs⟩

theorem depthFields_writtenFields {depth : Nat} {fs : List (String × Json)}
    (h : ∀ f ∈ fs, f.2.written.depth ≤ depth) :
    Written.depthFields (writtenFields fs) ≤ depth := by
  induction fs with
  | nil => exact Nat.zero_le depth
  | cons f fs ih =>
    obtain ⟨hf, hfs⟩ := List.forall_mem_cons.1 h
    exact Nat.max_le.2 ⟨hf, ih hfs⟩

theorem depth_written {depth : Nat} {v : Json} (h : Exact depth v) : v.written.depth ≤ depth := by
  induction h with
  | null | bool | int | str => exact Nat.zero_le _
  | arr h ih => exact Nat.succ_le_succ (depthItems_writtenItems ih)
  | obj h ih => exact Nat.succ_le_succ (depthFields_writtenFields ih)

theorem not_isSpace_of_isDigit {c : Char} (h : c.isDigit = true) : isSpace c = false := by
  rw [← Bool.not_eq_true]
  intro hspace
  simp only [isSpace, Bool.or_eq_true, beq_iff_eq] at hspace
  rcases hspace with ((rfl | rfl) | rfl) | rfl <;> exact absurd h (by decide)

/-- The text of a value starts with a character that opens it. -/
theorem compactChars_eq_cons {depth : Nat} {v : Json} (h : Exact depth v) :
    ∃ c cs, v.compactChars = c :: cs ∧ isSpace c = false ∧ c ≠ ']' := by
  cases h with
  | null => exact ⟨'n', _, rfl, by decide, by decide⟩
  | bool b => cases b <;> exact ⟨_, _, rfl, by decide, by decide⟩
  | str s => exact ⟨'"', _, rfl, by decide, by decide⟩
  | @arr depth items h => cases items <;> exact ⟨'[', _, rfl, by decide, by decide⟩
  | @obj depth fields h => cases fields <;> exact ⟨'\x7b', _, rfl, by decide, by decide⟩
  | @int depth i hmin hmax =>
    obtain ⟨c, cs, hcs, hc⟩ := Decimal.exists_toList_toString i
    refine ⟨c, cs, hcs, ?_, ?_⟩
    · rcases hc with rfl | hc
      · decide
      · exact not_isSpace_of_isDigit hc
    · rintro rfl
      exact absurd hc (by decide)

theorem skipSpace_cons {c : Char} (h : isSpace c = false) (cs : List Char) :
    skipSpace (c :: cs) = c :: cs := by
  simp [skipSpace, h]

variable {fuel : Nat} {w : Written} {cs rest more : List Char}

theorem readValue_string :
    readValue (fuel + 1) ('"' :: cs) = (stringUnits cs).map fun r => (.string r.1, r.2) :=
  rfl

theorem readValue_array {c : Char} (hspace : isSpace c = false) (hclose : c ≠ ']') :
    readValue (fuel + 1) ('[' :: c :: cs) =
      (readItems fuel (c :: cs)).map fun r => (.array r.1, r.2) := by
  have hopen : skipSpace ('[' :: c :: cs) = '[' :: c :: cs := rfl
  simp only [readValue, hopen, skipSpace_cons hspace]
  split
  next heq => exact absurd (List.cons.inj heq).1 hclose
  next => rfl

theorem readValue_object :
    readValue (fuel + 1) ('\x7b' :: '"' :: cs) =
      (readFields fuel ('"' :: cs)).map fun r => (.object r.1, r.2) :=
  rfl

theorem readItems_last (h : readValue fuel cs = some (w, ']' :: rest)) :
    readItems (fuel + 1) cs = some ([w], rest) := by
  rw [readItems, h]
  rfl

theorem readItems_cons (h : readValue fuel cs = some (w, ',' :: rest)) :
    readItems (fuel + 1) cs = (readItems fuel rest).map fun r => (w :: r.1, r.2) := by
  rw [readItems, h]
  rfl

theorem readFields_last {key : List StringUnit} (hkey : stringUnits cs = some (key, ':' :: rest))
    (h : readValue fuel rest = some (w, '\x7d' :: more)) :
    readFields (fuel + 1) ('"' :: cs) = some ([(key, w)], more) := by
  have hopen : skipSpace ('"' :: cs) = '"' :: cs := rfl
  have hcolon : skipSpace (':' :: rest) = ':' :: rest := rfl
  simp only [readFields, hopen, hkey, hcolon, h]
  rfl

theorem readFields_cons {key : List StringUnit} (hkey : stringUnits cs = some (key, ':' :: rest))
    (h : readValue fuel rest = some (w, ',' :: more)) :
    readFields (fuel + 1) ('"' :: cs) =
      (readFields fuel more).map fun r => ((key, w) :: r.1, r.2) := by
  have hopen : skipSpace ('"' :: cs) = '"' :: cs := rfl
  have hcolon : skipSpace (':' :: rest) = ':' :: rest := rfl
  simp only [readFields, hopen, hkey, hcolon, h]
  rfl

theorem readValue_number {c : Char} (h : c = '-' ∨ c.isDigit = true) :
    readValue (fuel + 1) (c :: cs) = (number (c :: cs)).map fun r => (.number r.1, r.2) := by
  have hspace : isSpace c = false := by
    rcases h with rfl | h
    · decide
    · exact not_isSpace_of_isDigit h
  have hother : ∀ d ∈ ['n', 't', 'f', '"', '[', '\x7b'], c ≠ d := by
    rintro d hd rfl
    simp only [List.mem_cons, List.not_mem_nil, or_false] at hd
    rcases hd with rfl | rfl | rfl | rfl | rfl | rfl <;> exact absurd h (by decide)
  rw [readValue, skipSpace_cons hspace]
  split
  case h_7 => rfl
  all_goals
    next heq => exact absurd (List.cons.inj heq).1 (hother _ (by decide))

/-- With enough fuel the text of a value is read as its tree, whatever ends it. -/
def Reads (v : Json) : Prop :=
  ∀ fuel rest, Ends rest → 2 * v.compactChars.length ≤ fuel →
    readValue fuel (v.compactChars ++ rest) = some (v.written, rest)

theorem exists_fuel {n fuel : Nat} (hn : n ≠ 0) (h : 2 * n ≤ fuel) : ∃ k, fuel = k + 1 :=
  Nat.exists_eq_add_one.2 (by omega)

theorem reads_null : Reads .null := by
  intro fuel rest hends hfuel
  obtain ⟨k, rfl⟩ := exists_fuel (by decide) hfuel
  rfl

theorem reads_bool (b : Bool) : Reads (.bool b) := by
  intro fuel rest hends hfuel
  cases b <;>
  · obtain ⟨k, rfl⟩ := exists_fuel (by decide) hfuel
    rfl

theorem reads_str (s : String) : Reads (.str s) := by
  intro fuel rest hends hfuel
  have hchars : (Json.str s).compactChars = '"' :: (escape s.toList ++ ['"']) := rfl
  obtain ⟨k, rfl⟩ := exists_fuel (by simp [hchars]) hfuel
  have hunits : stringUnits (escape s.toList ++ '"' :: rest) = some (units s, rest) :=
    stringUnits_escape s.toList rest
  rw [hchars, List.cons_append, List.append_assoc, List.singleton_append, readValue_string, hunits]
  rfl

theorem reads_int (i : Int) : Reads (.int i) := by
  intro fuel rest hends hfuel
  have hnumber := number_toString i hends
  have hchars : (Json.int i).compactChars = (toString i).toList := rfl
  obtain ⟨c, cs, hcs, hc⟩ := Decimal.exists_toList_toString i
  have hlength : (Json.int i).compactChars.length ≠ 0 := by
    rw [hchars, hcs]
    exact Nat.succ_ne_zero _
  obtain ⟨k, rfl⟩ := exists_fuel hlength hfuel
  rw [hchars, hcs, List.cons_append, readValue_number hc, ← List.cons_append, ← hcs, hnumber]
  rfl

/-- What follows an item is no part of it. -/
theorem ends_compactItems (vs : List Json) (rest : List Char) : Ends (compactItems vs ++ rest) := by
  cases vs <;> exact ends_cons _ (by decide)

theorem ends_compactFields (fs : List (String × Json)) (rest : List Char) :
    Ends (compactFields fs ++ rest) := by
  cases fs <;> exact ends_cons _ (by decide)

theorem readItems_compactItems {v : Json} {vs : List Json} (hv : Reads v) (hvs : ∀ u ∈ vs, Reads u)
    (hfuel : 2 * (v.compactChars ++ compactItems vs).length ≤ fuel) :
    readItems fuel (v.compactChars ++ (compactItems vs ++ rest)) =
      some (v.written :: writtenItems vs, rest) := by
  induction vs generalizing v fuel with
  | nil =>
    obtain ⟨k, rfl⟩ := exists_fuel (by simp [compactItems]) hfuel
    have hread := hv k (compactItems [] ++ rest) (ends_compactItems [] rest) (by
      simp only [compactItems, List.length_append, List.length_singleton] at hfuel
      omega)
    exact readItems_last hread
  | cons u us ih =>
    obtain ⟨hu, hus⟩ := List.forall_mem_cons.1 hvs
    obtain ⟨k, rfl⟩ := exists_fuel (by simp [compactItems]) hfuel
    have hlength : 2 * v.compactChars.length ≤ k ∧
        2 * (u.compactChars ++ compactItems us).length ≤ k := by
      simp only [compactItems, List.length_append, List.length_cons] at hfuel ⊢
      omega
    have hitems : compactItems (u :: us) ++ rest =
        ',' :: (u.compactChars ++ (compactItems us ++ rest)) := by
      simp [compactItems]
    have hread := hv k (compactItems (u :: us) ++ rest) (ends_compactItems _ rest) hlength.1
    rw [hitems] at hread ⊢
    rw [readItems_cons hread, ih hu hus hlength.2]
    rfl

/-- The text of the fields of an object from one of them on. -/
def fieldChars (k : String) (v : Json) (fs : List (String × Json)) : List Char :=
  quote k ++ ':' :: (v.compactChars ++ compactFields fs)

theorem fieldChars_append (k : String) (v : Json) (fs : List (String × Json)) (rest : List Char) :
    fieldChars k v fs ++ rest =
      '"' :: (escape k.toList ++ '"' :: ':' :: (v.compactChars ++ (compactFields fs ++ rest))) := by
  simp [fieldChars, quote]

theorem readFields_fieldChars {k : String} {v : Json} {fs : List (String × Json)} (hv : Reads v)
    (hfs : ∀ f ∈ fs, Reads f.2) (hfuel : 2 * (fieldChars k v fs).length ≤ fuel) :
    readFields fuel (fieldChars k v fs ++ rest) =
      some ((units k, v.written) :: writtenFields fs, rest) := by
  induction fs generalizing k v fuel with
  | nil =>
    obtain ⟨n, rfl⟩ := exists_fuel (by simp [fieldChars]) hfuel
    have hread := hv n (compactFields [] ++ rest) (ends_compactFields [] rest) (by
      simp only [fieldChars, compactFields, List.length_append, List.length_cons] at hfuel
      omega)
    rw [fieldChars_append]
    exact readFields_last (stringUnits_escape k.toList _) hread
  | cons f fs ih =>
    obtain ⟨hf, hfs⟩ := List.forall_mem_cons.1 hfs
    obtain ⟨n, rfl⟩ := exists_fuel (by simp [fieldChars]) hfuel
    have hfields : compactFields (f :: fs) = ',' :: fieldChars f.1 f.2 fs := rfl
    have hlength : 2 * v.compactChars.length ≤ n ∧ 2 * (fieldChars f.1 f.2 fs).length ≤ n := by
      rw [fieldChars, hfields] at hfuel
      simp only [List.length_append, List.length_cons] at hfuel
      omega
    have hread := hv n (compactFields (f :: fs) ++ rest) (ends_compactFields _ rest) hlength.1
    rw [hfields, List.cons_append] at hread
    rw [fieldChars_append, hfields, List.cons_append,
      readFields_cons (stringUnits_escape k.toList _) hread, ih hf hfs hlength.2]
    rfl

theorem reads_arr {items : List Json} {depth : Nat} (hexact : ∀ v ∈ items, Exact depth v)
    (h : ∀ v ∈ items, Reads v) : Reads (.arr items) := by
  intro fuel rest hends hfuel
  cases items with
  | nil =>
    obtain ⟨k, rfl⟩ := exists_fuel (by decide) hfuel
    rfl
  | cons v vs =>
    obtain ⟨hv, hvs⟩ := List.forall_mem_cons.1 h
    obtain ⟨k, rfl⟩ := exists_fuel (by simp [compactChars]) hfuel
    have hlength : 2 * (v.compactChars ++ compactItems vs).length ≤ k := by
      simp only [compactChars, List.length_cons] at hfuel
      omega
    have hitems : readItems k (v.compactChars ++ (compactItems vs ++ rest)) = _ :=
      readItems_compactItems hv hvs hlength
    obtain ⟨c, cs, hcs, hspace, hclose⟩ := compactChars_eq_cons (hexact v List.mem_cons_self)
    rw [hcs, List.cons_append] at hitems
    rw [compactChars, hcs]
    simp only [List.cons_append, List.append_assoc]
    rw [readValue_array hspace hclose, hitems]
    rfl

theorem reads_obj {fields : List (String × Json)} (h : ∀ f ∈ fields, Reads f.2) :
    Reads (.obj fields) := by
  intro fuel rest hends hfuel
  cases fields with
  | nil =>
    obtain ⟨k, rfl⟩ := exists_fuel (by decide) hfuel
    rfl
  | cons f fs =>
    obtain ⟨hf, hfs⟩ := List.forall_mem_cons.1 h
    have hchars : (Json.obj (f :: fs)).compactChars = '\x7b' :: fieldChars f.1 f.2 fs := rfl
    obtain ⟨n, rfl⟩ := exists_fuel (by simp [hchars]) hfuel
    have hlength : 2 * (fieldChars f.1 f.2 fs).length ≤ n := by
      rw [hchars, List.length_cons] at hfuel
      omega
    have hfields : readFields n (fieldChars f.1 f.2 fs ++ rest) = _ :=
      readFields_fieldChars hf hfs hlength
    rw [fieldChars_append] at hfields
    rw [hchars, List.cons_append, fieldChars_append, readValue_object, hfields]
    rfl

theorem reads_of_exact {depth : Nat} {v : Json} (h : Exact depth v) : Reads v := by
  induction h with
  | null => exact reads_null
  | bool b => exact reads_bool b
  | int => exact reads_int _
  | str s => exact reads_str s
  | arr h ih => exact reads_arr h ih
  | obj h ih => exact reads_obj ih

/-- The text of an exact value is read as its tree. -/
theorem read_compact {depth : Nat} {v : Json} (h : Exact depth v) :
    read v.compact = some v.written := by
  have hread := reads_of_exact h (2 * v.compactChars.length + 1) [] ends_nil (by omega)
  rw [List.append_nil] at hread
  rw [read, compact, String.toList_ofList, readChars, hread]
  rfl

end ImageBuild.Json
