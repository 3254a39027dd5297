import ImageBuild.Decimal.Signed

/-!
# Which texts are 64-bit integers

A text denotes an integer if it is a run of digits after at most one sign, and
it is read as a 64-bit integer exactly if it denotes one. The main statement is
`readInt64_eq_ok_iff`.
-/
namespace ImageBuild.Decimal

/-- A run of digits. Zeros may lead it. -/
structure IsNumeral (ds : List Char) : Prop where
  ne_nil : ds ≠ []
  digits : ∀ d ∈ ds, d.isDigit

/-- The integer of a text with at most one sign. -/
inductive Denotes : List Char → Int → Prop
  | plain {ds : List Char} (h : IsNumeral ds) : Denotes ds (Nat.ofDigitChars 10 ds 0)
  | plus {ds : List Char} (h : IsNumeral ds) : Denotes ('+' :: ds) (Nat.ofDigitChars 10 ds 0)
  | minus {ds : List Char} (h : IsNumeral ds) : Denotes ('-' :: ds) (-Nat.ofDigitChars 10 ds 0)

/-- Further digits do not make a number less. -/
theorem le_ofDigitChars (n : Nat) (ds : List Char) : n ≤ Nat.ofDigitChars 10 ds n := by
  induction ds generalizing n with
  | nil => exact Nat.le_refl n
  | cons d ds ih =>
    have hstep : n ≤ 10 * n + digitValue d := by omega
    exact Nat.le_trans hstep (ih (10 * n + digitValue d))

variable {negative : Bool} {n m : Nat} {cs ds : List Char}

/-- A number that is too great stays so whatever digits follow. -/
theorem readMagnitude_eq_ok_iff (hn : n ≤ magnitudeLimit negative) :
    readMagnitude negative n ds = .ok m ↔
      (∀ d ∈ ds, d.isDigit) ∧ Nat.ofDigitChars 10 ds n = m ∧ m ≤ magnitudeLimit negative := by
  induction ds generalizing n with
  | nil =>
    simp only [readMagnitude, Except.ok.injEq, List.not_mem_nil, false_imp_iff, implies_true,
      true_and, Nat.ofDigitChars_nil]
    constructor
    · rintro rfl
      exact ⟨rfl, hn⟩
    · exact And.left
  | cons d ds ih =>
    have hle := le_ofDigitChars (10 * n + digitValue d) ds
    have hcons : Nat.ofDigitChars 10 (d :: ds) n =
        Nat.ofDigitChars 10 ds (10 * n + digitValue d) := rfl
    rw [readMagnitude, hcons, List.forall_mem_cons]
    by_cases hd : d.isDigit
    · by_cases hlimit : 10 * n + digitValue d ≤ magnitudeLimit negative
      · simp [hd, Nat.not_lt.2 hlimit, ih hlimit]
      · have hgreat : ¬ (Nat.ofDigitChars 10 ds (10 * n + digitValue d) = m ∧
            m ≤ magnitudeLimit negative) := by
          omega
        simp [hd, Nat.not_le.1 hlimit, hgreat]
    · simp [hd]

theorem readMagnitude_zero_eq_ok_iff :
    readMagnitude negative 0 ds = .ok m ↔
      (∀ d ∈ ds, d.isDigit) ∧ Nat.ofDigitChars 10 ds 0 = m ∧ m ≤ magnitudeLimit negative :=
  readMagnitude_eq_ok_iff (Nat.zero_le _)

theorem denotes_minus_iff {i : Int} :
    Denotes ('-' :: ds) i ↔ IsNumeral ds ∧ i = -(Nat.ofDigitChars 10 ds 0 : Int) := by
  constructor
  · intro h
    cases h with
    | plain h => exact absurd (h.digits '-' List.mem_cons_self) (by decide)
    | minus h => exact ⟨h, rfl⟩
  · rintro ⟨h, rfl⟩
    exact .minus h

theorem denotes_plus_iff {i : Int} :
    Denotes ('+' :: ds) i ↔ IsNumeral ds ∧ i = Nat.ofDigitChars 10 ds 0 := by
  constructor
  · intro h
    cases h with
    | plain h => exact absurd (h.digits '+' List.mem_cons_self) (by decide)
    | plus h => exact ⟨h, rfl⟩
  · rintro ⟨h, rfl⟩
    exact .plus h

theorem denotes_plain_iff {i : Int} (hminus : cs.head? ≠ some '-') (hplus : cs.head? ≠ some '+') :
    Denotes cs i ↔ IsNumeral cs ∧ i = Nat.ofDigitChars 10 cs 0 := by
  constructor
  · intro h
    cases h with
    | plain h => exact ⟨h, rfl⟩
    | plus h => exact absurd rfl hplus
    | minus h => exact absurd rfl hminus
  · rintro ⟨h, rfl⟩
    exact .plain h

/-- The limit on the absolute value is the range of the integers. -/
theorem ofInt_eq_iff {k : Int64} (h : n ≤ magnitudeLimit negative) :
    Int64.ofInt (if negative then -(n : Int) else n) = k ↔
      k.toInt = if negative then -(n : Int) else n := by
  have hrange : -2 ^ 63 ≤ (if negative then -(n : Int) else n) ∧
      (if negative then -(n : Int) else n) < 2 ^ 63 := by
    cases negative <;> simp [magnitudeLimit] at h ⊢ <;> omega
  rw [← Int64.toInt_inj, Int64.toInt_ofInt_of_le hrange.1 hrange.2, eq_comm]

theorem le_magnitudeLimit {k : Int64} (h : k.toInt = if negative then -(n : Int) else n) :
    n ≤ magnitudeLimit negative := by
  have hlow := k.le_toInt
  have hhigh := k.toInt_lt
  cases negative <;> simp [magnitudeLimit] at h ⊢ <;> omega

theorem readDigits_eq_ok_iff {k : Int64} :
    (if ds = [] then .error .invalidDigit
      else (readMagnitude negative 0 ds).map fun n => Int64.ofInt (if negative then -n else n)) =
        .ok k ↔
      IsNumeral ds ∧ k.toInt =
        if negative then -(Nat.ofDigitChars 10 ds 0 : Int) else Nat.ofDigitChars 10 ds 0 := by
  by_cases hne : ds = []
  · rw [if_pos hne]
    exact iff_of_false nofun fun h => h.1.ne_nil hne
  rw [if_neg hne]
  constructor
  · intro h
    cases hread : readMagnitude negative 0 ds with
    | error e => simp [hread, Except.map, bind, Except.bind] at h
    | ok m =>
      obtain ⟨hdigits, rfl, hlimit⟩ := readMagnitude_zero_eq_ok_iff.1 hread
      simp only [hread, Except.map, bind, Except.bind, pure, Except.pure, Except.ok.injEq] at h
      exact ⟨⟨hne, hdigits⟩, (ofInt_eq_iff hlimit).1 h⟩
  · rintro ⟨hnumeral, hvalue⟩
    have hlimit := le_magnitudeLimit hvalue
    have hread : readMagnitude negative 0 ds = .ok (Nat.ofDigitChars 10 ds 0) :=
      readMagnitude_zero_eq_ok_iff.2 ⟨hnumeral.digits, rfl, hlimit⟩
    simp only [hread, Except.map, bind, Except.bind, pure, Except.pure, Except.ok.injEq]
    exact (ofInt_eq_iff hlimit).2 hvalue

/-- A text is read as the integer that it denotes, if that is in range. -/
theorem readInt64_eq_ok_iff {k : Int64} : readInt64 cs = .ok k ↔ Denotes cs k.toInt := by
  unfold readInt64
  split
  next negative ds hsign =>
    rw [readDigits_eq_ok_iff]
    split at hsign <;> cases hsign
    · exact denotes_minus_iff.symm
    · exact denotes_plus_iff.symm
    · next hminus hplus =>
      refine (denotes_plain_iff ?_ ?_).symm <;> rintro hhead
      · obtain ⟨rest, rfl⟩ := List.head?_eq_some_iff.1 hhead
        exact hminus rest rfl
      · obtain ⟨rest, rfl⟩ := List.head?_eq_some_iff.1 hhead
        exact hplus rest rfl

theorem exists_readInt64_eq_error_iff :
    (∃ e, readInt64 cs = .error e) ↔ ∀ k : Int64, ¬ Denotes cs k.toInt := by
  simp only [← readInt64_eq_ok_iff]
  cases readInt64 cs <;> simp

end ImageBuild.Decimal
