import ImageBuild.Proofs.Decimal.Signed
import Mathlib.Data.List.Induction

/-!
# The printed form of a number

Of the numerals for a number one has no zero in front, and it is the one that is printed.
What is printed denotes the number. The main statement is `toDigits_ofDigitChars`.
-/
namespace ImageBuild.Decimal

variable {ds : List Char}

theorem digitChar_digitValue {c : Char} (h : c.isDigit) :
    digitValue c < 10 ∧ (digitValue c).digitChar = c := by
  have hvalue := Char.ofNat_toNat c
  simp only [Char.isDigit, Bool.and_eq_true, decide_eq_true_eq, ge_iff_le,
    UInt32.le_iff_toNat_le] at h
  have hlow : 48 ≤ c.toNat := h.1
  have hhigh : c.toNat ≤ 57 := h.2
  have hchar : ∀ n ≤ 57, 48 ≤ n → n - 48 < 10 ∧ (n - 48).digitChar = Char.ofNat n := by decide
  have hdigit := hchar c.toNat hhigh hlow
  rwa [hvalue] at hdigit

theorem isNumeral_toDigits (n : Nat) : IsNumeral (Nat.toDigits 10 n) :=
  ⟨Nat.toDigits_ne_nil, fun _ => isDigit_of_mem_toDigits⟩

/-- What is printed for an integer denotes it. -/
theorem denotes_toString (i : Int) : Denotes (toString i).toList i := by
  cases i with
  | ofNat n =>
    rw [toList_toString_ofNat]
    have hplain := Denotes.plain (isNumeral_toDigits n)
    rwa [Nat.ofDigitChars_ten_toDigits] at hplain
  | negSucc n =>
    rw [toList_toString_negSucc]
    have hminus := Denotes.minus (isNumeral_toDigits (n + 1))
    rwa [Nat.ofDigitChars_ten_toDigits] at hminus

/-- A numeral without a zero in front is the printed form of its number. -/
theorem toDigits_ofDigitChars (h : IsNumeral ds) (hzero : ds.head? = some '0' → ds = ['0']) :
    Nat.toDigits 10 (Nat.ofDigitChars 10 ds 0) = ds := by
  induction ds using List.reverseRecOn with
  | nil => exact absurd rfl h.ne_nil
  | append_singleton init d ih =>
    obtain ⟨hlt, hd⟩ := digitChar_digitValue (h.digits d (by simp))
    have hstep : Nat.ofDigitChars 10 (init ++ [d]) 0 =
        10 * Nat.ofDigitChars 10 init 0 + digitValue d := Nat.ofDigitChars_append 0
    rw [hstep]
    by_cases hinit : init = []
    · have hnone : Nat.ofDigitChars 10 [] 0 = 0 := rfl
      rw [hinit, hnone, Nat.mul_zero, Nat.zero_add, Nat.toDigits_of_lt_base hlt, hd,
        List.nil_append]
    · have hhead : init.head? ≠ some '0' := by
        intro hhead
        have hwhole := hzero (by rw [List.head?_append, hhead]; rfl)
        rcases List.append_eq_singleton_iff.1 hwhole with ⟨h, -⟩ | ⟨-, h⟩
        · exact hinit h
        · exact List.cons_ne_nil d [] h
      have hread := ih ⟨hinit, fun c hc => h.digits c (List.mem_append_left _ hc)⟩
        fun h => absurd h hhead
      have hpos : 0 < Nat.ofDigitChars 10 init 0 := by
        rw [Nat.pos_iff_ne_zero]
        intro hnone
        rw [hnone] at hread
        exact hhead (by rw [← hread]; rfl)
      have hdiv : (10 * Nat.ofDigitChars 10 init 0 + digitValue d) / 10 =
          Nat.ofDigitChars 10 init 0 := by omega
      have hmod : (10 * Nat.ofDigitChars 10 init 0 + digitValue d) % 10 = digitValue d := by omega
      rw [Nat.toDigits_of_base_le (by decide) (by omega), hdiv, hmod, hread, hd]

end ImageBuild.Decimal
