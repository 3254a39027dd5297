/-!
# Signed integers in decimal

The digits of a number are those of the standard library. A signed number is read
from left to right: the first character that is no digit, or that takes the number
out of range, decides the error.
-/
namespace ImageBuild.Decimal

/-- Only the digits of zero start with a zero. -/
theorem head?_toDigits {n : Nat} (h : 0 < n) : (Nat.toDigits 10 n).head? ≠ some '0' := by
  induction n using Nat.strongRecOn with
  | ind n ih =>
    rw [Nat.toDigits_eq_if (by decide)]
    split
    next hlt =>
      have hall : ∀ n, n < 10 → 0 < n → [Nat.digitChar n].head? ≠ some '0' := by decide
      exact hall n hlt h
    next hge =>
      have hne : Nat.toDigits 10 (n / 10) ≠ [] := Nat.toDigits_ne_nil
      obtain ⟨d, ds, hds⟩ := List.exists_cons_of_ne_nil hne
      have hd := ih (n / 10) (by omega) (by omega)
      rw [hds] at hd ⊢
      exact hd

/-- No digit follows a leading zero. -/
theorem tail_toDigits_of_zero {n : Nat} {ds : List Char} (h : Nat.toDigits 10 n = '0' :: ds) :
    ds = [] := by
  rcases Nat.eq_zero_or_pos n with rfl | hpos
  · exact (List.cons.inj h).2.symm
  · exact absurd (by rw [h]; rfl) (head?_toDigits hpos)

theorem isDigit_of_mem_toDigits {n : Nat} {c : Char} (h : c ∈ Nat.toDigits 10 n) :
    c.isDigit = true :=
  Nat.isDigit_of_mem_toDigits (by decide) (by decide) h

theorem isDigit_head_toDigits {n : Nat} {d : Char} {ds : List Char}
    (h : Nat.toDigits 10 n = d :: ds) : d.isDigit = true :=
  isDigit_of_mem_toDigits (h ▸ List.mem_cons_self)

/-- Different numbers have different texts. -/
theorem toString_injective {n m : Nat} (h : toString n = toString m) : n = m := by
  have hdigits : Nat.toDigits 10 n = Nat.toDigits 10 m := by
    rw [← Nat.toList_repr, ← Nat.toList_repr]
    exact congrArg String.toList h
  rw [← Nat.ofDigitChars_ten_toDigits (n := n), hdigits, Nat.ofDigitChars_ten_toDigits]

theorem toList_toString_ofNat (n : Nat) : (toString (Int.ofNat n)).toList = Nat.toDigits 10 n :=
  Nat.toList_repr

theorem toList_toString_negSucc (n : Nat) :
    (toString (Int.negSucc n)).toList = '-' :: Nat.toDigits 10 (n + 1) := by
  have htext : toString (Int.negSucc n) = "-" ++ (n + 1).repr := rfl
  have hminus : "-".toList = ['-'] := rfl
  rw [htext, String.toList_append, hminus, Nat.toList_repr, List.singleton_append]

/-- An integer is printed with a minus sign or a digit in front. -/
theorem exists_toList_toString (i : Int) :
    ∃ c cs, (toString i).toList = c :: cs ∧ (c = '-' ∨ c.isDigit = true) := by
  cases i with
  | negSucc n => exact ⟨'-', _, toList_toString_negSucc n, .inl rfl⟩
  | ofNat n =>
    have hne : Nat.toDigits 10 n ≠ [] := Nat.toDigits_ne_nil
    obtain ⟨d, ds, hds⟩ := List.exists_cons_of_ne_nil hne
    exact ⟨d, ds, (toList_toString_ofNat n).trans hds, .inr (isDigit_head_toDigits hds)⟩

/-- The value of an ASCII decimal digit. -/
def digitValue (c : Char) : Nat := c.toNat - '0'.toNat

/-- Why a text is not a 64-bit integer. -/
inductive NumberError where
  | invalidDigit
  | tooLarge
  | tooSmall
  deriving DecidableEq, Repr

def NumberError.message : NumberError → String
  | .invalidDigit => "invalid digit found in string"
  | .tooLarge => "number too large to fit in target type"
  | .tooSmall => "number too small to fit in target type"

/-- The greatest absolute value of a sign. -/
def magnitudeLimit (negative : Bool) : Nat := if negative then Nat.pow 2 63 else Nat.pow 2 63 - 1

/-- The absolute value that the digits continue `n` to. -/
def readMagnitude (negative : Bool) : Nat → List Char → Except NumberError Nat
  | n, [] => .ok n
  | n, c :: cs =>
    if !c.isDigit then .error .invalidDigit
    else if 10 * n + digitValue c > magnitudeLimit negative then
      .error (if negative then .tooSmall else .tooLarge)
    else readMagnitude negative (10 * n + digitValue c) cs

/-- An optional sign and at least one digit. -/
def readInt64 (cs : List Char) : Except NumberError Int64 :=
  let (negative, ds) := match cs with
    | '-' :: rest => (true, rest)
    | '+' :: rest => (false, rest)
    | rest => (false, rest)
  if ds = [] then .error .invalidDigit
  else (readMagnitude negative 0 ds).map fun n => Int64.ofInt (if negative then -(n : Int) else n)

end ImageBuild.Decimal
