import ImageBuild.Json.Parser
import ImageBuild.Json.Printer
import ImageBuild.Proofs.Text.Cut

/-!
# Literals read back

Strings and integers as they are written: what a string is read as, one element
for each character, and what the digits of an integer are read as. The main
statements are `stringUnits_escape` and `number_toString`, with
`decodeString_units` and `value?_literal` for the values of the two.
-/
namespace ImageBuild.Json

/-- The control characters that a letter after a backslash stands for. -/
def shortEscaped : List Char := ['\x08', '\t', '\n', '\x0c', '\r']

/-- The element of a string that a character is written as. -/
def unit (c : Char) : StringUnit :=
  if c.toNat < 32 ∧ c ∉ shortEscaped then .code c.toNat else .char c

/-- The elements that a text is written as. -/
def units (s : String) : List StringUnit := s.toList.map unit

theorem hexValue?_hexDigit {n : Nat} (h : n < 16) : hexValue? (hexDigit n) = some n := by
  have hall : ∀ n, n < 16 → hexValue? (hexDigit n) = some n := by decide
  exact hall n h

/-- A character that needs no escape. -/
theorem stringUnits_plain {c : Char} (hquote : c ≠ '"') (hslash : c ≠ '\\') (h : ¬ c.toNat < 32)
    (rest : List Char) :
    stringUnits (c :: rest) = (stringUnits rest).map fun r => (.char c :: r.1, r.2) := by
  rw [stringUnits.eq_def]
  split
  next heq => cases heq
  next heq => exact absurd (List.cons.inj heq).1 hquote
  next heq => exact absurd (List.cons.inj heq).1 hslash
  next heq => exact absurd (List.cons.inj heq).1 hslash
  next heq =>
    obtain ⟨rfl, rfl⟩ := List.cons.inj heq
    rw [if_neg h]

theorem stringUnits_escapeChar (c : Char) (rest : List Char) :
    stringUnits (escapeChar c ++ rest) =
      (stringUnits rest).map fun r => (unit c :: r.1, r.2) := by
  by_cases hquote : c = '"' ∨ c = '\\' ∨ c ∈ shortEscaped
  · simp only [shortEscaped, List.mem_cons, List.not_mem_nil, or_false] at hquote
    rcases hquote with rfl | rfl | rfl | rfl | rfl | rfl | rfl <;>
      simp [escapeChar, stringUnits, shortEscape?, unit, shortEscaped]
  · obtain ⟨hq, hb, hshort⟩ := by simpa only [not_or] using hquote
    have hplain : escapeChar c = if c.toNat < 32
        then ['\\', 'u', '0', '0', hexDigit (c.toNat / 16), hexDigit (c.toNat % 16)] else [c] := by
      simp only [shortEscaped, List.mem_cons, List.not_mem_nil, or_false, not_or] at hshort
      simp only [escapeChar, hq, hb, hshort, if_false]
    rw [hplain]
    by_cases hcontrol : c.toNat < 32
    · have hhigh := hexValue?_hexDigit (show c.toNat / 16 < 16 by omega)
      have hlow := hexValue?_hexDigit (show c.toNat % 16 < 16 by omega)
      have hzero : hexValue? '0' = some 0 := by decide
      have hsum : c.toNat / 16 * 16 + c.toNat % 16 = c.toNat := by omega
      simp [hcontrol, stringUnits, hzero, hhigh, hlow, hsum, unit, hshort]
    · rw [if_neg hcontrol, List.singleton_append, stringUnits_plain hq hb hcontrol, unit,
        if_neg fun h => hcontrol h.1]

/-- A string is read up to its closing quotation mark. -/
theorem stringUnits_escape (cs rest : List Char) :
    stringUnits (escape cs ++ '"' :: rest) = some (cs.map unit, rest) := by
  induction cs with
  | nil => simp [escape, stringUnits]
  | cons c cs ih =>
    have hcons : escape (c :: cs) = escapeChar c ++ escape cs := rfl
    rw [hcons, List.append_assoc, stringUnits_escapeChar, ih]
    rfl

theorem decodeUnits_unit (c : Char) (us : List StringUnit) :
    decodeUnits (unit c :: us) = (decodeUnits us).map (c :: ·) := by
  unfold unit
  split
  next h =>
    have hlow : ¬ 0xDC00 ≤ c.toNat := by omega
    have hhigh : ¬ 0xD800 ≤ c.toNat := by omega
    rw [decodeUnits.eq_def]
    simp [hlow, hhigh]
  next => rw [decodeUnits]

theorem decodeString_units (s : String) : decodeString (units s) = some s := by
  have hchars : ∀ cs : List Char, decodeUnits (cs.map unit) = some cs := by
    intro cs
    induction cs with
    | nil => rfl
    | cons c cs ih => rw [List.map_cons, decodeUnits_unit, ih, Option.map_some]
  rw [decodeString, units, hchars, Option.map_some, String.ofList_toList]

/-- What may follow a value: the end, or what separates and closes. -/
def Ends (rest : List Char) : Prop :=
  ∀ c, rest.head? = some c → c = ',' ∨ c = ']' ∨ c = '\x7d'

theorem ends_nil : Ends [] := by
  intro c h
  cases h

theorem ends_cons {c : Char} (rest : List Char) (h : c = ',' ∨ c = ']' ∨ c = '\x7d') :
    Ends (c :: rest) := by
  intro d hd
  exact Option.some.inj hd ▸ h

/-- The literal that an integer is written as. -/
def literal (i : Int) : NumberLiteral := ⟨i < 0, Nat.toDigits 10 i.natAbs, none, none⟩

theorem spanDigits_digits (n : Nat) {rest : List Char} (h : Ends rest) :
    spanDigits (Nat.toDigits 10 n ++ rest) = (Nat.toDigits 10 n, rest) := by
  have hdigits : ∀ c ∈ Nat.toDigits 10 n, c.isDigit = true := fun c hc =>
    Decimal.isDigit_of_mem_toDigits hc
  have hrest : ∀ c ∈ rest.head?, c.isDigit = false := by
    intro c hc
    rcases h c hc with rfl | rfl | rfl <;> decide
  rw [spanDigits, Text.takeWhile_append_of_head? hdigits hrest,
    Text.dropWhile_append_of_head? hdigits hrest]

theorem fractionPart_of_ends {rest : List Char} (h : Ends rest) :
    fractionPart rest = some (none, rest) := by
  unfold fractionPart
  split
  next rest => exact absurd (h '.' rfl) (by decide)
  next => rfl

theorem exponentPart_of_ends {rest : List Char} (h : Ends rest) :
    exponentPart rest = some (none, rest) := by
  cases rest with
  | nil => rfl
  | cons c rest =>
    have hc : ¬ (c = 'e' ∨ c = 'E') := by
      rcases h c rfl with rfl | rfl | rfl <;> decide
    simp [exponentPart, hc]

/-- An integer is read up to what follows its last digit. -/
theorem number_toString (i : Int) {rest : List Char} (h : Ends rest) :
    number ((toString i).toList ++ rest) = some (literal i, rest) := by
  have hfraction := fractionPart_of_ends h
  have hexponent := exponentPart_of_ends h
  have hspan := spanDigits_digits i.natAbs h
  obtain ⟨d, ds, hds⟩ := List.exists_cons_of_ne_nil (Nat.toDigits_ne_nil (n := i.natAbs) (b := 10))
  rw [hds, List.cons_append] at hspan
  have hzero : d = '0' → ds = [] := fun hd => Decimal.tail_toDigits_of_zero (hd ▸ hds)
  cases i with
  | ofNat n =>
    have hdigits : Nat.toDigits 10 n = d :: ds := hds
    have hminus : d ≠ '-' := by
      rintro rfl
      exact absurd (Decimal.isDigit_head_toDigits hdigits) (by decide)
    rw [Decimal.toList_toString_ofNat]
    simpa [number, literal, hdigits, hminus, hspan, hfraction, hexponent] using hzero
  | negSucc n =>
    have hdigits : Nat.toDigits 10 (n + 1) = d :: ds := hds
    rw [Decimal.toList_toString_negSucc]
    simpa [number, literal, hdigits, hspan, hfraction, hexponent, Int.negSucc_lt_zero] using hzero

theorem value?_literal {i : Int} (hmin : intMin ≤ i) (hmax : i ≤ intMax) :
    (literal i).value? = some (.int i) := by
  simp only [NumberLiteral.value?, literal, Nat.ofDigitChars_ten_toDigits]
  by_cases hneg : i < 0
  · have habs : -(i.natAbs : Int) = i := by omega
    have hne : i.natAbs ≠ 0 := by omega
    rw [if_pos (decide_eq_true hneg), if_neg hne, habs, if_pos hmin]
  · have habs : (i.natAbs : Int) = i := by omega
    rw [if_neg (by simpa using hneg), habs, if_pos hmax]

end ImageBuild.Json
