import ImageBuild.Proofs.Codec.Records
import ImageBuild.Proofs.Decimal.Canonical
import ImageBuild.Proofs.Except

/-!
# Which texts are versions

`IsFullText` is the grammar of full versions and `IsShortText` that of versions
without a patch number. The texts with one of these forms are the ones that are
printed for a version, and each is read as that version alone; a text with one
dot is never read as anything but a short one. The main statement is
`parseText_accepts`.
-/
namespace ImageBuild.Version

open Decimal (IsNumeral)

variable {z : Bool} {part : VersionPart} {mark : Char} {cs ds rest : List Char} {v w : Version}

/-- Digits of a 64-bit number, without a zero in front of others. -/
structure IsNumber (ds : List Char) : Prop where
  numeral : IsNumeral ds
  canonical : ds.head? = some '0' → ds = ['0']
  inRange : Nat.ofDigitChars 10 ds 0 < UInt64.size

/-- ASCII letters, digits and hyphens. Only where leading zeros are allowed may there be a zero in
front of nothing but digits. -/
structure IsIdentifier (leadingZeros : Bool) (cs : List Char) : Prop where
  ne_nil : cs ≠ []
  chars : ∀ c ∈ cs, c.isAlphanum = true ∨ c = '-'
  canonical : leadingZeros = false → IsNumeral cs → cs.head? = some '0' → cs = ['0']

/-- Identifiers with dots between them after a mark, or nothing. -/
inductive IsLabel (mark : Char) (leadingZeros : Bool) : List Char → Prop
  | absent : IsLabel mark leadingZeros []
  | present {ids : List (List Char)} (hne : ids ≠ [])
      (hids : ∀ id ∈ ids, IsIdentifier leadingZeros id) :
      IsLabel mark leadingZeros (mark :: ['.'].intercalate ids)

/-- The form `major.minor`. -/
inductive IsShortText : List Char → Prop
  | intro {major minor : List Char} (hmajor : IsNumber major) (hminor : IsNumber minor) :
      IsShortText (major ++ '.' :: minor)

/-- The form `major.minor.patch-pre+build`, in which the last two parts may be absent. -/
inductive IsFullText : List Char → Prop
  | intro {major minor patch pre build : List Char} (hmajor : IsNumber major)
      (hminor : IsNumber minor) (hpatch : IsNumber patch) (hpre : IsLabel '-' false pre)
      (hbuild : IsLabel '+' true build) :
      IsFullText (major ++ '.' :: (minor ++ '.' :: (patch ++ (pre ++ build))))

theorem hasLeadingZero_eq_false_iff (h : cs ≠ []) :
    hasLeadingZero cs = false ↔ (IsNumeral cs → cs.head? = some '0' → cs = ['0']) := by
  obtain ⟨c, more, rfl⟩ := List.exists_cons_of_ne_nil h
  by_cases hdigits : ∀ d ∈ c :: more, d.isDigit = true
  · have hnumeral : IsNumeral (c :: more) := ⟨h, hdigits⟩
    have hall : (c :: more).all Char.isDigit = true := List.all_eq_true.2 hdigits
    simp only [hasLeadingZero, hall, hnumeral, true_imp_iff, Bool.true_and]
    cases more <;> simp
  · have hall : (c :: more).all Char.isDigit = false := by
      rw [← Bool.not_eq_true, List.all_eq_true]
      exact hdigits
    have hnumeral : ¬ IsNumeral (c :: more) := fun h => hdigits h.digits
    simp only [hasLeadingZero, hall, hnumeral, false_imp_iff, Bool.false_and]

theorem isNumber_digits (n : UInt64) : IsNumber (Nat.toDigits 10 n.toNat) where
  numeral := Decimal.isNumeral_toDigits n.toNat
  canonical h := by
    obtain ⟨more, hmore⟩ := List.head?_eq_some_iff.1 h
    rw [hmore, Decimal.tail_toDigits_of_zero hmore]
  inRange := by
    rw [Nat.ofDigitChars_ten_toDigits]
    exact n.toNat_lt_size

theorem isNumber_iff : IsNumber ds ↔ ∃ n : UInt64, ds = Nat.toDigits 10 n.toNat := by
  constructor
  · intro h
    refine ⟨UInt64.ofNatLT (Nat.ofDigitChars 10 ds 0) h.inRange, ?_⟩
    rw [UInt64.toNat_ofNatLT, Decimal.toDigits_ofDigitChars h.numeral h.canonical]
  · rintro ⟨n, rfl⟩
    exact isNumber_digits n

theorem isIdentifier_iff : IsIdentifier z cs ↔ isSegment z cs = true := by
  have hchar : ∀ c, isSegmentChar c = true ↔ c.isAlphanum = true ∨ c = '-' := by
    simp [isSegmentChar]
  have hzero (hne : cs ≠ []) : (!z && hasLeadingZero cs) = false ↔
      (z = false → IsNumeral cs → cs.head? = some '0' → cs = ['0']) := by
    rw [← hasLeadingZero_eq_false_iff hne]
    cases z <;> simp
  simp only [isSegment_iff, hchar]
  constructor
  · intro h
    exact ⟨h.ne_nil, h.chars, (hzero h.ne_nil).2 h.canonical⟩
  · rintro ⟨hne, hchars, hcanonical⟩
    exact ⟨hne, hchars, (hzero hne).1 hcanonical⟩

theorem isLabel_iff : IsLabel mark z cs ↔ ∃ s : Segments z, cs = suffix mark s := by
  constructor
  · rintro (_ | ⟨hne, hids⟩)
    · exact ⟨.none, rfl⟩
    · refine ⟨⟨_, List.all_eq_true.2 fun id hid => isIdentifier_iff.1 (hids id hid)⟩, ?_⟩
      rw [suffix, if_neg hne, Segments.chars]
  · rintro ⟨s, rfl⟩
    rw [suffix]
    split
    next => exact .absent
    next hne =>
      have hvalid := List.all_eq_true.1 s.valid
      exact .present hne fun id hid => isIdentifier_iff.2 (hvalid id hid)

theorem isFullText_iff : IsFullText cs ↔ ∃ v : Version, cs = v.chars := by
  constructor
  · rintro ⟨hmajor, hminor, hpatch, hpre, hbuild⟩
    obtain ⟨major, rfl⟩ := isNumber_iff.1 hmajor
    obtain ⟨minor, rfl⟩ := isNumber_iff.1 hminor
    obtain ⟨patch, rfl⟩ := isNumber_iff.1 hpatch
    obtain ⟨pre, rfl⟩ := isLabel_iff.1 hpre
    obtain ⟨build, rfl⟩ := isLabel_iff.1 hbuild
    exact ⟨⟨major, minor, patch, pre, build⟩, rfl⟩
  · rintro ⟨v, rfl⟩
    exact .intro (isNumber_digits v.major) (isNumber_digits v.minor) (isNumber_digits v.patch)
      (isLabel_iff.2 ⟨v.pre, rfl⟩) (isLabel_iff.2 ⟨v.build, rfl⟩)

theorem isShortText_iff : IsShortText cs ↔ ∃ v : Version, v.isShort = true ∧ cs = v.shortChars := by
  constructor
  · rintro ⟨hmajor, hminor⟩
    obtain ⟨major, rfl⟩ := isNumber_iff.1 hmajor
    obtain ⟨minor, rfl⟩ := isNumber_iff.1 hminor
    exact ⟨release major minor 0, rfl, rfl⟩
  · rintro ⟨v, hshort, rfl⟩
    rw [shortChars, if_pos hshort]
    exact .intro (isNumber_digits v.major) (isNumber_digits v.minor)

theorem eq_of_number {n : UInt64} (h : number part cs = .ok (n, rest)) :
    cs = Nat.toDigits 10 n.toNat ++ rest := by
  have hdigits : ∀ c ∈ cs.takeWhile Char.isDigit, c.isDigit = true := fun c hc =>
    List.mem_takeWhile_imp hc
  unfold number at h
  simp only at h
  split at h
  next => split at h <;> cases h
  next hne =>
    split at h
    next => cases h
    next hzero =>
      have hnumeral : IsNumeral (cs.takeWhile Char.isDigit) := ⟨hne, hdigits⟩
      have hcanonical := (hasLeadingZero_eq_false_iff hne).1 (by simpa using hzero) hnumeral
      split at h
      next =>
        cases h
        rw [UInt64.toNat_ofNatLT, Decimal.toDigits_ofDigitChars hnumeral hcanonical,
          List.takeWhile_append_dropWhile]
      next => cases h

theorem eq_of_dot (h : dot part cs = .ok rest) : cs = '.' :: rest := by
  unfold dot at h
  split at h <;> cases h
  rfl

theorem chars_cons {segment : List Char} {more : Segments z} (hne : more.list ≠ [])
    (h : (segment :: more.list).all (isSegment z) = true) :
    (⟨segment :: more.list, h⟩ : Segments z).chars = segment ++ '.' :: more.chars := by
  obtain ⟨next, others, hlist⟩ := List.exists_cons_of_ne_nil hne
  have hlists : ['.'].intercalate (segment :: more.list) = segment ++ '.' :: more.chars := by
    rw [Segments.chars, hlist, List.intercalate_cons_cons, List.append_assoc, List.singleton_append]
  exact hlists

/-- At least one segment is read, and the segments that are read precede the rest. -/
theorem eq_of_segments {s : Segments z} (h : segments z cs = .ok (s, rest)) :
    s.list ≠ [] ∧ cs = s.chars ++ rest := by
  fun_induction segments z cs generalizing s rest
  case case1 | case2 | case4 => cases h
  case case3 hafter _ more _ hread ih =>
    cases h
    obtain ⟨hne, hmore⟩ := ih hread
    refine ⟨List.cons_ne_nil _ _, ?_⟩
    rw [chars_cons hne, List.append_assoc, List.cons_append, ← hmore, ← hafter,
      List.takeWhile_append_dropWhile]
  case case5 =>
    cases h
    refine ⟨List.cons_ne_nil _ _, ?_⟩
    rw [Segments.chars, List.intercalate_singleton, List.takeWhile_append_dropWhile]

theorem eq_of_marked {s : Segments z} {next : VersionPart}
    (h : marked mark z part cs = .ok (s, next, rest)) : cs = suffix mark s ++ rest := by
  cases cs with
  | nil =>
    cases h
    rfl
  | cons c cs =>
    rw [marked] at h
    split at h
    next hc =>
      cases hread : segments z cs with
      | error e =>
        rw [hread] at h
        cases h
      | ok r =>
        obtain ⟨hne, hcs⟩ := eq_of_segments hread
        rw [hread] at h
        cases h
        rw [suffix, if_neg hne, List.cons_append, ← hcs, hc]
    next =>
      cases h
      rfl

/-- The full texts are those that are printed. -/
theorem parse_eq_ok_iff : parse cs = .ok v ↔ cs = v.chars := by
  constructor
  · intro h
    unfold parse at h
    split at h
    next => cases h
    next =>
      simp only [bind_eq_ok_iff, Prod.exists] at h
      obtain ⟨major, cs₁, hmajor, cs₂, hdot₁, minor, cs₃, hminor, cs₄, hdot₂, patch, cs₅, hpatch,
        pre, _, cs₆, hpre, build, _, cs₇, hbuild, h⟩ := h
      split at h
      next =>
        cases h
        rw [eq_of_number hmajor, eq_of_dot hdot₁, eq_of_number hminor, eq_of_dot hdot₂,
          eq_of_number hpatch, eq_of_marked hpre, eq_of_marked hbuild, List.append_nil, chars]
      next => cases h
  · rintro rfl
    exact parse_chars v

/-- Cuts at the last dot agree. -/
theorem eq_of_last_dot {front front' back back' : List Char} (hback : '.' ∉ back)
    (hback' : '.' ∉ back') (h : front ++ '.' :: back = front' ++ '.' :: back') :
    front = front' ∧ back = back' := by
  -- Read from its end, a text is cut at its first dot.
  have hreverse :
      back.reverse ++ '.' :: front.reverse = back'.reverse ++ '.' :: front'.reverse := by
    simpa using congrArg List.reverse h
  have hcut := congrArg (Text.cutFirst '.') hreverse
  rw [Text.cutFirst_append (by simpa using hback),
    Text.cutFirst_append (by simpa using hback')] at hcut
  obtain ⟨hbacks, hfronts⟩ := Prod.mk.inj hcut
  exact ⟨List.reverse_inj.1 (Option.some.inj hfronts), List.reverse_inj.1 hbacks⟩

theorem suffix_eq_nil_iff {s : Segments z} : suffix mark s = [] ↔ s.list = [] := by
  rw [suffix]
  split
  next h => simp [h]
  next h => simp [h]

/-- A patch number that is added to a text with one dot is all that follows the minor number. -/
theorem eq_shortChars_of_completed (hdot : cs.count '.' = 1) (h : cs ++ ['.', '0'] = v.chars) :
    cs = v.shortChars := by
  have htail :
      (Nat.toDigits 10 v.patch.toNat ++ (suffix '-' v.pre ++ suffix '+' v.build)).count '.' =
        0 := by
    have hadded : ['.', '0'].count '.' = 1 := by decide
    have hcount := congrArg (List.count '.') h
    simp only [chars, List.count_append, List.count_cons_self, count_dot_digits, hdot,
      hadded] at hcount ⊢
    omega
  have hcut : cs ++ '.' :: ['0'] =
      (Nat.toDigits 10 v.major.toNat ++ '.' :: Nat.toDigits 10 v.minor.toNat) ++
        '.' :: (Nat.toDigits 10 v.patch.toNat ++ (suffix '-' v.pre ++ suffix '+' v.build)) := by
    rw [h, chars, List.append_assoc, List.cons_append]
  obtain ⟨hfront, hback⟩ := eq_of_last_dot (by decide) (List.count_eq_zero.1 htail) hcut
  obtain ⟨hpatch, hnone⟩ : Nat.toDigits 10 v.patch.toNat = ['0'] ∧
      suffix '-' v.pre ++ suffix '+' v.build = [] := by
    rcases List.append_eq_singleton_iff.1 hback.symm with ⟨hnil, -⟩ | hsplit
    · exact absurd hnil Nat.toDigits_ne_nil
    · exact hsplit
  obtain ⟨hpre, hbuild⟩ := List.append_eq_nil_iff.1 hnone
  have hshort : v.isShort = true := by
    have hzero : v.patch.toNat = 0 := by
      rw [← Nat.ofDigitChars_ten_toDigits (n := v.patch.toNat), hpatch]
      rfl
    have hpatch : v.patch = 0 := UInt64.toNat_inj.1 hzero
    simp [isShort, hpatch, suffix_eq_nil_iff.1 hpre, suffix_eq_nil_iff.1 hbuild]
  rw [shortChars, if_pos hshort, hfront]

theorem eq_chars_of_not_isShort (h : ¬ v.isShort = true) : v.shortChars = v.chars := by
  rw [shortChars, if_neg h]

/-- A version is read from its full text and from the text that is printed for it. -/
theorem parseText_eq_ok_iff {s : String} :
    parseText s = .ok v ↔ Text.trim s.toList = v.shortChars ∨ Text.trim s.toList = v.chars := by
  rw [parseText, parse_eq_ok_iff]
  generalize Text.trim s.toList = cs
  constructor
  · intro h
    split at h
    next hdot => exact .inl (eq_shortChars_of_completed hdot h)
    next => exact .inr h
  · rintro (rfl | rfl)
    · exact completed_shortChars v
    · rw [if_neg (Nat.ne_of_gt (one_lt_count_dot v))]

theorem exists_parseText_eq_ok_iff {s : String} :
    (∃ v, parseText s = .ok v) ↔
      IsShortText (Text.trim s.toList) ∨ IsFullText (Text.trim s.toList) := by
  simp only [parseText_eq_ok_iff, isShortText_iff, isFullText_iff]
  constructor
  · rintro ⟨v, h | h⟩
    · by_cases hshort : v.isShort = true
      · exact .inl ⟨v, hshort, h⟩
      · exact .inr ⟨v, by rw [h, eq_chars_of_not_isShort hshort]⟩
    · exact .inr ⟨v, h⟩
  · rintro (⟨v, -, h⟩ | ⟨v, h⟩)
    · exact ⟨v, .inl h⟩
    · exact ⟨v, .inr h⟩

theorem text_injective (h : v.text = w.text) : v = w := by
  have hread := parseText_text v
  rw [h, parseText_text w] at hread
  exact (Except.ok.inj hread).symm

/-- A text is accepted if it is a short or a full one, and with a single dot only if it is a
short one. What is printed for a version is read as the version, also where the version limits
a configuration, and accepted texts are printed alike if they are read as the same version. -/
theorem parseText_accepts :
    (∀ s : String, (∃ v, parseText s = .ok v) ↔
      IsShortText (Text.trim s.toList) ∨ IsFullText (Text.trim s.toList)) ∧
    (∀ s : String, (Text.trim s.toList).count '.' = 1 →
      ((∃ v, parseText s = .ok v) ↔ IsShortText (Text.trim s.toList))) ∧
    (∀ v : Version, parseText v.text = .ok v ∧ Version.codec.ReadsBack v ∧
      ∀ c : PlanConfig, PlanConfig.codec.ReadsBack { c with maxPlatformApi := some v }) ∧
    ∀ (s t : String) (v w : Version), parseText s = .ok v → parseText t = .ok w →
      (v.text = w.text ↔ v = w) := by
  refine ⟨fun s => exists_parseText_eq_ok_iff, fun s hdot => ?_,
    fun v => ⟨parseText_text v, Codec.Keeps.readsBack v.codec_keeps, fun c => ?_⟩,
    fun _ _ v w _ _ => ⟨text_injective, congrArg text⟩⟩
  · rw [exists_parseText_eq_ok_iff]
    constructor
    · rintro (h | h)
      · exact h
      · obtain ⟨v, hv⟩ := isFullText_iff.1 h
        have hdots := one_lt_count_dot v
        rw [← hv, hdot] at hdots
        exact absurd hdots (Nat.lt_irrefl 1)
    · exact .inl
  · exact Codec.Keeps.readsBack (PlanConfig.codec_keeps { c with maxPlatformApi := some v })

/-- A dot elsewhere does not stand for the one of a short text. -/
example : parseText "1-2.3" = .error (.unexpectedCharAfter .major '-') := by decide

theorem paddedShortText_accepted :
    (Text.trim " 0.7\n".toList).count '.' = 1 ∧ IsShortText (Text.trim " 0.7\n".toList) ∧
      parseText " 0.7\n" = .ok (release 0 7 0) ∧ parseText "0.7.1" = .ok (release 0 7 1) ∧
      (release 0 7 0).text ≠ (release 0 7 1).text := by
  have hdot : (Text.trim " 0.7\n".toList).count '.' = 1 := by decide
  have hshort : parseText " 0.7\n" = .ok (release 0 7 0) := by decide
  have hfull : parseText "0.7.1" = .ok (release 0 7 1) := by decide
  have hdiffer : release 0 7 0 ≠ release 0 7 1 := by decide
  obtain ⟨-, hone, -, hprinted⟩ := parseText_accepts
  exact ⟨hdot, (hone _ hdot).1 ⟨_, hshort⟩, hshort, hfull,
    fun h => hdiffer ((hprinted _ _ _ _ hshort hfull).1 h)⟩

end ImageBuild.Version
