import TagSelect.Json.Grammar
import TagSelect.Json.Skip

/-!
# Reading and passing over scalars

What the readers do on the texts of the grammar, whatever comes after them. A text is read as the
string that it spells (`textBody_spells`), and a scalar that nobody asks for is passed over up to
its last character (`skipScalar_number`, `skipText_isText`).

Only a number does not show its own end : it is passed over as a whole if what follows could not
belong to it (`NumberEnds`).
-/

namespace TagSelect.Json

open Text

/-! ## White space -/

theorem IsSpace.isGap {cs : List Char} (h : IsSpace cs) : ∀ c ∈ cs, isGap c = true := by
  intro c hc
  rcases h c hc with rfl | rfl | rfl | rfl <;> rfl

theorem IsSpace.nil : IsSpace [] := by
  intro c hc
  cases hc

@[simp]
theorem skipGap_append {gap : List Char} (h : IsSpace gap) (cs : List Char) :
    skipGap (gap ++ cs) = skipGap cs :=
  List.dropWhile_append_of_pos h.isGap

@[simp]
theorem skipGap_cons {c : Char} (h : isGap c = false) (cs : List Char) :
    skipGap (c :: cs) = c :: cs := by
  simp [skipGap, h]

/-! ## Texts -/

theorem hexValue?_of_mem : ∀ p ∈ hexDigits, hexValue? p.1 = some p.2 := by
  decide

theorem letterEscape?_of_mem :
    ∀ p ∈ shortEscapes, p.1 ≠ 'u' ∧ letterEscape? p.1 = some p.2 := by
  decide

theorem IsUnit.length_eq {cs : List Char} {n : Nat} (h : IsUnit cs n) : cs.length = 4 := by
  cases h
  rfl

theorem fourHex_append {cs : List Char} {n : Nat} (h : IsUnit cs n) (rest : List Char) :
    fourHex (cs ++ rest) = .ok n := by
  obtain @⟨a, b, c, d, w, x, y, z, ha, hb, hc, hd⟩ := h
  have hbytes : 4 ≤ a.utf8Size + (b.utf8Size + (c.utf8Size + d.utf8Size)) := by
    have := a.utf8Size_pos
    have := b.utf8Size_pos
    have := c.utf8Size_pos
    have := d.utf8Size_pos
    omega
  have hvalue : ((w * 16 + x) * 16 + y) * 16 + z = 4096 * w + 256 * x + 16 * y + z := by omega
  simp [fourHex, hbytes, hexValue?_of_mem _ ha, hexValue?_of_mem _ hb, hexValue?_of_mem _ hc,
    hexValue?_of_mem _ hd, hvalue]

/-- A character is no half of a pair. -/
theorem toNat_not_surrogate (c : Char) : c.toNat < 0xD800 ∨ 0xDFFF < c.toNat := by
  rcases c.valid with h | ⟨h, -⟩
  · exact .inl h
  · exact .inr h

theorem escape_short {e c : Char} (h : (e, c) ∈ shortEscapes) (rest : List Char) :
    escape (e :: rest) = .ok (c, 1) := by
  obtain ⟨hu, he⟩ : e ≠ 'u' ∧ letterEscape? e = some c := letterEscape?_of_mem _ h
  simp [escape, he]

theorem escape_unit {cs : List Char} {c : Char} (h : IsUnit cs c.toNat) (rest : List Char) :
    escape ('u' :: (cs ++ rest)) = .ok (c, 5) := by
  have hsurrogate := toNat_not_surrogate c
  have hlow : ¬(0xDC00 ≤ c.toNat ∧ c.toNat ≤ 0xDFFF) := by omega
  have hhigh : ¬(0xD800 ≤ c.toNat ∧ c.toNat ≤ 0xDBFF) := by omega
  simp only [escape, fourHex_append h, if_neg hlow, if_neg hhigh, Char.ofNat_toNat]

theorem escape_pair {cs ds : List Char} {high low : Nat} {c : Char} (hcs : IsUnit cs high)
    (hds : IsUnit ds low) (hhigh : 0xD800 ≤ high ∧ high ≤ 0xDBFF)
    (hlow : 0xDC00 ≤ low ∧ low ≤ 0xDFFF)
    (hc : c.toNat = 0x10000 + 0x400 * (high - 0xD800) + (low - 0xDC00)) (rest : List Char) :
    escape ('u' :: (cs ++ '\\' :: 'u' :: (ds ++ rest))) = .ok (c, 11) := by
  have hnotLow : ¬(0xDC00 ≤ high ∧ high ≤ 0xDFFF) := by omega
  have hvalue : (high - 0xD800) * 0x400 + (low - 0xDC00) + 0x10000 = c.toNat := by omega
  have hdrop : (cs ++ '\\' :: 'u' :: (ds ++ rest)).drop 4 = '\\' :: 'u' :: (ds ++ rest) := by
    rw [← hcs.length_eq, List.drop_left]
  simp only [escape, fourHex_append hcs, if_neg hnotLow, if_pos hhigh, hdrop, lowUnit,
    fourHex_append hds, if_pos hlow, hvalue, Char.ofNat_toNat]

theorem textChars_length_append (cs rest : List Char) :
    textChars cs.length (cs ++ rest) = textChars 0 rest := by
  induction cs with
  | nil => rfl
  | cons c cs ih => simpa [textChars] using ih

/-- An escape gives its character, in front of what the rest of the text gives. -/
theorem textChars_escape (cs : List Char) {rest rest' s : List Char} {c : Char}
    (hescape : escape (cs ++ rest) = .ok (c, cs.length))
    (hrest : textChars 0 rest = .ok (s, rest')) :
    textChars 0 ('\\' :: (cs ++ rest)) = .ok (c :: s, rest') := by
  simp [textChars, hescape, textChars_length_append, hrest]

theorem textChars_spellsChar {cs rest rest' s : List Char} {c : Char} (h : SpellsChar cs c)
    (hrest : textChars 0 rest = .ok (s, rest')) :
    textChars 0 (cs ++ rest) = .ok (c :: s, rest') := by
  cases h with
  | plain hcontrol hquote hslash => simp [textChars, hquote, hslash, Char.not_lt.2 hcontrol, hrest]
  | @short e _ h => exact textChars_escape [e] (escape_short h rest) hrest
  | @unit ds _ h =>
    refine textChars_escape ('u' :: ds) ?_ hrest
    simpa [h.length_eq] using escape_unit h rest
  | @pair ds es high low _ hds hes hhigh hlow hc =>
    refine textChars_escape ('u' :: (ds ++ '\\' :: 'u' :: es)) ?_ hrest
    simpa [hds.length_eq, hes.length_eq] using escape_pair hds hes hhigh hlow hc rest

/-- A text is read as the characters that it spells. -/
theorem textChars_spells {cs s : List Char} (h : Spells cs s) (rest : List Char) :
    textChars 0 (cs ++ '"' :: rest) = .ok (s, rest) := by
  induction h with
  | nil => simp [textChars]
  | cons hc _ ih =>
    rw [List.append_assoc]
    exact textChars_spellsChar hc ih

theorem textBody_spells {cs : List Char} {s : String} (h : Spells cs s.toList)
    (rest : List Char) : textBody (cs ++ '"' :: rest) = .ok (s, rest) := by
  simp [textBody, textChars_spells h]

/-! ## Texts that nobody asks for -/

theorem skipText_length_append (cs rest : List Char) :
    skipText cs.length (cs ++ rest) = (skipText 0 rest).map (· + cs.length) := by
  induction cs with
  | nil => cases h : skipText 0 rest <;> simp [h, Except.map]
  | cons c cs ih =>
    simp only [List.cons_append, List.length_cons, skipText, ih]
    cases skipText 0 rest <;> simp [Except.map, Nat.add_assoc]

/-- A text is passed over with its closing mark. -/
theorem skipText_isText {cs : List Char} (h : IsText cs) (rest : List Char) :
    skipText 0 (cs ++ '"' :: rest) = .ok (cs.length + 1) := by
  induction h with
  | nil => simp [skipText]
  | plain hcontrol hquote hslash _ ih =>
    simp [skipText, hquote, hslash, Char.not_lt.2 hcontrol, ih, Except.map]
  | @short e c cs h _ ih =>
    obtain ⟨hu, he⟩ : e ≠ 'u' ∧ letterEscape? e = some c := letterEscape?_of_mem _ h
    simp [skipText, he, ih, Except.map]
  | @unit ds cs n h _ ih =>
    have hskip := skipText_length_append ds (cs ++ '"' :: rest)
    rw [h.length_eq, ih] at hskip
    simp [skipText, fourHex_append h, hskip, h.length_eq, Except.map]
    omega

/-! ## Numbers that nobody asks for -/

/-- What follows does not go on with a number. -/
def NumberEnds (rest : List Char) : Prop :=
  ∀ c ∈ rest.head?, c.isDigit = false ∧ c ≠ '.' ∧ c ≠ 'e' ∧ c ≠ 'E'

theorem digits_append {ds rest : List Char} (hds : ∀ c ∈ ds, c.isDigit = true)
    (hrest : ∀ c ∈ rest.head?, c.isDigit = false) : digits (ds ++ rest) = (ds, rest) := by
  have hstop : rest.takeWhile Char.isDigit = [] ∧ rest.dropWhile Char.isDigit = rest := by
    cases rest with
    | nil => simp
    | cons c cs => simp [hrest c rfl]
  rw [digits, List.takeWhile_append_of_pos hds, List.dropWhile_append_of_pos hds, hstop.1,
    hstop.2, List.append_nil]

theorem skipExponent_append {sign ds rest : List Char}
    (hsign : sign = [] ∨ sign = ['+'] ∨ sign = ['-']) (hds : IsDigits ds)
    (hrest : NumberEnds rest) :
    skipExponent (sign ++ (ds ++ rest)) = .ok (sign.length + ds.length) := by
  have hdigits : digits (ds ++ rest) = (ds, rest) :=
    digits_append hds.2 fun c hc => (hrest c hc).1
  obtain ⟨d, ds', rfl⟩ := List.exists_cons_of_ne_nil hds.1
  rw [List.cons_append] at hdigits
  rcases hsign with rfl | rfl | rfl
  · have hd : d.isDigit = true := hds.2 d (List.mem_cons_self ..)
    have hplus : d ≠ '+' := by rintro rfl; cases hd
    have hminus : d ≠ '-' := by rintro rfl; cases hd
    simp [skipExponent, hplus, hminus, hdigits]
  · simp [skipExponent, hdigits]
  · simp [skipExponent, hdigits]

/-- Neither a fraction nor an exponent begins with a digit. -/
theorem isDigit_head?_tail {fraction exponent rest : List Char} (hf : IsFraction fraction)
    (he : IsExponent exponent) (hrest : NumberEnds rest) :
    ∀ c ∈ (fraction ++ (exponent ++ rest)).head?, c.isDigit = false := by
  intro c hc
  cases hf with
  | some _ =>
    cases hc
    rfl
  | none =>
    cases he with
    | none => exact (hrest c hc).1
    | some hletter _ _ =>
      cases hc
      rcases hletter with rfl | rfl <;> rfl

theorem skipFraction_append {fraction exponent rest : List Char} (hf : IsFraction fraction)
    (he : IsExponent exponent) (hrest : NumberEnds rest) :
    skipFraction (fraction ++ (exponent ++ rest)) = .ok (fraction.length + exponent.length) := by
  cases hf with
  | none =>
    cases he with
    | none =>
      cases rest with
      | nil => rfl
      | cons c cs =>
        obtain ⟨-, hpoint, hsmall, hgreat⟩ := hrest c rfl
        simp [skipFraction, hpoint, hsmall, hgreat]
    | some hletter hsign hds =>
      have hskip := skipExponent_append hsign hds hrest
      rcases hletter with rfl | rfl <;> simp [skipFraction, hskip, Except.map]
  | @some fs hfs =>
    have hdigits : digits (fs ++ (exponent ++ rest)) = (fs, exponent ++ rest) :=
      digits_append hfs.2 (isDigit_head?_tail .none he hrest)
    obtain ⟨d, fs', rfl⟩ := List.exists_cons_of_ne_nil hfs.1
    cases he with
    | none =>
      cases rest with
      | nil => simp_all [skipFraction]
      | cons c cs =>
        obtain ⟨-, -, hsmall, hgreat⟩ := hrest c rfl
        simp_all [skipFraction]
    | some hletter hsign hds =>
      have hskip := skipExponent_append hsign hds hrest
      rcases hletter with rfl | rfl
      · simp_all [skipFraction, Except.map]
        omega
      · simp_all [skipFraction, Except.map]
        omega

theorem skipNumber_append {whole fraction exponent rest : List Char} (hwhole : IsDigits whole)
    (hzero : whole.head? = some '0' → whole = ['0']) (hf : IsFraction fraction)
    (he : IsExponent exponent) (hrest : NumberEnds rest) :
    skipNumber (whole ++ (fraction ++ (exponent ++ rest))) =
      .ok (whole.length + (fraction.length + exponent.length)) := by
  have hdigits : digits (whole ++ (fraction ++ (exponent ++ rest))) =
      (whole, fraction ++ (exponent ++ rest)) :=
    digits_append hwhole.2 (isDigit_head?_tail hf he hrest)
  have hskip := skipFraction_append hf he hrest
  obtain ⟨d, ds, rfl⟩ := List.exists_cons_of_ne_nil hwhole.1
  have hlead : d = '0' → ds = [] := by
    rintro rfl
    simpa using hzero rfl
  unfold skipNumber
  rw [hdigits]
  split
  · simp_all
  · simp_all
  · simp_all [Except.map]
    omega

/-- A number is passed over up to its last character. -/
theorem skipScalar_number {cs : List Char} (h : IsNumber cs) :
    ∃ c ds, cs = c :: ds ∧ (c = '-' ∨ c.isDigit = true) ∧
      ∀ rest, NumberEnds rest → skipScalar c (ds ++ rest) = .ok ds.length := by
  obtain @⟨sign, whole, fraction, exponent, hsign, hwhole, hzero, hf, he⟩ := h
  have hskip := fun (rest : List Char) (hrest : NumberEnds rest) =>
    skipNumber_append hwhole hzero hf he hrest
  rcases hsign with rfl | rfl
  · obtain ⟨d, ds, rfl⟩ := List.exists_cons_of_ne_nil hwhole.1
    have hd : d.isDigit = true := hwhole.2 d (List.mem_cons_self ..)
    refine ⟨d, ds ++ (fraction ++ exponent), rfl, .inr hd, fun rest hrest => ?_⟩
    have hother : d ≠ 'n' ∧ d ≠ 't' ∧ d ≠ 'f' ∧ d ≠ '"' ∧ d ≠ '-' := by
      refine ⟨?_, ?_, ?_, ?_, ?_⟩ <;> (rintro rfl; cases hd)
    have hnumber := hskip rest hrest
    simp only [List.cons_append] at hnumber
    simp [skipScalar, hother, hd, hnumber, Except.map]
  · refine ⟨'-', whole ++ (fraction ++ exponent), rfl, .inl rfl, fun rest hrest => ?_⟩
    simp [skipScalar, hskip rest hrest]

end TagSelect.Json
