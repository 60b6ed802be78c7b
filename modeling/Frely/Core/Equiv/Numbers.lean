import Frely.Core.Numbers
import Mathlib.Algebra.Order.Field.Rat
import Mathlib.Data.List.TakeWhile
import Mathlib.Tactic.FieldSimp
import Mathlib.Tactic.Ring

/-!
# Numbers survive their texts

The decimal digits of an integer and the text of a decimal fraction are read back as the number
they were written from (`number_toString`, `number_toFixed`).
-/

namespace Frely

/-- Where every value is a number, nothing is rounded. -/
@[simp] theorem JsNumber.rounded_some (number : JsNumber) : number.rounded some = number := by
  cases number <;> rfl

theorem isTrimmed_of_isDigit {c : Char} (h : c.isDigit = true) : isTrimmed c = false := by
  by_contra htrimmed
  rw [Bool.not_eq_false, isTrimmed, Bool.or_eq_true, decide_eq_true_eq] at htrimmed
  rcases htrimmed with hmem | hrange
  · simp only [List.mem_cons, List.not_mem_nil, or_false] at hmem
    rcases hmem with rfl | rfl | rfl | rfl | rfl | rfl | rfl | rfl | rfl | rfl | rfl | rfl | rfl |
      rfl <;> exact absurd h (by decide)
  · rw [Char.isDigit_iff_toNat] at h
    rw [Bool.and_eq_true, decide_eq_true_eq] at hrange
    have hdigit : c.toNat ≤ 57 := h.2
    omega

variable {text : List Char}

theorem dropWhile_isTrimmed (h : ∀ c ∈ text, isTrimmed c = false) :
    text.dropWhile isTrimmed = text := by
  cases text with
  | nil => rfl
  | cons c rest => exact List.dropWhile_cons_of_neg (by simp [h c List.mem_cons_self])

/-- A text without white space is trimmed. -/
theorem trimmed_eq (h : ∀ c ∈ text, isTrimmed c = false) : trimmed text = text := by
  have hreverse : ∀ c ∈ text.reverse, isTrimmed c = false :=
    fun c hc => h c (List.mem_reverse.mp hc)
  rw [trimmed, dropWhile_isTrimmed h, dropWhile_isTrimmed hreverse, List.reverse_reverse]

/-- The characters of a decimal literal without an exponent. -/
def IsPlain (text : List Char) : Prop := ∀ c ∈ text, c.isDigit = true ∨ c = '.'

theorem IsPlain.trimmed (h : IsPlain text) : Frely.trimmed text = text := by
  refine trimmed_eq fun c hc => ?_
  rcases h c hc with hdigit | rfl
  · exact isTrimmed_of_isDigit hdigit
  · decide

/-- A plain text is read as a decimal literal. -/
theorem number_of_plain {first : Char} {rest : List Char} (hplain : IsPlain (first :: rest)) :
    number (String.ofList (first :: rest)) = decimalLiteral (first :: rest) := by
  have hmark : ∀ c ∈ first :: rest, c ∉ ['x', 'X', 'o', 'O', 'b', 'B', '-', '+'] := by
    intro c hc hmem
    rcases hplain c hc with hdigit | rfl
    · simp only [List.mem_cons, List.not_mem_nil, or_false] at hmem
      rcases hmem with rfl | rfl | rfl | rfl | rfl | rfl | rfl | rfl <;>
        exact absurd hdigit (by decide)
    · exact absurd hmem (by decide)
  unfold number
  rw [String.toList_ofList, hplain.trimmed]
  split
  · rename_i heq
    exact absurd heq (List.cons_ne_nil _ _)
  all_goals first
    | rfl
    | rename_i heq
      rw [heq] at hmark
      first
        | exact absurd (by decide) (hmark _ (List.mem_cons_of_mem _ List.mem_cons_self))
        | exact absurd (by decide) (hmark _ List.mem_cons_self)

/-! ### Decimal literals -/

variable {whole fraction : List Char}

theorem takeWhile_append_of_all {digits : List Char} (h : ∀ c ∈ digits, c.isDigit = true)
    (rest : List Char) :
    (digits ++ '.' :: rest).takeWhile Char.isDigit = digits ∧
      (digits ++ '.' :: rest).dropWhile Char.isDigit = '.' :: rest := by
  rw [List.takeWhile_append_of_pos h, List.dropWhile_append_of_pos h]
  simp [show Char.isDigit '.' = false by decide]

theorem ne_infinity {first : Char} {rest : List Char} (hfirst : first.isDigit = true) :
    first :: rest ≠ "Infinity".toList := by
  rintro heq
  obtain ⟨rfl, -⟩ := List.cons.inj heq
  exact absurd hfirst (by decide)

theorem decimalLiteral_whole {digits : List Char} (hne : digits ≠ [])
    (h : ∀ c ∈ digits, c.isDigit = true) :
    decimalLiteral digits = .finite (Nat.ofDigitChars 10 digits 0 : Nat) := by
  have htake : digits.takeWhile Char.isDigit = digits := List.takeWhile_eq_self_iff.mpr h
  have hdrop : digits.dropWhile Char.isDigit = [] := List.dropWhile_eq_nil_iff.mpr h
  have hinfinity : digits ≠ "Infinity".toList := by
    cases digits with
    | nil => exact absurd rfl hne
    | cons first rest => exact ne_infinity (h first List.mem_cons_self)
  rw [decimalLiteral, if_neg hinfinity, htake, hdrop]
  simp [fractionOf, exponentOf, hne]

theorem decimalLiteral_point (hne : whole ≠ []) (hwhole : ∀ c ∈ whole, c.isDigit = true)
    (hfraction : ∀ c ∈ fraction, c.isDigit = true) :
    decimalLiteral (whole ++ '.' :: fraction) =
      .finite ((Nat.ofDigitChars 10 (whole ++ fraction) 0 : Nat) / 10 ^ fraction.length) := by
  have htake : fraction.takeWhile Char.isDigit = fraction :=
    List.takeWhile_eq_self_iff.mpr hfraction
  have hdrop : fraction.dropWhile Char.isDigit = [] := List.dropWhile_eq_nil_iff.mpr hfraction
  obtain ⟨htake', hdrop'⟩ := takeWhile_append_of_all hwhole fraction
  have hinfinity : whole ++ '.' :: fraction ≠ "Infinity".toList := by
    cases whole with
    | nil => exact absurd rfl hne
    | cons first rest => exact ne_infinity (hwhole first List.mem_cons_self)
  rw [decimalLiteral, if_neg hinfinity, htake', hdrop']
  simp only [fractionOf, htake, hdrop, exponentOf, hne, false_and, if_false, JsNumber.finite.injEq]
  rw [zero_sub, Rat.zpow_neg, Rat.zpow_natCast, ← Rat.div_def]

/-! ### Integers -/

theorem number_digits (n : Nat) : number (String.ofList (Nat.toDigits 10 n)) = .finite n := by
  have hdigits : ∀ c ∈ Nat.toDigits 10 n, c.isDigit = true :=
    fun c hc => Nat.isDigit_of_mem_toDigits (by decide) (by decide) hc
  have hliteral := decimalLiteral_whole Nat.toDigits_ne_nil hdigits
  cases htext : Nat.toDigits 10 n with
  | nil => exact absurd htext Nat.toDigits_ne_nil
  | cons first rest =>
    rw [htext] at hdigits
    rw [number_of_plain (fun c hc => .inl (hdigits c hc)), ← htext, hliteral,
      Nat.ofDigitChars_ten_toDigits]

/-- An integer is read back from its text. -/
theorem number_toString {n : Int} (h : 0 ≤ n) : number (toString n) = .finite n := by
  obtain ⟨m, rfl⟩ := Int.eq_ofNat_of_zero_le h
  have htext : toString (m : Int) = String.ofList (Nat.toDigits 10 m) :=
    Nat.toString_eq_ofList_toDigits
  rw [htext, number_digits]
  rfl

/-! ### Decimal fractions -/

variable {digits : Nat}

/-- The digits after the point, the trailing zeros split off. -/
theorem withoutTrailingZeros_append (digits : List Char) :
    ∃ k, digits = withoutTrailingZeros digits ++ List.replicate k '0' := by
  refine ⟨(digits.reverse.takeWhile (· = '0')).length, ?_⟩
  have hzeros : digits.reverse.takeWhile (· = '0') =
      List.replicate (digits.reverse.takeWhile (· = '0')).length '0' := by
    refine List.eq_replicate_iff.mpr ⟨rfl, fun c hc => ?_⟩
    have hzero := List.mem_takeWhile_imp hc
    exact of_decide_eq_true hzero
  have hsplit := congrArg List.reverse
    (List.takeWhile_append_dropWhile (p := (· = '0')) (l := digits.reverse))
  rw [List.reverse_append, List.reverse_reverse, hzeros, List.reverse_replicate] at hsplit
  exact hsplit.symm

theorem withoutTrailingZeros_point (whole fraction : List Char) :
    withoutTrailingZeros (whole ++ '.' :: fraction) =
      whole ++ '.' :: withoutTrailingZeros fraction := by
  have hpoint : ('.' :: whole.reverse).dropWhile (· = '0') = '.' :: whole.reverse :=
    List.dropWhile_cons_of_neg (by decide)
  have hreverse : (whole ++ '.' :: fraction).reverse =
      fraction.reverse ++ '.' :: whole.reverse := by simp
  rw [withoutTrailingZeros, withoutTrailingZeros, hreverse, List.dropWhile_append, hpoint]
  split_ifs with hempty
  · rw [List.isEmpty_iff.mp hempty]
    simp
  · simp

theorem withoutTrailingPoint_point (hfraction : ∀ c ∈ fraction, c.isDigit = true) :
    withoutTrailingPoint (whole ++ '.' :: fraction) =
      if fraction = [] then whole else whole ++ '.' :: fraction := by
  unfold withoutTrailingPoint
  rcases List.eq_nil_or_concat fraction with rfl | ⟨front, last, rfl⟩
  · simp
  · have hlast : last.isDigit = true := hfraction last (by simp)
    have hne : last ≠ '.' := by
      rintro rfl
      exact absurd hlast (by decide)
    have hget : (whole ++ '.' :: (front ++ [last])).getLast? = some last := by
      rw [List.getLast?_append, List.getLast?_cons, List.getLast?_concat]
      rfl
    rw [List.concat_eq_append] at *
    rw [hget, if_neg (by simpa using hne), if_neg (by simp)]

/-- The shortened text of a decimal is plain and not empty. -/
theorem shortened_plain (hne : whole ≠ []) (hwhole : ∀ c ∈ whole, c.isDigit = true)
    (hfraction : ∀ c ∈ fraction, c.isDigit = true) :
    IsPlain (withoutTrailingPoint (withoutTrailingZeros (whole ++ '.' :: fraction))) ∧
      withoutTrailingPoint (withoutTrailingZeros (whole ++ '.' :: fraction)) ≠ [] := by
  obtain ⟨k, hk⟩ := withoutTrailingZeros_append fraction
  have hshort : ∀ c ∈ withoutTrailingZeros fraction, c.isDigit = true :=
    fun c hc => hfraction c (hk ▸ List.mem_append_left _ hc)
  rw [withoutTrailingZeros_point, withoutTrailingPoint_point hshort]
  split_ifs with hempty
  · exact ⟨fun c hc => .inl (hwhole c hc), hne⟩
  · refine ⟨fun c hc => ?_, by simp⟩
    rcases List.mem_append.mp hc with hc | hc
    · exact .inl (hwhole c hc)
    · rcases List.mem_cons.mp hc with rfl | hc
      · exact .inr rfl
      · exact .inl (hshort c hc)

/-- The number that the shortened text of a decimal is read as. -/
theorem number_shortened (hne : whole ≠ []) (hwhole : ∀ c ∈ whole, c.isDigit = true)
    (hfraction : ∀ c ∈ fraction, c.isDigit = true) :
    number (String.ofList (withoutTrailingPoint
        (withoutTrailingZeros (whole ++ '.' :: fraction)))) =
      .finite ((Nat.ofDigitChars 10 (whole ++ fraction) 0 : Nat) / 10 ^ fraction.length) := by
  have hplain := (shortened_plain hne hwhole hfraction).1
  rw [withoutTrailingZeros_point] at hplain ⊢
  obtain ⟨k, hk⟩ := withoutTrailingZeros_append fraction
  generalize withoutTrailingZeros fraction = short at hk hplain ⊢
  have hshort : ∀ c ∈ short, c.isDigit = true :=
    fun c hc => hfraction c (hk ▸ List.mem_append_left _ hc)
  have hvalue : ((Nat.ofDigitChars 10 (whole ++ fraction) 0 : Nat) : Rat) / 10 ^ fraction.length =
      (Nat.ofDigitChars 10 (whole ++ short) 0 : Nat) / 10 ^ short.length := by
    rw [hk, ← List.append_assoc, Nat.ofDigitChars_append, Nat.ofDigitChars_replicate_zero,
      List.length_append, List.length_replicate]
    push_cast
    rw [pow_add]
    field_simp
  rw [withoutTrailingPoint_point hshort] at hplain ⊢
  rw [hvalue]
  cases whole with
  | nil => exact absurd rfl hne
  | cons first rest =>
    split_ifs with hempty
    · rw [number_of_plain (fun c hc => .inl (hwhole c hc)), decimalLiteral_whole hne hwhole, hempty]
      simp
    · rw [if_neg hempty] at hplain
      rw [← decimalLiteral_point hne hwhole hshort]
      exact number_of_plain hplain

/-- A number has at most that many digits after the point. -/
def HasDecimals (digits : Nat) (value : Rat) : Prop := ∃ n : Int, value * 10 ^ digits = n

/-- The text of a number with a fraction of at most so many digits. -/
theorem toFixed_eq {value : Rat} (hdigits : 0 < digits) {n : Nat} (h : value * 10 ^ digits = n) :
    ∃ whole fraction, toFixed value digits = whole ++ '.' :: fraction ∧ whole ≠ [] ∧
      (∀ c ∈ whole, c.isDigit = true) ∧ (∀ c ∈ fraction, c.isDigit = true) ∧
      Nat.ofDigitChars 10 (whole ++ fraction) 0 = n ∧ fraction.length = digits := by
  have hpow : (0 : Rat) < 10 ^ digits := Rat.pow_pos (by decide)
  have hnonneg : ¬value < 0 := by
    intro hneg
    have hproduct : value * 10 ^ digits < 0 := mul_neg_of_neg_of_pos hneg hpow
    rw [h] at hproduct
    exact absurd hproduct (not_lt.mpr (Nat.cast_nonneg n))
  have hfloor : ((n : Rat) + 1 / 2).floor.toNat = n := by
    have hhalf : ((1 : Rat) / 2).floor = 0 := by decide +kernel
    have hsum := @Rat.floor_add_intCast (1 / 2) n
    rw [hhalf, Int.zero_add, Rat.add_comm] at hsum
    have hcast : ((n : Int) : Rat) = n := rfl
    rw [← hcast, hsum]
    exact Int.toNat_natCast n
  have hlength : (Nat.toDigits 10 (n % 10 ^ digits)).length ≤ digits :=
    (Nat.length_toDigits_le_iff (by decide) hdigits).mpr (Nat.mod_lt _ (Nat.pow_pos (by decide)))
  have hdigit : ∀ m, ∀ c ∈ Nat.toDigits 10 m, c.isDigit = true :=
    fun m c hc => Nat.isDigit_of_mem_toDigits (by decide) (by decide) hc
  refine ⟨Nat.toDigits 10 (n / 10 ^ digits),
    List.replicate (digits - (Nat.toDigits 10 (n % 10 ^ digits)).length) '0' ++
      Nat.toDigits 10 (n % 10 ^ digits), ?_, Nat.toDigits_ne_nil, hdigit _, ?_, ?_, ?_⟩
  · simp only [toFixed, if_neg hnonneg, h, hfloor]
    rfl
  · intro c hc
    rcases List.mem_append.mp hc with hc | hc
    · rw [List.eq_of_mem_replicate hc]
      decide
    · exact hdigit _ c hc
  · rw [Nat.ofDigitChars_append, Nat.ofDigitChars_append, Nat.ofDigitChars_ten_toDigits,
      Nat.ofDigitChars_replicate_zero, Nat.ofDigitChars_eq_ofDigitChars_zero,
      Nat.ofDigitChars_ten_toDigits, ← Nat.mul_assoc, ← Nat.pow_add, Nat.add_sub_cancel' hlength]
    exact Nat.div_add_mod n (10 ^ digits)
  · rw [List.length_append, List.length_replicate]
    omega

/-- A number with at most so many digits after the point is read back from its text. -/
theorem number_toFixed {value : Rat} (hdigits : 0 < digits) (hvalue : 0 ≤ value)
    (h : HasDecimals digits value) :
    number (String.ofList (withoutTrailingPoint (withoutTrailingZeros (toFixed value digits)))) =
      .finite value := by
  obtain ⟨n, hn⟩ := h
  have hpow : (0 : Rat) < 10 ^ digits := Rat.pow_pos (by decide)
  have hnonneg : (0 : Rat) ≤ n := hn ▸ Rat.mul_nonneg hvalue hpow.le
  obtain ⟨m, rfl⟩ := Int.eq_ofNat_of_zero_le (Rat.intCast_nonneg.mp hnonneg)
  obtain ⟨whole, fraction, htext, hne, hwhole, hfraction, hdigitsValue, hlength⟩ :=
    toFixed_eq hdigits hn
  rw [htext, number_shortened hne hwhole hfraction, hdigitsValue, hlength]
  have hcast : ((m : Int) : Rat) = (m : Nat) := rfl
  rw [hcast] at hn
  rw [← hn]
  exact congrArg JsNumber.finite (mul_div_cancel_right₀ value hpow.ne')

/-- The text of such a number is plain and not empty. -/
theorem toFixed_plain {value : Rat} (hdigits : 0 < digits) (hvalue : 0 ≤ value)
    (h : HasDecimals digits value) :
    IsPlain (withoutTrailingPoint (withoutTrailingZeros (toFixed value digits))) ∧
      withoutTrailingPoint (withoutTrailingZeros (toFixed value digits)) ≠ [] := by
  obtain ⟨n, hn⟩ := h
  have hnonneg : (0 : Rat) ≤ n := hn ▸ Rat.mul_nonneg hvalue (Rat.pow_pos (by decide)).le
  obtain ⟨m, rfl⟩ := Int.eq_ofNat_of_zero_le (Rat.intCast_nonneg.mp hnonneg)
  obtain ⟨whole, fraction, htext, hne, hwhole, hfraction, -, -⟩ := toFixed_eq hdigits hn
  rw [htext]
  exact shortened_plain hne hwhole hfraction

theorem toString_plain {n : Int} (h : 0 ≤ n) :
    IsPlain (toString n).toList ∧ (toString n).toList ≠ [] := by
  obtain ⟨m, rfl⟩ := Int.eq_ofNat_of_zero_le h
  have htext : (toString (m : Int)).toList = Nat.toDigits 10 m := by
    rw [show toString (m : Int) = toString m from rfl, Nat.toString_eq_ofList_toDigits,
      String.toList_ofList]
  rw [htext]
  exact ⟨fun c hc => .inl (Nat.isDigit_of_mem_toDigits (by decide) (by decide) hc),
    Nat.toDigits_ne_nil⟩

/-- A plain text is not blank. -/
theorem isBlank_of_plain {text : String} (hplain : IsPlain text.toList) (hne : text.toList ≠ []) :
    isBlank text = false := by
  rw [isBlank, hplain.trimmed, List.isEmpty_eq_false_iff]
  exact hne

end Frely
