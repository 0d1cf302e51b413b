import RuleEngine.Proofs.Binary64.Rounding
import RuleEngine.Decimal.Layout
import RuleEngine.Decimal.Reading

/-! # Writing a float and reading it back

The shortest decimal of a positive value lies in its rounding interval, positional notation reads
back as a decimal of the same value, and such a decimal reads as the float itself; so the text
`Layout.plain` writes for a finite float with a clear sign bit reads back as that float. -/
set_option autoImplicit false
namespace RuleEngine

namespace Decimal

def value (d : Decimal) : ℚ := d.digits * 10 ^ d.exponent

theorem value_normalize (d : Decimal) : d.normalize.value = d.value := by
  fun_induction normalize d with
  | case1 d moves ih =>
      rw [ih]
      obtain ⟨-, tens⟩ := moves
      have split : d.digits = d.digits / 10 * 10 := (Nat.div_mul_cancel (Nat.dvd_of_mod_eq_zero tens)).symm
      simp only [value]
      rw [zpow_add_one₀ (by norm_num)]
      conv_rhs => rw [split]
      push_cast
      ring
  | case2 d stays => rfl

end Decimal

namespace RoundingInterval

theorem scale_eq (e : Int) :
    ((2 ^ (e - 2 + ((2 - e).toNat + 17 : Nat)).toNat * 5 ^ ((2 - e).toNat + 17) : Nat) : ℚ) =
      2 ^ e * 10 ^ ((2 - e).toNat + 17) / 4 := by
  set shift := (2 - e).toNat + 17
  have exponent : ((e - 2 + (shift : Int)).toNat : Int) = e - 2 + shift := by omega
  have tens : (10 : ℚ) ^ shift = 2 ^ shift * 5 ^ shift := by
    rw [← mul_pow]
    norm_num
  push_cast
  rw [← zpow_natCast, exponent, zpow_add₀ two_ne_zero, zpow_sub₀ two_ne_zero, zpow_natCast, tens]
  norm_num
  ring

section Quarters
variable {k c s : Nat} (pos : 0 < s)
include pos

theorem quarter_le_iff : (k : ℚ) / 4 ≤ c / (4 * s) ↔ k * s ≤ c := by
  have sPos : (0 : ℚ) < s := by exact_mod_cast pos
  rw [div_le_div_iff₀ (by norm_num) (by positivity),
    show (k : ℚ) * (4 * s) = ((k * s : ℕ) : ℚ) * 4 by push_cast; ring,
    mul_le_mul_iff_of_pos_right (by norm_num), Nat.cast_le]

theorem quarter_lt_iff : (k : ℚ) / 4 < c / (4 * s) ↔ k * s < c := by
  have sPos : (0 : ℚ) < s := by exact_mod_cast pos
  rw [div_lt_div_iff₀ (by norm_num) (by positivity),
    show (k : ℚ) * (4 * s) = ((k * s : ℕ) : ℚ) * 4 by push_cast; ring,
    mul_lt_mul_iff_of_pos_right (by norm_num), Nat.cast_lt]

theorem le_quarter_iff : (c : ℚ) / (4 * s) ≤ k / 4 ↔ c ≤ k * s := by
  have sPos : (0 : ℚ) < s := by exact_mod_cast pos
  rw [div_le_div_iff₀ (by positivity) (by norm_num),
    show (k : ℚ) * (4 * s) = ((k * s : ℕ) : ℚ) * 4 by push_cast; ring,
    mul_le_mul_iff_of_pos_right (by norm_num), Nat.cast_le]

theorem lt_quarter_iff : (c : ℚ) / (4 * s) < k / 4 ↔ c < k * s := by
  have sPos : (0 : ℚ) < s := by exact_mod_cast pos
  rw [div_lt_div_iff₀ (by positivity) (by norm_num),
    show (k : ℚ) * (4 * s) = ((k * s : ℕ) : ℚ) * 4 by push_cast; ring,
    mul_lt_mul_iff_of_pos_right (by norm_num), Nat.cast_lt]

end Quarters

section Parts
variable (m : Nat) (e : Int)

/-- The scale of the interval of `m·2^e`. -/
def scaleOf : Nat := 2 ^ (e - 2 + ((2 - e).toNat + 17 : Nat)).toNat * 5 ^ ((2 - e).toNat + 17)

theorem ofParts_shift : (ofParts m e).shift = (2 - e).toNat + 17 := rfl
theorem ofParts_low :
    (ofParts m e).low = (if Binary64.narrowBelow m e then 4 * m - 1 else 4 * m - 2) * scaleOf e := rfl
theorem ofParts_value : (ofParts m e).value = 4 * m * scaleOf e := rfl
theorem ofParts_high : (ofParts m e).high = (4 * m + 2) * scaleOf e := rfl
theorem ofParts_inclusive : (ofParts m e).inclusive = (m % 2 == 0) := rfl

end Parts

theorem roundsTo_of_contains {m : Nat} {e : Int} (pos : 0 < m) {c : Nat}
    (inside : (ofParts m e).contains c = true) :
    Binary64.RoundsTo m e (c / 10 ^ (ofParts m e).shift) := by
  have scaleQ : (scaleOf e : ℚ) = 2 ^ e * 10 ^ ((2 - e).toNat + 17) / 4 := scale_eq e
  rw [contains, ofParts_low, ofParts_high, ofParts_inclusive] at inside
  have scalePos : 0 < scaleOf e := by
    unfold scaleOf
    positivity
  have units : (c : ℚ) / 10 ^ ((2 - e).toNat + 17) / 2 ^ e = c / (4 * scaleOf e) := by
    rw [scaleQ]
    field_simp
  have lowEnd : (if Binary64.narrowBelow m e then (m : ℚ) - 1 / 4 else m - 1 / 2) =
      ((if Binary64.narrowBelow m e then 4 * m - 1 else 4 * m - 2 : ℕ) : ℚ) / 4 := by
    split <;> rw [Nat.cast_sub (by omega)] <;> push_cast <;> ring
  have highEnd : (m : ℚ) + 1 / 2 = ((4 * m + 2 : ℕ) : ℚ) / 4 := by
    push_cast
    ring
  rw [ofParts_shift]
  unfold Binary64.RoundsTo
  dsimp only
  rw [units, lowEnd, highEnd]
  generalize (if Binary64.narrowBelow m e then 4 * m - 1 else 4 * m - 2) = low at inside ⊢
  by_cases even : m % 2 = 0
  · simp only [even, beq_self_eq_true, if_true, Bool.and_eq_true, decide_eq_true_eq] at inside ⊢
    rw [quarter_le_iff scalePos, le_quarter_iff scalePos]
    exact inside
  · simp only [even, beq_iff_eq, if_false, Bool.and_eq_true, decide_eq_true_eq] at inside ⊢
    rw [quarter_lt_iff scalePos, lt_quarter_iff scalePos]
    exact inside

theorem contains_value {m : Nat} {e : Int} (pos : 0 < m) :
    (ofParts m e).contains (ofParts m e).value = true := by
  have scalePos : 0 < scaleOf e := by
    unfold scaleOf
    positivity
  have lowLt : (if Binary64.narrowBelow m e then 4 * m - 1 else 4 * m - 2) * scaleOf e <
      4 * m * scaleOf e :=
    Nat.mul_lt_mul_of_pos_right (by split <;> omega) scalePos
  have ltHigh : 4 * m * scaleOf e < (4 * m + 2) * scaleOf e :=
    Nat.mul_lt_mul_of_pos_right (by omega) scalePos
  rw [contains, ofParts_low, ofParts_value, ofParts_high]
  split
  · simp only [Bool.and_eq_true, decide_eq_true_eq]
    exact ⟨lowLt.le, ltHigh.le⟩
  · simp only [Bool.and_eq_true, decide_eq_true_eq]
    exact ⟨lowLt, ltHigh⟩

theorem contains_pick {I : RoundingInterval} {tie : Tie} {g q : Nat}
    (valueInside : I.contains I.value = true) (picked : I.pick tie g = some q) :
    I.contains (q * g) = true := by
  unfold pick at picked
  simp only at picked
  split at picked
  · rename_i onGrid
    cases picked
    rw [Nat.div_mul_cancel (Nat.dvd_of_mod_eq_zero onGrid)]
    exact valueInside
  · split at picked
    · rename_i belowInside aboveInside
      -- both grid points around the value lie inside, and one of them is answered
      have either : I.value / g = q ∨ I.value / g + 1 = q := by
        split at picked
        · exact .inl (Option.some.inj picked)
        · split at picked
          · exact .inr (Option.some.inj picked)
          · split at picked
            · split at picked
              · exact .inl (Option.some.inj picked)
              · exact .inr (Option.some.inj picked)
            · exact .inr (Option.some.inj picked)
      rcases either with rfl | rfl
      · exact belowInside
      · exact aboveInside
    · rename_i belowInside _
      cases picked
      exact belowInside
    · rename_i _ aboveInside
      cases picked
      exact aboveInside
    · cases picked

theorem contains_search {I : RoundingInterval} {tie : Tie} {top : Nat}
    (valueInside : I.contains I.value = true) :
    ∀ {fuel n q p : Nat}, I.search tie top fuel n = some (q, p) → I.contains (q * 10 ^ p) = true
  | 0, _, _, _, found => by simp [search] at found
  | fuel + 1, n, q, p, found => by
      unfold search at found
      simp only at found
      split at found
      · rename_i q' picked
        cases found
        exact contains_pick valueInside picked
      · exact contains_search valueInside found

end RoundingInterval

namespace Decimal

theorem roundsTo_shortest (tie : Tie) {m : Nat} {e : Int} (pos : 0 < m) :
    Binary64.RoundsTo m e (shortest tie m e).value := by
  have scaled (c : Nat) (p : Int) :
      (⟨c, p - (RoundingInterval.ofParts m e).shift⟩ : Decimal).value =
        ((c : ℚ) * 10 ^ p) / 10 ^ (RoundingInterval.ofParts m e).shift := by
    simp only [value]
    rw [zpow_sub₀ (by norm_num), zpow_natCast]
    ring
  unfold shortest
  simp only
  split
  · rename_i q p found
    rw [value_normalize, scaled, zpow_natCast]
    exact_mod_cast RoundingInterval.roundsTo_of_contains pos
      (RoundingInterval.contains_search (RoundingInterval.contains_value pos) found)
  · rw [value_normalize, show -((RoundingInterval.ofParts m e).shift : Int) =
      0 - (RoundingInterval.ofParts m e).shift by ring, scaled]
    rw [zpow_zero, mul_one]
    exact RoundingInterval.roundsTo_of_contains pos (RoundingInterval.contains_value pos)

/-! ## Reading positional notation -/

theorem digitsValue_eq_ofDigitChars (cs : List Char) : digitsValue cs = Nat.ofDigitChars 10 cs 0 := by
  rw [digitsValue, Nat.ofDigitChars_eq_foldl]
  congr 1
  funext acc c
  ring

theorem digitsValue_toDigits (n : Nat) : digitsValue (Nat.toDigits 10 n) = n := by
  rw [digitsValue_eq_ofDigitChars, Nat.ofDigitChars_ten_toDigits]

theorem digitsValue_append (xs ys : List Char) :
    digitsValue (xs ++ ys) = digitsValue xs * 10 ^ ys.length + digitsValue ys := by
  rw [digitsValue_eq_ofDigitChars, digitsValue_eq_ofDigitChars, digitsValue_eq_ofDigitChars,
    Nat.ofDigitChars_eq_foldl, List.foldl_append, ← Nat.ofDigitChars_eq_foldl,
    ← Nat.ofDigitChars_eq_foldl, Nat.ofDigitChars_eq_ofDigitChars_zero]
  ring

theorem digitsValue_zeros (k : Nat) : digitsValue (List.replicate k '0') = 0 := by
  induction k with
  | zero => rfl
  | succ k ih =>
      rw [List.replicate_succ', digitsValue_append, ih]
      rfl

theorem spanDigits_append {ws rest : List Char} (digits : ∀ c ∈ ws, c.isDigit = true)
    (stops : ∀ c ∈ rest.head?, c.isDigit = false) : spanDigits (ws ++ rest) = (ws, rest) := by
  have stopTake : rest.takeWhile Char.isDigit = [] := by
    cases rest with
    | nil => rfl
    | cons c more => simp [stops c (by simp)]
  have stopDrop : rest.dropWhile Char.isDigit = rest := by
    cases rest with
    | nil => rfl
    | cons c more => simp [stops c (by simp)]
  simp only [spanDigits, List.takeWhile_append_of_pos digits, List.dropWhile_append_of_pos digits,
    stopTake, stopDrop, List.append_nil]

theorem readUnsigned_digits {ws : List Char} (nonEmpty : ws ≠ [])
    (digits : ∀ c ∈ ws, c.isDigit = true) : readUnsigned ws = some ⟨digitsValue ws, 0⟩ := by
  have span : spanDigits (ws ++ []) = (ws, []) := spanDigits_append digits (by simp)
  rw [List.append_nil] at span
  simp [readUnsigned, span, nonEmpty, readExponent]

theorem readUnsigned_point {ws fs : List Char} (nonEmpty : ws ≠ [])
    (whole : ∀ c ∈ ws, c.isDigit = true) (fraction : ∀ c ∈ fs, c.isDigit = true) :
    readUnsigned (ws ++ '.' :: fs) = some ⟨digitsValue (ws ++ fs), -(fs.length : Int)⟩ := by
  have spanWhole : spanDigits (ws ++ '.' :: fs) = (ws, '.' :: fs) :=
    spanDigits_append whole (by simp)
  have spanFraction : spanDigits (fs ++ []) = (fs, []) := spanDigits_append fraction (by simp)
  rw [List.append_nil] at spanFraction
  simp [readUnsigned, spanWhole, spanFraction, nonEmpty, readExponent]

theorem isDigit_of_mem_digits {n : Nat} {c : Char} (member : c ∈ Nat.toDigits 10 n) :
    c.isDigit = true :=
  Nat.isDigit_of_mem_toDigits (by decide) (by decide) member

theorem isDigit_zero_char : '0'.isDigit = true := by decide

theorem positional_parts (d : Decimal) :
    ∃ ws fs : List Char, ws ≠ [] ∧ (∀ c ∈ ws, c.isDigit = true) ∧ (∀ c ∈ fs, c.isDigit = true) ∧
      (d.positional false).toList = (if fs = [] then ws else ws ++ '.' :: fs) ∧
      (⟨digitsValue (ws ++ fs), -(fs.length : Int)⟩ : Decimal).value = d.value := by
  have dsNonEmpty : Nat.toDigits 10 d.digits ≠ [] := Nat.toDigits_ne_nil
  have dsValue := digitsValue_toDigits d.digits
  unfold positional
  simp only [digitString, zeros, String.length_ofList, String.toList_ofList]
  split
  · -- no point: the digits and the zeros the exponent asks for
    rename_i nonNegative
    refine ⟨Nat.toDigits 10 d.digits ++ List.replicate d.exponent.toNat '0', [], by simp,
      ?_, by simp, by simp, ?_⟩
    · intro c member
      rcases List.mem_append.mp member with digit | zero
      · exact isDigit_of_mem_digits digit
      · rw [List.eq_of_mem_replicate zero]
        exact isDigit_zero_char
    · simp only [value, List.append_nil, digitsValue_append, digitsValue_zeros, dsValue,
        List.length_replicate, List.length_nil, Nat.cast_zero, neg_zero, zpow_zero, mul_one,
        add_zero]
      push_cast
      rw [← zpow_natCast, Int.toNat_of_nonneg nonNegative]
  · rename_i negative
    split
    · -- a point inside the digits
      rename_i inside
      refine ⟨(Nat.toDigits 10 d.digits).take ((Nat.toDigits 10 d.digits).length - d.exponent.natAbs),
        (Nat.toDigits 10 d.digits).drop ((Nat.toDigits 10 d.digits).length - d.exponent.natAbs),
        ?_, fun c member => isDigit_of_mem_digits (List.mem_of_mem_take member),
        fun c member => isDigit_of_mem_digits (List.mem_of_mem_drop member), ?_, ?_⟩
      · simp only [ne_eq, List.take_eq_nil_iff, dsNonEmpty, or_false]
        omega
      · have placesNonEmpty : (Nat.toDigits 10 d.digits).drop
            ((Nat.toDigits 10 d.digits).length - d.exponent.natAbs) ≠ [] := by
          simp only [ne_eq, List.drop_eq_nil_iff]
          omega
        simp [placesNonEmpty]
      · simp only [List.take_append_drop, dsValue, value, List.length_drop]
        congr 2
        omega
    · -- a point before the digits, after a zero and as many zeros as it takes
      rename_i before
      refine ⟨['0'], List.replicate (d.exponent.natAbs - (Nat.toDigits 10 d.digits).length) '0' ++
        Nat.toDigits 10 d.digits, by simp, by simp [isDigit_zero_char], ?_, ?_, ?_⟩
      · intro c member
        rcases List.mem_append.mp member with zero | digit
        · rw [List.eq_of_mem_replicate zero]
          exact isDigit_zero_char
        · exact isDigit_of_mem_digits digit
      · simp [dsNonEmpty]
      · rw [← List.append_assoc, digitsValue_append, digitsValue_append]
        simp only [value, digitsValue_zeros, List.length_append, List.length_replicate, dsValue]
        have : ['0'] = List.replicate 1 '0' := rfl
        rw [this, digitsValue_zeros]
        simp only [zero_mul, zero_add]
        congr 2
        omega

theorem readUnsigned_positional (d : Decimal) :
    ∃ d', readUnsigned (d.positional false).toList = some d' ∧ d'.value = d.value := by
  obtain ⟨ws, fs, nonEmpty, whole, fraction, chars, sameValue⟩ := positional_parts d
  rw [chars]
  split
  · rename_i noPlaces
    subst noPlaces
    refine ⟨⟨digitsValue ws, 0⟩, readUnsigned_digits nonEmpty whole, ?_⟩
    simpa using sameValue
  · exact ⟨_, readUnsigned_point nonEmpty whole fraction, sameValue⟩

theorem toLower_of_isDigit {c : Char} (digit : c.isDigit = true) : c.toLower = c := by
  simp only [Char.isDigit, Bool.and_eq_true, decide_eq_true_eq, ge_iff_le,
    UInt32.le_iff_toNat_le] at digit
  unfold Char.toLower
  rw [dif_neg]
  rintro ⟨upper, -⟩
  simp only [ge_iff_le, UInt32.le_iff_toNat_le] at upper
  have nine : '9'.val.toNat = 57 := rfl
  have letterA : 'A'.val.toNat = 65 := rfl
  omega

theorem readFloat_of_digit {s : String} {c : Char} {rest : List Char} (chars : s.toList = c :: rest)
    (digit : c.isDigit = true) : readFloat? s = (readUnsigned s.toList).map toFloat := by
  have notSign : readSign (c :: rest) = (false, c :: rest) := by
    unfold readSign
    split
    · rename_i plus
      cases plus
      simp [Char.isDigit] at digit
    · rename_i minus
      cases minus
      simp [Char.isDigit] at digit
    · rfl
  have noWord (d : Char) (more : List Char) (letter : d.isDigit = false) :
      asciiLower (c :: rest) ≠ d :: more := by
    intro same
    simp only [asciiLower, List.map_cons, List.cons.injEq, toLower_of_isDigit digit] at same
    rw [← same.1, digit] at letter
    exact Bool.noConfusion letter
  have inf : "inf".toList = ['i', 'n', 'f'] := rfl
  have infinity : "infinity".toList = ['i', 'n', 'f', 'i', 'n', 'i', 't', 'y'] := rfl
  have nan : "nan".toList = ['n', 'a', 'n'] := rfl
  simp only [readFloat?, chars, notSign, inf, infinity, nan]
  rw [if_neg (by
      rintro (isInf | isInfinity)
      · exact noWord _ _ (by decide) isInf
      · exact noWord _ _ (by decide) isInfinity),
    if_neg (noWord _ _ (by decide))]
  simp

theorem digitCount_bounds {n : Nat} (pos : 0 < n) :
    10 ^ (digitCount n - 1) ≤ n ∧ n < 10 ^ digitCount n := by
  have length : 0 < digitCount n := Nat.length_toDigits_pos
  refine ⟨?_, (Nat.length_toDigits_le_iff (by decide) length).mp le_rfl⟩
  by_cases one : digitCount n = 1
  · rw [one, Nat.sub_self, pow_zero]
    exact pos
  · by_contra below
    have := (Nat.length_toDigits_le_iff (by decide) (by omega)).mpr (not_le.mp below)
    simp only [digitCount] at length one this
    omega

theorem toFloat_eq_of_roundsTo {d : Decimal} {m : Nat} {e : Int}
    (canonical : Binary64.Canonical m e) (pos : 0 < m) (rounds : Binary64.RoundsTo m e d.value) :
    d.toFloat = (Binary64.finite false m e).toFloatBits := by
  obtain ⟨atLeast, below⟩ := rounds.between canonical pos
  have digitsPos : 0 < d.digits := by
    rcases Nat.eq_zero_or_pos d.digits with zero | positive
    · have : (0 : ℚ) < 2 ^ (-1075 : Int) := zpow_pos two_pos _
      simp only [value, zero, Nat.cast_zero, zero_mul] at atLeast
      linarith
    · exact positive
  obtain ⟨dLow, dHigh⟩ := digitCount_bounds digitsPos
  have countPos : 0 < digitCount d.digits := Nat.length_toDigits_pos
  set top : Int := (digitCount d.digits : Int) + d.exponent with hTop
  have ten : (0 : ℚ) < 10 := by norm_num
  have valueLow : (10 : ℚ) ^ (top - 1) ≤ d.value := by
    have : ((10 ^ (digitCount d.digits - 1) : ℕ) : ℚ) ≤ d.digits := by exact_mod_cast dLow
    rw [hTop, value, show (digitCount d.digits : Int) + d.exponent - 1 =
      ((digitCount d.digits - 1 : ℕ) : Int) + d.exponent by omega, zpow_add₀ ten.ne', zpow_natCast]
    push_cast at this
    exact mul_le_mul_of_nonneg_right this (zpow_pos ten _).le
  have valueHigh : d.value < 10 ^ top := by
    have : (d.digits : ℚ) < ((10 ^ digitCount d.digits : ℕ) : ℚ) := by exact_mod_cast dHigh
    rw [hTop, value, zpow_add₀ ten.ne', zpow_natCast]
    push_cast at this
    exact mul_lt_mul_of_pos_right this (zpow_pos ten _)
  have notHuge : ¬ 310 ≤ top := by
    intro huge
    have powers : (2 : ℚ) ^ (1024 : Int) < 10 ^ (309 : Int) := by
      have natural : (2 : ℕ) ^ 1024 < 10 ^ 309 := by decide +kernel
      rw [zpow_ofNat, zpow_ofNat]
      exact_mod_cast natural
    have : (10 : ℚ) ^ (309 : Int) ≤ 10 ^ (top - 1) := zpow_le_zpow_right₀ (by norm_num) (by omega)
    exact absurd (lt_of_lt_of_le (below.trans powers) (this.trans valueLow)) (lt_irrefl _)
  have notTiny : ¬ top ≤ -324 := by
    intro tiny
    have powers : (10 : ℚ) ^ (-324 : Int) < 2 ^ (-1075 : Int) := by
      have natural : (2 : ℕ) ^ 1075 < 10 ^ 324 := by decide +kernel
      rw [zpow_neg, zpow_neg, zpow_ofNat, zpow_ofNat, inv_lt_inv₀ (by positivity) (by positivity)]
      exact_mod_cast natural
    have : (10 : ℚ) ^ top ≤ 10 ^ (-324 : Int) := zpow_le_zpow_right₀ (by norm_num) tiny
    exact absurd (lt_of_le_of_lt atLeast (valueHigh.trans_le (this.trans powers.le)))
      (lt_irrefl _)
  unfold toFloat
  rw [if_neg (by omega)]
  simp only [← hTop, notHuge, notTiny, if_false]
  split
  · rename_i nonNegative
    rw [Binary64.nearest_eq_of_roundsTo one_pos canonical pos]
    convert rounds using 1
    have power : (10 : ℚ) ^ d.exponent = 10 ^ d.exponent.toNat := by
      rw [← zpow_natCast, Int.toNat_of_nonneg nonNegative]
    rw [value, power]
    push_cast
    rw [div_one]
  · rename_i negative
    rw [Binary64.nearest_eq_of_roundsTo (by positivity) canonical pos]
    convert rounds using 1
    have power : (10 : ℚ) ^ d.exponent = (10 ^ d.exponent.natAbs)⁻¹ := by
      rw [← zpow_natCast, ← zpow_neg]
      congr 1
      omega
    rw [value, power]
    push_cast
    rw [div_eq_mul_inv]

theorem plain_decimal (d : Decimal) : Layout.plain.decimal d = d.positional false := by
  simp [Layout.decimal, Layout.isPositional, Layout.plain]

theorem plain_float_positive {x : Float} {m : Nat} {e : Int}
    (parts : Binary64.ofFloat x = .finite false m e) :
    Layout.plain.float x = (if m = 0 then (⟨0, 0⟩ : Decimal) else shortest .up m e).positional false := by
  simp [Layout.float, parts, plain_decimal, show Layout.plain.tie = .up from rfl]

theorem readFloat_plain {x : Float} {m : Nat} {e : Int}
    (parts : Binary64.ofFloat x = .finite false m e) : readFloat? (Layout.plain.float x) = some x := by
  have notNaN : Binary64.ofFloat x ≠ .nan := by
    rw [parts]
    exact Binary64.noConfusion
  rcases Nat.eq_zero_or_pos m with zero | pos
  · -- positive zero is written `0`
    subst zero
    have written : Layout.plain.float x = "0" := by
      rw [plain_float_positive parts, if_pos rfl]
      rfl
    have bitsZero : x.toBits = 0 := by
      have bits := Binary64.bits_ofBits x.toBits notNaN
      rw [← Binary64.ofFloat, parts] at bits
      simp only [Binary64.bits] at bits
      exact UInt64.toNat_inj.mp (by simpa using bits.symm)
    have zeroBits : (0.0 : Float).toBits = 0 := by decide
    have isZero : x = 0.0 := by
      rw [← ofBits_toBits x, bitsZero, ← zeroBits, ofBits_toBits]
    have chars : "0".toList = ['0'] := rfl
    rw [written, readFloat_of_digit chars isDigit_zero_char, chars,
      readUnsigned_digits (by simp) (by simp [isDigit_zero_char]), isZero]
    rfl
  · -- a positive value is written positionally with its shortest decimal
    have written : Layout.plain.float x = (shortest .up m e).positional false := by
      rw [plain_float_positive parts, if_neg pos.ne']
    obtain ⟨d, reads, sameValue⟩ := readUnsigned_positional (shortest .up m e)
    obtain ⟨ws, fs, nonEmpty, whole, -, chars, -⟩ := positional_parts (shortest .up m e)
    obtain ⟨c, rest, rfl⟩ := List.exists_cons_of_ne_nil nonEmpty
    have startsWith : ((shortest .up m e).positional false).toList =
        c :: (if fs = [] then rest else rest ++ '.' :: fs) := by
      rw [chars]
      split <;> rfl
    have rounds : Binary64.RoundsTo m e d.value := by
      rw [sameValue]
      exact roundsTo_shortest .up pos
    rw [written, readFloat_of_digit startsWith (whole c (by simp)), reads, Option.map_some,
      toFloat_eq_of_roundsTo (Binary64.canonical_of_ofBits parts) pos rounds, ← parts,
      Binary64.toFloatBits_ofFloat x notNaN]

end Decimal

end RuleEngine
