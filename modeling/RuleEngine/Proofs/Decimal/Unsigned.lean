import RuleEngine.Proofs.Decimal.RoundTrip

/-! # Unsigned decimals read as floats with the sign clear

A decimal read without a sign rounds to zero, positive infinity or a `Binary64.nearest` value, all
with the sign bit clear, and the float model keeps such patterns; so a finite float read from a
text that starts with a digit has the sign clear. -/

set_option autoImplicit false

namespace RuleEngine

namespace Binary64

/-- What rounding a non-negative fraction can give: positive infinity, or a value with the sign
clear that `bits` encodes. -/
def NonNegative : Binary64 → Prop
  | .infinity negative => negative = false
  | .finite negative m e => negative = false ∧ m < 2 ^ 53 ∧ e ≤ maxExponent
  | .nan => False

theorem bits_lt_of_nonNegative {b : Binary64} (nonNegative : b.NonNegative) : b.bits < 2 ^ 63 := by
  cases b with
  | nan => cases nonNegative
  | infinity negative =>
    cases nonNegative
    simp [bits]
  | finite negative m e =>
    obtain ⟨rfl, small, inRange⟩ := nonNegative
    simp only [maxExponent] at inRange
    simp only [bits, Bool.false_eq_true, if_false, zero_add]
    split <;> omega

theorem roundAt_le {a b : Nat} (ha : 0 < a) (hb : 0 < b) :
    roundAt a b (max minExponent (floorLog2 a b - 52)) ≤ 2 ^ 53 := by
  set e := max minExponent (floorLog2 a b - 52) with he
  have ratio := scaled_ratio a hb e
  have dPos := scaled_pos a hb e
  have unit : (0 : ℚ) < 2 ^ e := zpow_pos two_pos e
  have below : (a : ℚ) / b < 2 ^ (floorLog2 a b + 1) := by
    rw [floorLog2_eq_log ha hb]
    exact Int.lt_zpow_succ_log_self (by norm_num) _
  have units : (a : ℚ) / b / 2 ^ e < 2 ^ 53 := by
    rw [div_lt_iff₀ unit, ← zpow_natCast, ← zpow_add₀ two_ne_zero]
    calc (a : ℚ) / b < 2 ^ (floorLog2 a b + 1) := below
      _ ≤ 2 ^ ((53 : ℕ) + e) := zpow_le_zpow_right₀ (by norm_num) (by omega)
  have quotient : (scaled a b e).1 / (scaled a b e).2 < 2 ^ 53 := by
    rw [Nat.div_lt_iff_lt_mul dPos]
    have dPos' : (0 : ℚ) < (scaled a b e).2 := by exact_mod_cast dPos
    rw [← ratio, div_lt_iff₀ dPos'] at units
    exact_mod_cast units
  unfold roundAt
  rcases split : scaled a b e with ⟨n, d⟩
  simp only [split] at quotient
  dsimp only
  split <;> omega

theorem nearest_nonNegative (a : Nat) {b : Nat} (hb : 0 < b) : (nearest a b).NonNegative := by
  unfold nearest
  split
  · exact ⟨rfl, by norm_num, by decide⟩
  · rename_i nonZero
    have bound := roundAt_le (Nat.pos_of_ne_zero nonZero) hb
    dsimp only
    split <;> split
    all_goals first
      | rfl
      | exact ⟨rfl, by omega, by omega⟩

end Binary64

section Bits
open Float.Model Float.Model.UnpackedFloat

theorem toBits_ofBits_lt {u : UInt64} (positive : u.toNat < 2 ^ 63) : (Float.ofBits u).toBits.toNat < 2 ^ 63 := by
  by_cases valid : Format.binary64.Valid u.toBitVec
  · have repack := pack_unpack_of_valid valid
    simpa [Float.ofBits, Float.toBits, Float.Model.ofBits, Float.Model.pack, repack] using positive
  · have fields : @unpackExponent Format.binary64 u.toBitVec = -1#_ ∧
        @unpackMantissa Format.binary64 u.toBitVec ≠ 0#_ := by
      by_contra notNaN
      exact valid ⟨fun allOnes someFraction => absurd ⟨allOnes, someFraction⟩ notNaN⟩
    have nan : UnpackedFloat.unpack Format.binary64 u.toBitVec = .notANumber := by
      simp [UnpackedFloat.unpack, fields.1, fields.2]
    simp only [Float.ofBits, Float.toBits, Float.Model.ofBits, Float.Model.pack, nan, UnpackedFloat.pack]
    decide +kernel

theorem unpackExponent_toNat (bv : BitVec 64) :
    (@unpackExponent Format.binary64 bv).toNat = bv.toNat / 2 ^ 52 % 2 ^ 11 := by
  simp [unpackExponent, Nat.shiftRight_eq_div_pow]

theorem exponent_ne_of_isFinite {x : Float} (finite : x.isFinite = true) :
    x.toBits.toNat / 2 ^ 52 % 2 ^ 11 ≠ 2047 := by
  intro allOnes
  have field : @unpackExponent Format.binary64 x.toModel.toBits.toBitVec = -1#_ := by
    apply BitVec.eq_of_toNat_eq
    rw [unpackExponent_toNat]
    simpa [Float.toBits] using allOnes
  simp only [Float.isFinite, Float.Model.isFinite, Float.Model.unpack, UnpackedFloat.unpack, field] at finite
  by_cases noFraction : @unpackMantissa Format.binary64 x.toModel.toBits.toBitVec = 0#_ <;>
    simp [noFraction, UnpackedFloat.isFinite] at finite

end Bits

namespace Binary64

theorem ofFloat_of_signClear {x : Float} (clear : x.toBits.toNat < 2 ^ 63) (finite : x.isFinite = true) :
    ∃ m e, ofFloat x = .finite false m e := by
  have field := exponent_ne_of_isFinite finite
  have positive : decide (2 ^ 63 ≤ x.toBits.toNat) = false := decide_eq_false (by omega)
  unfold ofFloat ofBits
  simp only [field, positive, if_false]
  split <;> exact ⟨_, _, rfl⟩

theorem toFloatBits_signClear {b : Binary64} (nonNegative : b.NonNegative) :
    b.toFloatBits.toBits.toNat < 2 ^ 63 := by
  have small := bits_lt_of_nonNegative nonNegative
  refine toBits_ofBits_lt ?_
  rw [UInt64.toNat_ofNat_of_lt' (by unfold UInt64.size; omega)]
  exact small

end Binary64

namespace Decimal

theorem toFloat_signClear (d : Decimal) : (toFloat d).toBits.toNat < 2 ^ 63 := by
  unfold toFloat
  dsimp only
  split_ifs
  · decide +kernel
  · decide +kernel
  · decide +kernel
  · exact Binary64.toFloatBits_signClear (Binary64.nearest_nonNegative _ (by positivity))
  · exact Binary64.toFloatBits_signClear (Binary64.nearest_nonNegative _ (by positivity))

theorem readFloat_of_digit_finite {s : String} {c : Char} {rest : List Char} (chars : s.toList = c :: rest)
    (digit : c.isDigit = true) {x : Float} (read : readFloat? s = some x) (finite : x.isFinite = true) :
    ∃ m e, Binary64.ofFloat x = .finite false m e := by
  rw [readFloat_of_digit chars digit] at read
  obtain ⟨d, -, rfl⟩ := Option.map_eq_some_iff.mp read
  exact Binary64.ofFloat_of_signClear (toFloat_signClear d) finite

end Decimal

end RuleEngine
