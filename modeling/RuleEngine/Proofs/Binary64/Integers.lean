import RuleEngine.Proofs.Decimal.Unsigned

/-! # Integral floats and the floats of integers

`Binary64.toUnpacked` is the float model's unpacking of a bit pattern, so float equality can be
decided on the parts; the float of a natural number below `2^53` is exact, so the float of an
integral float's integer part is the float itself. -/

set_option autoImplicit false

namespace RuleEngine

open Float.Model Float.Model.UnpackedFloat

namespace Binary64

def sign (negative : Bool) : Sign := if negative then .negative else .positive

/-- A value by its parts as the float model unpacks it: zero apart from the other finite values. -/
def toUnpacked : Binary64 → UnpackedFloat
  | .nan => .notANumber
  | .infinity negative => .infinity (sign negative)
  | .finite negative m e =>
    if zero : m = 0 then .zero (sign negative) else .finite (sign negative) m e (Nat.pos_of_ne_zero zero)

/-! ## Unpacking a bit pattern -/

theorem unpackMantissa_toNat (bv : BitVec 64) :
    (@unpackMantissa Format.binary64 bv).toNat = bv.toNat % 2 ^ 52 := by
  simp [unpackMantissa]

theorem ofBitVec_unpackSign (bv : BitVec 64) :
    Sign.ofBitVec (@unpackSign Format.binary64 bv) = sign (decide (2 ^ 63 ≤ bv.toNat)) := by
  have lt := bv.isLt
  have bit : (@unpackSign Format.binary64 bv).toNat = bv.toNat / 2 ^ 63 := by
    simp [unpackSign, Nat.shiftRight_eq_div_pow]
    omega
  unfold Sign.ofBitVec sign
  by_cases top : 2 ^ 63 ≤ bv.toNat
  · have set : (@unpackSign Format.binary64 bv) ≠ 0#1 := fun clear => by
      have := congrArg BitVec.toNat clear
      simp only [bit, BitVec.toNat_zero] at this
      omega
    rw [if_neg set, decide_eq_true top]
    rfl
  · have clear : (@unpackSign Format.binary64 bv) = 0#1 := by
      apply BitVec.eq_of_toNat_eq
      simp only [bit, BitVec.toNat_zero]
      omega
    rw [if_pos clear, decide_eq_false top]
    rfl

theorem unpack_eq_toUnpacked (n : UInt64) :
    UnpackedFloat.unpack Format.binary64 n.toBitVec = (ofBits n).toUnpacked := by
  have exponentField := unpackExponent_toNat n.toBitVec
  have fractionField := unpackMantissa_toNat n.toBitVec
  have signField := ofBitVec_unpackSign n.toBitVec
  simp only [UInt64.toNat_toBitVec] at exponentField fractionField signField
  have allOnes : (@unpackExponent Format.binary64 n.toBitVec = -1#_) ↔
      n.toNat / 2 ^ 52 % 2 ^ 11 = 2047 := by
    rw [← BitVec.toNat_inj, exponentField]
    simp
  have zeroField : (@unpackExponent Format.binary64 n.toBitVec = 0#_) ↔ n.toNat / 2 ^ 52 % 2 ^ 11 = 0 := by
    rw [← BitVec.toNat_inj, exponentField]
    simp
  have noFraction : (@unpackMantissa Format.binary64 n.toBitVec = 0#_) ↔ n.toNat % 2 ^ 52 = 0 := by
    rw [← BitVec.toNat_inj, fractionField]
    simp
  unfold UnpackedFloat.unpack ofBits
  simp only [signField, allOnes, zeroField, noFraction]
  have bias : (Format.binary64.exponentBias : Int) = 1023 := rfl
  split_ifs with exponentOnes fractionZero exponentZero fractionZero'
  · rfl
  · rfl
  · simp only [toUnpacked, dif_pos fractionZero']
  · -- a subnormal: the fraction at the smallest exponent
    simp only [toUnpacked, dif_neg fractionZero', fractionField, exponentField, exponentZero, bias]
    rfl
  · -- a normal value: the implicit bit joins the fraction
    have implicit : (1#1 ++ @unpackMantissa Format.binary64 n.toBitVec).toNat =
        n.toNat % 2 ^ 52 + 2 ^ 52 := by
      rw [BitVec.toNat_append, ← Nat.shiftLeft_add_eq_or_of_lt (unpackMantissa _).isLt, fractionField]
      simp only [Nat.shiftLeft_eq, BitVec.toNat_ofNat]
      omega
    have positive : n.toNat % 2 ^ 52 + 2 ^ 52 ≠ 0 := by omega
    simp only [toUnpacked, dif_neg positive, implicit, exponentField, bias]
    congr 1

theorem unpack_toModel (x : Float) : x.toModel.unpack = (ofFloat x).toUnpacked :=
  unpack_eq_toUnpacked x.toModel.toBits

theorem unpack_modelPack (u : UnpackedFloat) :
    (Float.Model.pack u).unpack =
      UnpackedFloat.unpack Format.binary64 (UnpackedFloat.pack Format.binary64 u) := rfl

theorem packComponents_toNat (s : Sign) (ex : BitVec 11) (fraction : BitVec 52) :
    (packComponents Format.binary64 s ex fraction).toNat =
      s.toBitVec.toNat * 2 ^ 63 + ex.toNat * 2 ^ 52 + fraction.toNat := by
  have exLt := ex.isLt
  have fractionLt := fraction.isLt
  simp only [packComponents, BitVec.toNat_append]
  rw [← Nat.shiftLeft_add_eq_or_of_lt (by simpa using fractionLt),
    ← Nat.shiftLeft_add_eq_or_of_lt (by simpa using exLt)]
  simp only [Nat.shiftLeft_eq]
  ring

theorem sign_decide (s : Sign) {k : Nat} (below : k < 2 ^ 63) :
    sign (decide (2 ^ 63 ≤ s.toBitVec.toNat * 2 ^ 63 + k)) = s := by
  cases s
  · simp [sign, Sign.toBitVec]
  · have small : ¬ 2 ^ 63 ≤ (0#1).toNat * 2 ^ 63 + k := by simpa using below
    simp only [sign, Sign.toBitVec, small, decide_false]
    rfl

theorem unpack_pack_normal (s : Sign) {m : Nat} {e : Int} (positive : 0 < m) (low : 2 ^ 52 ≤ m)
    (high : m < 2 ^ 53) (atLeast : -1074 ≤ e) (atMost : e ≤ 971) :
    UnpackedFloat.unpack Format.binary64 (UnpackedFloat.pack Format.binary64 (.finite s m e positive)) =
      .finite s m e positive := by
  have log : m.log2 = 52 := (Nat.log2_eq_iff positive.ne').mpr ⟨low, high⟩
  have bias : (Format.binary64.exponentBias : Int) = 1023 := rfl
  have packed : UnpackedFloat.pack Format.binary64 (.finite s m e positive) =
      packComponents Format.binary64 s (BitVec.ofNat 11 (e + 1075).toNat) (BitVec.ofNat 52 m) := by
    simp only [UnpackedFloat.pack, log, bias]
    rw [if_neg (by omega), if_pos (show 52 + 1 = Format.binary64.mantissaBits from rfl)]
    congr 2
    omega
  have fields := packComponents_toNat s (BitVec.ofNat 11 (e + 1075).toNat) (BitVec.ofNat 52 m)
  simp only [BitVec.toNat_ofNat] at fields
  have bridge := unpack_eq_toUnpacked (UInt64.ofBitVec
    (packComponents Format.binary64 s (BitVec.ofNat 11 (e + 1075).toNat) (BitVec.ofNat 52 m)))
  rw [UInt64.toBitVec_ofBitVec] at bridge
  rw [packed, bridge]
  have signBit : s.toBitVec.toNat ≤ 1 := by cases s <;> decide
  have exponentField : (s.toBitVec.toNat * 2 ^ 63 + (e + 1075).toNat % 2 ^ 11 * 2 ^ 52 + m % 2 ^ 52) /
      2 ^ 52 % 2 ^ 11 = (e + 1075).toNat := by omega
  have fractionField : (s.toBitVec.toNat * 2 ^ 63 + (e + 1075).toNat % 2 ^ 11 * 2 ^ 52 + m % 2 ^ 52) %
      2 ^ 52 = m % 2 ^ 52 := by omega
  simp only [ofBits, UInt64.toNat_ofBitVec, fields, exponentField, fractionField]
  rw [if_neg (by omega), if_neg (by omega), Nat.add_assoc, toUnpacked, dif_neg (by omega),
    sign_decide s (by omega)]
  congr 1 <;> omega

/-! ## Rounding a value that is already a float -/

theorem shiftRight_exact (M j : Nat) :
    ExtendedMantissa.ofMantissaAndAccuracy (M * 2 ^ j) .exact >>> j =
      ExtendedMantissa.ofMantissaAndAccuracy M .exact := by
  change j.repeat ExtendedMantissa.shiftRightOne _ = _
  induction j generalizing M with
  | zero => simp [Nat.repeat]
  | succ j ih =>
    rw [Nat.repeat, show M * 2 ^ (j + 1) = M * 2 * 2 ^ j by rw [Nat.pow_succ, Nat.mul_assoc, Nat.mul_comm 2],
      ih]
    simp [ExtendedMantissa.shiftRightOne, ExtendedMantissa.ofMantissaAndAccuracy]

theorem shiftToTargetExponent_normal {M : Nat} (j : Nat) {E : Int} (low : 2 ^ 52 ≤ M) (high : M < 2 ^ 53)
    (atLeast : -1074 ≤ E) :
    shiftToTargetExponent Format.binary64 (M * 2 ^ j) (E - j) .exact =
      (ExtendedMantissa.ofMantissaAndAccuracy M .exact, E) := by
  have log : (M * 2 ^ j).log2 = 52 + j := by
    refine (Nat.log2_eq_iff (Nat.mul_ne_zero (by omega) (Nat.two_pow_pos j).ne')).mpr ⟨?_, ?_⟩
    · rw [Nat.pow_add]
      exact Nat.mul_le_mul_right _ low
    · rw [show 52 + j + 1 = 53 + j by omega, Nat.pow_add]
      exact Nat.mul_lt_mul_of_pos_right high (by positivity)
  have target : Format.binary64.targetExponent (totalExponent (M * 2 ^ j) (E - j)) = E := by
    simp only [Format.targetExponent, totalExponent, log, Format.mantissaBits, Format.minExponent]
    omega
  simp only [shiftToTargetExponent, target, shiftToExponent, show (E - (E - j)).toNat = j by omega,
    shiftRight_exact]
  simp

theorem roundWithAccuracy_normal (s : Sign) {M : Nat} (j : Nat) {E : Int} (low : 2 ^ 52 ≤ M)
    (high : M < 2 ^ 53) (atLeast : -1074 ≤ E) :
    roundWithAccuracy Format.binary64 s (M * 2 ^ j) (E - j) .exact = .finite s M E (by omega) := by
  have again := shiftToTargetExponent_normal 0 low high atLeast
  simp only [Nat.pow_zero, Nat.mul_one, Nat.cast_zero, Int.sub_zero] at again
  have rounded : (ExtendedMantissa.ofMantissaAndAccuracy M .exact).roundedMantissa = M := rfl
  have nonZero : M ≠ 0 := by omega
  simp only [roundWithAccuracy, shiftToTargetExponent_normal j low high atLeast, rounded, again]
  exact dif_neg nonZero

theorem scaled_bounds {k j : Nat} (low : 2 ^ 52 ≤ k * 2 ^ j) (high : k * 2 ^ j < 2 ^ 53) :
    0 < k ∧ j ≤ 52 := by
  have positive : 0 < k := Nat.pos_of_ne_zero fun zero => by simp [zero] at low
  have below : 2 ^ j < 2 ^ 53 := lt_of_le_of_lt (Nat.le_mul_of_pos_left _ positive) high
  exact ⟨positive, Nat.lt_succ_iff.mp ((Nat.pow_lt_pow_iff_right (by decide)).mp below)⟩

theorem round_scaled (s : Sign) {k j : Nat} (low : 2 ^ 52 ≤ k * 2 ^ j) (high : k * 2 ^ j < 2 ^ 53) :
    UnpackedFloat.round Format.binary64 s k 0 = .finite s (k * 2 ^ j) (-j) (by omega) := by
  obtain ⟨positive, short⟩ := scaled_bounds low high
  have log : k.log2 = 52 - j := by
    refine (Nat.log2_eq_iff positive.ne').mpr ⟨?_, ?_⟩
    · apply Nat.le_of_mul_le_mul_right _ (Nat.two_pow_pos j)
      rwa [← Nat.pow_add, Nat.sub_add_cancel short]
    · apply Nat.lt_of_mul_lt_mul_right (a := 2 ^ j)
      rwa [← Nat.pow_add, show 52 - j + 1 + j = 53 by omega]
  have target : Format.binary64.targetExponent (totalExponent k 0) = -j := by
    simp only [Format.targetExponent, totalExponent, log, Format.mantissaBits, Format.minExponent]
    omega
  have scaled := roundWithAccuracy_normal s 0 low high (E := -j) (by omega)
  simp only [Nat.pow_zero, Nat.mul_one, Nat.cast_zero, Int.sub_zero] at scaled
  simp only [UnpackedFloat.round, target, decreaseExponent, show (0 - -(j : Int)).toNat = j by omega,
    Nat.shiftLeft_eq]
  rw [show (0 : Int) - j = -j by omega, scaled]

theorem unpack_pack_scaled (s : Sign) {k j : Nat} (low : 2 ^ 52 ≤ k * 2 ^ j) (high : k * 2 ^ j < 2 ^ 53) :
    UnpackedFloat.unpack Format.binary64
        (UnpackedFloat.pack Format.binary64 (.finite s (k * 2 ^ j) (-j) (by omega))) =
      .finite s (k * 2 ^ j) (-j) (by omega) := by
  obtain ⟨-, short⟩ := scaled_bounds low high
  exact unpack_pack_normal s _ low high (by omega) (by omega)

theorem unpack_ofNat {k j : Nat} (low : 2 ^ 52 ≤ k * 2 ^ j) (high : k * 2 ^ j < 2 ^ 53) :
    (Float.ofNat k).toModel.unpack = .finite .positive (k * 2 ^ j) (-j) (by omega) := by
  obtain ⟨positive, short⟩ := scaled_bounds low high
  have small : k < 2 ^ 53 := lt_of_le_of_lt (Nat.le_mul_of_pos_right _ (Nat.two_pow_pos j)) high
  -- below `2^53` the float of a number is the number's float times one
  have fast : Float.ofNat k = k.toUInt64.toFloat * Float.ofBits 0x3FF0000000000000 := by
    simp only [Float.ofNat, OfScientific.ofScientific, Float.ofScientific]
    rw [dif_pos ⟨small, by decide⟩]
    rfl
  have one : (Float.ofBits 0x3FF0000000000000).toModel.unpack =
      .finite .positive (2 ^ 52) (-52) (by decide) := rfl
  have converted : (k.toUInt64.toFloat).toModel =
      Float.Model.pack (UnpackedFloat.round Format.binary64 .positive k 0) := by
    have toNat : k.toUInt64.toNat = k := UInt64.toNat_ofNat_of_lt' (by unfold UInt64.size; omega)
    have sign : compare (k : Int) 0 = .gt := by
      rw [compare_gt_iff_gt]
      omega
    simp only [UInt64.toFloat, Float.Model.ofUInt64, UnpackedFloat.ofUInt64, UnpackedFloat.ofNat,
      UnpackedFloat.ofInt, UnpackedFloat.normalize, toNat, sign]
    rfl
  have factor := unpack_pack_scaled .positive low high
  have product := roundWithAccuracy_normal .positive 52 low high (E := -j) (by omega)
  have widened : (Float.Model.pack (UnpackedFloat.round Format.binary64 .positive k 0)).unpack =
      .finite .positive (k * 2 ^ j) (-j) (by omega) := by
    rw [unpack_modelPack, round_scaled .positive low high, factor]
  rw [fast]
  show (Float.Model.mul _ _).unpack = _
  rw [Float.Model.mul, converted, widened, one, unpack_modelPack]
  simp only [UnpackedFloat.mul]
  rw [show Sign.positive * Sign.positive = Sign.positive from rfl,
    show -(j : Int) + -52 = -j - (52 : Nat) by omega, product, factor]

/-! ## Integral floats -/

theorem integral_parts {negative : Bool} {m : Nat} {e : Int} (canonical : Canonical m e) (positive : 0 < m)
    (integral : (finite negative m e).isIntegral = true)
    (small : (finite negative m e).truncate.natAbs < 2 ^ 53) :
    ∃ k j : Nat, m = k * 2 ^ j ∧ e = -j ∧
      (finite negative m e).truncate = (if negative then -(k : Int) else k) ∧ 2 ^ 52 ≤ m ∧ m < 2 ^ 53 := by
  rcases canonical with ⟨low, high, -, -⟩ | ⟨short, rfl⟩
  · by_cases nonNegative : 0 ≤ e
    · -- a positive exponent would double the significand past `2^53`
      have zero : e = 0 := by
        have magnitude : m * 2 ^ e.toNat < 2 ^ 53 := by
          cases negative <;>
            simpa only [truncate, nonNegative, ↓reduceIte, Bool.false_eq_true, Int.natAbs_neg,
              Int.natAbs_natCast] using small
        by_contra nonZero
        have doubled : 2 ≤ 2 ^ e.toNat := Nat.le_self_pow (by omega) 2
        have : 2 ^ 52 * 2 ≤ m * 2 ^ e.toNat := Nat.mul_le_mul low doubled
        omega
      subst zero
      refine ⟨m, 0, by simp, by simp, ?_, low, high⟩
      cases negative <;> simp [truncate]
    · have divides : 2 ^ e.natAbs ∣ m := by
        simp only [isIntegral, nonNegative, decide_false, Bool.false_or, beq_iff_eq] at integral
        exact Nat.dvd_of_mod_eq_zero integral
      refine ⟨m / 2 ^ e.natAbs, e.natAbs, (Nat.div_mul_cancel divides).symm, by omega, ?_, low, high⟩
      cases negative <;> simp [truncate, nonNegative]
  · -- a subnormal value is below one, so it is integral only when zero
    simp only [isIntegral, minExponent, Int.reduceLE, decide_false, Bool.false_or, beq_iff_eq] at integral
    have : m % 2 ^ (-1074 : Int).natAbs = m := Nat.mod_eq_of_lt (by
      calc m < 2 ^ 52 := short
        _ ≤ _ := Nat.pow_le_pow_right (by decide) (by decide))
    omega

theorem beq_eq_unpack (x y : Float) : (x == y) = x.toModel.unpack.beq y.toModel.unpack := rfl

theorem beq_self_of_isFinite {x : Float} (finite : x.isFinite = true) : (x == x) = true := by
  rw [beq_eq_unpack]
  change x.toModel.unpack.isFinite = true at finite
  generalize x.toModel.unpack = u at finite ⊢
  cases u with
  | notANumber | infinity => simp [UnpackedFloat.isFinite] at finite
  | zero => rfl
  | finite s m e _ => cases s <;> simp [UnpackedFloat.beq, UnpackedFloat.compare]

theorem beq_comm (x y : Float) : (x == y) = (y == x) := by
  rw [beq_eq_unpack, beq_eq_unpack]
  generalize x.toModel.unpack = a
  generalize y.toModel.unpack = b
  rcases a with s | _ | s | ⟨s, m, e, _⟩ <;> rcases b with t | _ | t | ⟨t, n, f, _⟩ <;>
    (try cases s) <;> (try cases t) <;> simp [UnpackedFloat.beq, UnpackedFloat.compare] <;>
    exact ⟨fun ⟨same, same'⟩ => ⟨same.symm, same'.symm⟩, fun ⟨same, same'⟩ => ⟨same.symm, same'.symm⟩⟩

theorem isFinite_of_isIntegral {x : Float} (integral : (ofFloat x).isIntegral = true) : x.isFinite = true := by
  change x.toModel.unpack.isFinite = true
  rw [unpack_toModel]
  cases parts : ofFloat x with
  | nan | infinity => simp [parts, isIntegral] at integral
  | finite negative m e => by_cases zero : m = 0 <;> simp [toUnpacked, zero, UnpackedFloat.isFinite]

theorem ofInt_truncate_beq {x : Float} (integral : (ofFloat x).isIntegral = true)
    (small : (ofFloat x).truncate.natAbs < 2 ^ 53) : (Float.ofInt (ofFloat x).truncate == x) = true := by
  rw [beq_eq_unpack, unpack_toModel x]
  cases parts : ofFloat x with
  | nan | infinity => simp [parts, isIntegral] at integral
  | finite negative m e =>
    rw [parts] at integral small
    rcases Nat.eq_zero_or_pos m with rfl | positive
    · -- zero, of either sign, is the float of the integer zero
      have zero : (finite negative 0 e).truncate = 0 := by cases negative <;> simp [truncate]
      rw [zero]
      cases negative <;> rfl
    · obtain ⟨k, j, rfl, rfl, truncated, low, high⟩ :=
        integral_parts (canonical_of_ofBits parts) positive integral small
      have exact := unpack_ofNat low high
      have notZero : k * 2 ^ j ≠ 0 := by omega
      rw [truncated]
      cases negative with
      | false =>
        show (Float.ofNat k).toModel.unpack.beq _ = true
        rw [exact]
        simp [toUnpacked, notZero, sign, UnpackedFloat.beq, UnpackedFloat.compare]
      | true =>
        obtain ⟨positiveK, -⟩ := scaled_bounds low high
        have negated : Float.ofInt (-(k : Int)) = Float.neg (Float.ofNat k) := by
          obtain ⟨n, rfl⟩ := Nat.exists_eq_add_of_lt positiveK
          rfl
        have repacked := unpack_pack_scaled .negative low high
        simp only [if_true, negated]
        show (Float.Model.pack (Float.ofNat k).toModel.unpack.neg).unpack.beq _ = true
        rw [exact, unpack_modelPack, UnpackedFloat.neg, show -Sign.positive = Sign.negative from rfl, repacked]
        simp [toUnpacked, notZero, sign, UnpackedFloat.beq, UnpackedFloat.compare]

end Binary64

end RuleEngine
