import Mathlib
import RuleEngine.Binary64.Basic

/-! # Bit patterns and rounding to the nearest binary64 value

A float is the float of its own bit pattern, and `Binary64.nearest` rounds every fraction of a
value's rounding interval (`RoundsTo`) to that value. -/
set_option autoImplicit false
namespace RuleEngine

section Bits
open Float.Model Float.Model.UnpackedFloat

theorem packComponents_fields (bv : BitVec Format.binary64.numBits) :
    packComponents Format.binary64 (Sign.ofBitVec (unpackSign bv)) (unpackExponent bv)
      (unpackMantissa bv) = bv := by
  apply BitVec.eq_of_toNat_eq
  simp only [packComponents, BitVec.toNat_append, Sign.toBitVec_ofBitVec]
  simp [unpackSign, unpackExponent, unpackMantissa]
  have lt : bv.toNat < 2 ^ 64 := bv.isLt
  rw [← Nat.shiftLeft_add_eq_or_of_lt (by omega), ← Nat.shiftLeft_add_eq_or_of_lt (by omega)]
  simp only [Nat.shiftLeft_eq, Nat.shiftRight_eq_div_pow, Nat.reducePow] at lt ⊢
  omega

theorem packComponents_eq_of_fields {bv : BitVec Format.binary64.numBits}
    {ex : BitVec Format.binary64.exponentBits} {fraction : BitVec Format.binary64.mantissaBitsWithoutImplicit}
    (exField : unpackExponent bv = ex)
    (fractionField : unpackMantissa bv = fraction) :
    packComponents Format.binary64 (Sign.ofBitVec (unpackSign bv)) ex
      fraction = bv := by
  subst exField fractionField
  exact packComponents_fields bv

theorem pack_unpack_of_valid {bv : BitVec Format.binary64.numBits} (valid : Format.binary64.Valid bv) :
    UnpackedFloat.pack Format.binary64 (UnpackedFloat.unpack Format.binary64 bv) = bv := by
  have fractionLt : (unpackMantissa bv).toNat < 2 ^ 52 :=
    (unpackMantissa bv).isLt
  have exLt : (unpackExponent bv).toNat < 2 ^ 11 :=
    (unpackExponent bv).isLt
  rw [UnpackedFloat.unpack]
  split
  · rename_i allOnes
    split
    · rename_i noFraction
      exact packComponents_eq_of_fields allOnes noFraction
    · rename_i someFraction
      exact (valid.eq_packedNaN allOnes someFraction).symm
  · rename_i notAllOnes
    split
    · rename_i zeroField
      split
      · rename_i noFraction
        exact packComponents_eq_of_fields zeroField noFraction
      · rename_i someFraction
        -- a subnormal: its fraction has fewer than 52 bits and its biased exponent is 1
        have exZero : (unpackExponent bv).toNat = 0 := by
          rw [zeroField]; rfl
        have short : ¬ (unpackMantissa bv).toNat.log2 + 1 =
            Format.binary64.mantissaBits := by
          have := (Nat.log2_lt (by simpa [← BitVec.toNat_inj] using someFraction)).mpr fractionLt
          rw [show Format.binary64.mantissaBits = 53 from rfl]
          omega
        rw [UnpackedFloat.pack]
        simp only [exZero]
        rw [if_neg (by decide), if_neg short]
        exact packComponents_eq_of_fields zeroField (by rw [BitVec.ofNat_toNat, BitVec.setWidth_eq])
    · rename_i notZero
      -- a normal value: the implicit bit makes the significand 53 bits long
      have exNotAllOnes : (unpackExponent bv).toNat ≠ 2047 := fun h =>
        notAllOnes (BitVec.toNat_inj.mp (by simpa using h))
      have exNotZero : (unpackExponent bv).toNat ≠ 0 := fun h =>
        notZero (BitVec.toNat_inj.mp (by simpa using h))
      have implicit : (1#1 ++ unpackMantissa bv).toNat =
          2 ^ 52 + (unpackMantissa bv).toNat := by
        rw [BitVec.toNat_append, ← Nat.shiftLeft_add_eq_or_of_lt fractionLt]
        simp [Nat.shiftLeft_eq]
      have long : (1#1 ++ unpackMantissa bv).toNat.log2 + 1 =
          Format.binary64.mantissaBits := by
        rw [implicit, show Format.binary64.mantissaBits = 53 from rfl]
        have atLeast := (Nat.le_log2 (by omega)).mpr (show 2 ^ 52 ≤ 2 ^ 52 +
          (unpackMantissa bv).toNat by omega)
        have below := (Nat.log2_lt (by omega)).mpr (show 2 ^ 52 +
          (unpackMantissa bv).toNat < 2 ^ 53 by omega)
        omega
      rw [UnpackedFloat.pack]
      simp only
      rw [if_neg (by simp only [Format.binary64]; omega), if_pos long]
      refine packComponents_eq_of_fields ?_ ?_
      · apply BitVec.eq_of_toNat_eq
        simp only [BitVec.toNat_ofNat]
        omega
      · apply BitVec.eq_of_toNat_eq
        simp only [BitVec.toNat_ofNat, implicit]
        omega

theorem ofBits_toBits (x : Float) : Float.ofBits x.toBits = x := by
  obtain ⟨⟨bits, valid⟩⟩ := x
  have repack := pack_unpack_of_valid valid
  simp only [Float.ofBits, Float.toBits, Float.Model.ofBits, Float.Model.pack, repack]

end Bits

namespace Binary64

theorem bits_ofBits (n : UInt64) (notNaN : ofBits n ≠ .nan) : (ofBits n).bits = n.toNat := by
  have lt : n.toNat < 2 ^ 64 := n.toNat_lt_size
  unfold ofBits at notNaN ⊢
  generalize n.toNat = N at lt notNaN ⊢
  simp only at notNaN ⊢
  have sign : (if decide (2 ^ 63 ≤ N) then 2 ^ 63 else 0) = N / 2 ^ 63 * 2 ^ 63 := by
    by_cases top : 2 ^ 63 ≤ N
    · simp only [top, decide_true, if_true]
      omega
    · simp only [top, decide_false, Bool.false_eq_true, if_false]
      omega
  split_ifs at notNaN ⊢ with allOnes noFraction subnormal
  · -- an infinity: all exponent bits set, no fraction
    simp only [bits, sign]
    omega
  · exact absurd rfl notNaN
  · -- a subnormal or zero: the fraction is the significand
    have short : N % 2 ^ 52 < 2 ^ 52 := Nat.mod_lt _ (by decide)
    simp only [bits, sign, short, if_true]
    omega
  · -- a normal value: the implicit bit is set and the exponent field is the biased exponent
    have long : ¬ N % 2 ^ 52 + 2 ^ 52 < 2 ^ 52 := by omega
    simp only [bits, sign, long, if_false]
    omega

theorem toFloatBits_ofFloat (x : Float) (notNaN : ofFloat x ≠ .nan) : (ofFloat x).toFloatBits = x := by
  rw [toFloatBits, ofFloat, bits_ofBits _ notNaN, UInt64.ofNat_toNat, ofBits_toBits]

/-- The parts `ofBits` reads: a 53-bit significand at an exponent in range, or a shorter one at the
smallest exponent. -/
def Canonical (m : Nat) (e : Int) : Prop :=
  (2 ^ 52 ≤ m ∧ m < 2 ^ 53 ∧ minExponent ≤ e ∧ e ≤ maxExponent) ∨ (m < 2 ^ 52 ∧ e = minExponent)

theorem canonical_of_ofBits {n : UInt64} {negative : Bool} {m : Nat} {e : Int}
    (parts : ofBits n = .finite negative m e) : Canonical m e := by
  have lt := n.toNat_lt_size
  simp only [UInt64.size] at lt
  unfold ofBits at parts
  simp only at parts
  split_ifs at parts with allOnes noFraction zero <;> simp only [finite.injEq] at parts
  · exact .inr ⟨by omega, parts.2.2.symm⟩
  · left
    simp only [minExponent, maxExponent]
    omega

/-! ## Rounding to the nearest value -/

/-- `x` lies within a half of the integer `m`, on the half only when `m` is even. -/
def Near (m : Nat) (x : ℚ) : Prop :=
  (m : ℚ) - 1 / 2 ≤ x ∧ x ≤ m + 1 / 2 ∧ (x = m - 1 / 2 ∨ x = m + 1 / 2 → m % 2 = 0)

/-- The rationals that round to `m·2^e`, in units of `2^e`: half a unit each side, a quarter below a
binade's smallest significand. -/
def RoundsTo (m : Nat) (e : Int) (r : ℚ) : Prop :=
  let x := r / 2 ^ e
  let low : ℚ := if narrowBelow m e then m - 1 / 4 else m - 1 / 2
  if m % 2 = 0 then low ≤ x ∧ x ≤ m + 1 / 2 else low < x ∧ x < m + 1 / 2

theorem roundHalfEven_of_near {n d m : Nat} (pos : 0 < d) (low : 2 * m * d ≤ 2 * n + d)
    (high : 2 * n ≤ 2 * m * d + d)
    (tie : 2 * m * d = 2 * n + d ∨ 2 * n = 2 * m * d + d → m % 2 = 0) :
    (if d < 2 * (n % d) || (2 * (n % d) = d && n / d % 2 = 1) then n / d + 1 else n / d) = m := by
  have split : d * (n / d) + n % d = n := Nat.div_add_mod n d
  have rLt : n % d < d := Nat.mod_lt n pos
  generalize n / d = q at split ⊢
  generalize n % d = r at split rLt ⊢
  subst split
  have notAbove : q ≤ m := by
    have : d * (2 * q) < d * (2 * m + 2) := by nlinarith
    have := Nat.lt_of_mul_lt_mul_left this
    omega
  have notBelow : m ≤ q + 1 := by
    have : d * (2 * m) < d * (2 * q + 3) := by nlinarith
    have := Nat.lt_of_mul_lt_mul_left this
    omega
  rcases Nat.eq_or_lt_of_le notAbove with rfl | below
  · -- at `m`, the remainder is at most half the divisor, and half only when `m` is even
    have half : 2 * r ≤ d := by nlinarith
    have evenAtHalf : 2 * r = d → q % 2 = 0 := fun h => tie (Or.inr (by rw [← h]; ring))
    by_cases h : 2 * r = d
    · simp [h, evenAtHalf h]
    · simp [h]
      omega
  · -- one below `m`, the remainder is at least half the divisor, and half only when `m` is even
    obtain rfl : m = q + 1 := by omega
    have half : d ≤ 2 * r := by nlinarith
    have oddAtHalf : 2 * r = d → q % 2 = 1 := fun h => by
      have := tie (Or.inl (by rw [← h]; ring))
      omega
    by_cases h : 2 * r = d
    · simp [h, oddAtHalf h]
    · have : d < 2 * r := by omega
      simp [this]

theorem near_nat {n d m : Nat} (pos : 0 < d) (near : Near m ((n : ℚ) / d)) :
    2 * m * d ≤ 2 * n + d ∧ 2 * n ≤ 2 * m * d + d ∧
      (2 * m * d = 2 * n + d ∨ 2 * n = 2 * m * d + d → m % 2 = 0) := by
  obtain ⟨low, high, tie⟩ := near
  have dPos : (0 : ℚ) < d := by exact_mod_cast pos
  rw [le_div_iff₀ dPos] at low
  rw [div_le_iff₀ dPos] at high
  refine ⟨?_, ?_, fun ends => tie ?_⟩
  · have : ((2 * m * d : ℕ) : ℚ) ≤ ((2 * n + d : ℕ) : ℚ) := by push_cast; linarith
    exact_mod_cast this
  · have : ((2 * n : ℕ) : ℚ) ≤ ((2 * m * d + d : ℕ) : ℚ) := by push_cast; linarith
    exact_mod_cast this
  · rcases ends with lowEnd | highEnd
    · have : ((2 * m * d : ℕ) : ℚ) = ((2 * n + d : ℕ) : ℚ) := by exact_mod_cast lowEnd
      push_cast at this
      left
      field_simp
      linarith
    · have : ((2 * n : ℕ) : ℚ) = ((2 * m * d + d : ℕ) : ℚ) := by exact_mod_cast highEnd
      push_cast at this
      right
      field_simp
      linarith

theorem scaled_pos (a : Nat) {b : Nat} (hb : 0 < b) (e : Int) : 0 < (scaled a b e).2 := by
  unfold scaled
  split <;> positivity

theorem scaled_ratio (a : Nat) {b : Nat} (hb : 0 < b) (e : Int) :
    ((scaled a b e).1 : ℚ) / (scaled a b e).2 = (a : ℚ) / b / 2 ^ e := by
  unfold scaled
  split
  · rename_i negative
    have power : (2 : ℚ) ^ e = ((2 : ℚ) ^ e.natAbs)⁻¹ := by
      rw [← zpow_natCast, ← zpow_neg]
      congr 1
      omega
    rw [power]
    push_cast
    field_simp
  · rename_i nonNegative
    have power : (2 : ℚ) ^ e = (2 : ℚ) ^ e.toNat := by
      rw [← zpow_natCast]
      congr 1
      omega
    rw [power]
    push_cast
    rw [div_div]

theorem roundAt_eq_of_near {a b m : Nat} {e : Int} (hb : 0 < b)
    (near : Near m ((a : ℚ) / b / 2 ^ e)) : roundAt a b e = m := by
  rw [← scaled_ratio a hb e] at near
  obtain ⟨low, high, tie⟩ := near_nat (scaled_pos a hb e) near
  unfold roundAt
  exact roundHalfEven_of_near (scaled_pos a hb e) low high tie

theorem log_eq_of_bounds {r : ℚ} (pos : 0 < r) {k : Int} (low : (2 : ℚ) ^ k ≤ r)
    (high : r < (2 : ℚ) ^ (k + 1)) : Int.log 2 r = k := by
  have atLeast := (Int.zpow_le_iff_le_log (b := 2) (by norm_num) pos).mp (by exact_mod_cast low)
  have below := (Int.lt_zpow_iff_log_lt (b := 2) (by norm_num) pos).mp (by exact_mod_cast high)
  omega

theorem floorLog2_eq_log {a b : Nat} (ha : 0 < a) (hb : 0 < b) :
    floorLog2 a b = Int.log 2 ((a : ℚ) / b) := by
  have rPos : (0 : ℚ) < (a : ℚ) / b := by positivity
  have bPos : (0 : ℚ) < b := by exact_mod_cast hb
  have aLow : (2 : ℚ) ^ a.log2 ≤ a := by exact_mod_cast Nat.log2_self_le (by omega)
  have aHigh : (a : ℚ) < 2 ^ (a.log2 + 1) := by exact_mod_cast Nat.lt_log2_self
  have bLow : (2 : ℚ) ^ b.log2 ≤ b := by exact_mod_cast Nat.log2_self_le (by omega)
  have bHigh : (b : ℚ) < 2 ^ (b.log2 + 1) := by exact_mod_cast Nat.lt_log2_self
  set k : Int := (a.log2 : Int) - b.log2 with hk
  have powerK : (2 : ℚ) ^ k * 2 ^ b.log2 = 2 ^ a.log2 := by
    rw [← zpow_natCast, ← zpow_natCast, ← zpow_add₀ two_ne_zero, hk]
    congr 1
    ring
  have above : (2 : ℚ) ^ (k - 1) < (a : ℚ) / b := by
    rw [lt_div_iff₀ bPos, zpow_sub₀ two_ne_zero, zpow_one]
    have : (2 : ℚ) ^ k * b < 2 ^ k * 2 ^ (b.log2 + 1) := by gcongr
    rw [pow_succ] at this
    nlinarith
  have below : (a : ℚ) / b < 2 ^ (k + 1) := by
    rw [div_lt_iff₀ bPos, zpow_add_one₀ two_ne_zero]
    have : (2 : ℚ) ^ k * 2 ^ b.log2 ≤ 2 ^ k * b := by gcongr
    rw [pow_succ] at aHigh
    nlinarith
  have test : (scaled a b k).2 ≤ (scaled a b k).1 ↔ (2 : ℚ) ^ k ≤ (a : ℚ) / b := by
    have dPos : (0 : ℚ) < (scaled a b k).2 := by exact_mod_cast scaled_pos a hb k
    rw [← Nat.cast_le (α := ℚ), ← one_le_div dPos, scaled_ratio a hb k,
      one_le_div (zpow_pos two_pos k)]
  unfold floorLog2
  simp only [← hk]
  split
  · rename_i atLeast
    exact (log_eq_of_bounds rPos (test.mp atLeast) below).symm
  · rename_i notAtLeast
    refine (log_eq_of_bounds rPos above.le ?_).symm
    rw [sub_add_cancel]
    exact lt_of_not_ge (fun h => notAtLeast (test.mpr h))

theorem exponent_eq {a b : Nat} {e : Int} (ha : 0 < a) (hb : 0 < b) (atLeast : minExponent ≤ e)
    (below : (a : ℚ) / b / 2 ^ e < 2 ^ 53)
    (above : 2 ^ 52 ≤ (a : ℚ) / b / 2 ^ e ∨ e = minExponent) :
    max minExponent (floorLog2 a b - 52) = e := by
  have rPos : (0 : ℚ) < (a : ℚ) / b := by positivity
  have unit : (0 : ℚ) < 2 ^ e := zpow_pos two_pos e
  rw [floorLog2_eq_log ha hb]
  have logBelow : Int.log 2 ((a : ℚ) / b) < e + 53 := by
    refine (Int.lt_zpow_iff_log_lt (b := 2) (by norm_num) rPos).mp ?_
    rw [div_lt_iff₀ unit] at below
    push_cast
    rw [zpow_add₀ two_ne_zero, mul_comm]
    exact_mod_cast below
  rcases above with above | smallest
  · have logAbove : e + 52 ≤ Int.log 2 ((a : ℚ) / b) := by
      refine (Int.zpow_le_iff_le_log (b := 2) (by norm_num) rPos).mp ?_
      rw [le_div_iff₀ unit] at above
      push_cast
      rw [zpow_add₀ two_ne_zero, mul_comm]
      exact_mod_cast above
    omega
  · omega

theorem RoundsTo.bounds {m : Nat} {e : Int} {r : ℚ} (rounds : RoundsTo m e r) :
    (if narrowBelow m e then (m : ℚ) - 1 / 4 else m - 1 / 2) ≤ r / 2 ^ e ∧
      r / 2 ^ e ≤ m + 1 / 2 ∧
      (r / 2 ^ e = (if narrowBelow m e then (m : ℚ) - 1 / 4 else m - 1 / 2) ∨
        r / 2 ^ e = m + 1 / 2 → m % 2 = 0) := by
  dsimp only [RoundsTo] at rounds
  generalize (if narrowBelow m e then (m : ℚ) - 1 / 4 else m - 1 / 2) = low at rounds ⊢
  split at rounds
  · rename_i even
    exact ⟨rounds.1, rounds.2, fun _ => even⟩
  · obtain ⟨above, below⟩ := rounds
    refine ⟨above.le, below.le, ?_⟩
    rintro (atLow | atHigh)
    · exact absurd atLow (ne_of_gt above)
    · exact absurd atHigh (ne_of_lt below)

theorem RoundsTo.between {m : Nat} {e : Int} {r : ℚ} (canonical : Canonical m e) (pos : 0 < m)
    (rounds : RoundsTo m e r) : (2 : ℚ) ^ (-1075 : Int) ≤ r ∧ r < 2 ^ (1024 : Int) := by
  obtain ⟨low, high, -⟩ := rounds.bounds
  have unit : (0 : ℚ) < 2 ^ e := zpow_pos two_pos e
  have mAtLeast : (1 : ℚ) ≤ m := by exact_mod_cast pos
  have short : (m : ℚ) + 1 ≤ 2 ^ 53 := by
    rcases canonical with ⟨-, lt, -⟩ | ⟨lt, -⟩ <;> exact_mod_cast (by omega : m + 1 ≤ 2 ^ 53)
  have eAtLeast : (-1074 : Int) ≤ e := by
    rcases canonical with ⟨-, -, atLeast, -⟩ | ⟨-, smallest⟩ <;> simp [minExponent] at * <;> omega
  have eAtMost : e ≤ 971 := by
    rcases canonical with ⟨-, -, -, atMost⟩ | ⟨-, smallest⟩ <;> simp [maxExponent, minExponent] at * <;>
      omega
  have halfUnit : (1 : ℚ) / 2 ≤ r / 2 ^ e := by split at low <;> linarith
  have belowTop : r / 2 ^ e < 2 ^ 53 := by linarith
  rw [le_div_iff₀ unit] at halfUnit
  rw [div_lt_iff₀ unit] at belowTop
  constructor
  · calc (2 : ℚ) ^ (-1075 : Int) = 1 / 2 * 2 ^ (-1074 : Int) := by
          rw [show (-1075 : Int) = -1 + -1074 by norm_num, zpow_add₀ two_ne_zero, zpow_neg_one]
          ring
      _ ≤ 1 / 2 * 2 ^ e := by gcongr; norm_num
      _ ≤ r := halfUnit
  · calc r < 2 ^ 53 * 2 ^ e := belowTop
      _ ≤ 2 ^ 53 * 2 ^ (971 : Int) := by gcongr; norm_num
      _ = 2 ^ (1024 : Int) := by
          rw [← zpow_natCast, ← zpow_add₀ two_ne_zero]
          norm_num

theorem nearest_eq_of_roundsTo {a b m : Nat} {e : Int} (hb : 0 < b) (canonical : Canonical m e)
    (pos : 0 < m) (rounds : RoundsTo m e ((a : ℚ) / b)) : nearest a b = .finite false m e := by
  obtain ⟨low, high, tie⟩ := rounds.bounds
  have eAtLeast : minExponent ≤ e := by
    rcases canonical with ⟨-, -, atLeast, -⟩ | ⟨-, smallest⟩ <;> omega
  have eAtMost : ¬ maxExponent < e := by
    rcases canonical with ⟨-, -, -, atMost⟩ | ⟨-, smallest⟩ <;> simp [maxExponent, minExponent] at * <;> omega
  have short : m + 1 ≤ 2 ^ 53 := by
    rcases canonical with ⟨-, lt, -⟩ | ⟨lt, -⟩ <;> omega
  have binade : 2 ^ 52 ≤ m ∨ e = minExponent := by
    rcases canonical with ⟨atLeast, -⟩ | ⟨-, smallest⟩
    · exact Or.inl atLeast
    · exact Or.inr smallest
  set x := (a : ℚ) / b / 2 ^ e with hx
  have mAtLeast : (1 : ℚ) ≤ m := by exact_mod_cast pos
  have mBelow : (m : ℚ) + 1 ≤ 2 ^ 53 := by exact_mod_cast short
  have xPos : 0 < x := by split at low <;> linarith
  have ha : 0 < a := by
    rcases Nat.eq_zero_or_pos a with zero | positive
    · simp [hx, zero] at xPos
    · exact positive
  by_cases lowerQuarter : narrowBelow m e ∧ x < m
  · -- just below the smallest significand of a binade: half a unit of the binade below
    obtain ⟨narrow, xBelow⟩ := lowerQuarter
    have narrow' := narrow
    simp only [narrowBelow, Bool.and_eq_true, decide_eq_true_eq] at narrow'
    obtain ⟨rfl, aboveMin⟩ := narrow'
    simp only [narrow, if_true] at low
    push_cast at low xBelow
    have halfUnit : (a : ℚ) / b / 2 ^ (e - 1) = 2 * x := by
      rw [zpow_sub₀ two_ne_zero, zpow_one, hx]
      field_simp
    have near : Near (2 ^ 53) ((a : ℚ) / b / 2 ^ (e - 1)) := by
      rw [halfUnit]
      push_cast
      exact ⟨by linarith, by linarith, fun _ => by norm_num⟩
    have exponent : max minExponent (floorLog2 a b - 52) = e - 1 := by
      refine exponent_eq ha hb (by omega) ?_ (Or.inl ?_) <;> rw [halfUnit] <;> linarith
    simp only [nearest, Nat.pos_iff_ne_zero.mp ha, if_false, exponent, roundAt_eq_of_near hb near,
      if_true, sub_add_cancel, eAtMost]
  · -- within half a unit of `m`
    have lowEnd : (m : ℚ) - 1 / 2 ≤ x := by
      split at low
      · rename_i narrow
        have : (m : ℚ) ≤ x := not_lt.mp fun h => lowerQuarter ⟨narrow, h⟩
        linarith
      · exact low
    have near : Near m x := by
      refine ⟨lowEnd, high, fun ends => tie ?_⟩
      rcases ends with atLow | atHigh
      · left
        split
        · rename_i narrow
          have : (m : ℚ) ≤ x := not_lt.mp fun h => lowerQuarter ⟨narrow, h⟩
          linarith
        · exact atLow
      · exact Or.inr atHigh
    have above : 2 ^ 52 ≤ x ∨ e = minExponent := by
      by_cases xLow : (2 : ℚ) ^ 52 ≤ x
      · exact Or.inl xLow
      · right
        rcases binade with mLow | smallest
        · -- below `2^52` only from the smallest significand, whose interval is then symmetric
          have mIs : m = 2 ^ 52 := by
            have : (m : ℚ) < 2 ^ 52 + 1 := by linarith
            have : m < 2 ^ 52 + 1 := by exact_mod_cast this
            omega
          have notNarrow : ¬ narrowBelow m e := fun narrow =>
            lowerQuarter ⟨narrow, by rw [mIs]; push_cast; linarith⟩
          simp [narrowBelow, mIs] at notNarrow
          omega
        · exact smallest
    have exponent : max minExponent (floorLog2 a b - 52) = e :=
      exponent_eq ha hb eAtLeast (by linarith) above
    have notCarry : m ≠ 2 ^ 53 := by omega
    simp only [nearest, Nat.pos_iff_ne_zero.mp ha, if_false, exponent, roundAt_eq_of_near hb near,
      notCarry, eAtMost]

end Binary64

end RuleEngine
