import Mathlib
import Dashwright.Number.Fixed

/-!
The exact values of doubles. Every finite double unpacks to a canonical significand and exponent
(`unpack_finite_canonical`), so its value determines it: two doubles that are not NaN are equal
exactly when their values are (`beq_iff_value`), and an integer compares equal to a double exactly
when it is the double's value (`compareIntFloat_eq_iff`). A whole number below `2^53` is a double
exactly: rounded over any positive denominator it gives its own unpacked form
(`nearestUnpacked_whole`), that form packs and unpacks to itself, and the double's exact value
and its comparison with the integer give the number back.
-/

namespace Dashwright.Number

open Float.Model UnpackedFloat

theorem unpackSign_packComponents {spec : Format} {sign : Sign} {exponent mantissa} :
    unpackSign (packComponents spec sign exponent mantissa) = sign.toBitVec := by
  ext i hi
  simp [unpackSign, packComponents, BitVec.getLsbD_append]
  rw [if_neg (by omega), if_neg (by omega), ← BitVec.getLsbD_eq_getElem]
  congr 1
  omega

theorem Sign.ofBitVec_toBitVec (s : Sign) : Sign.ofBitVec s.toBitVec = s := by
  cases s <;> rfl

theorem log2_of_normal {m : Nat} (low : Nat.pow 2 52 ≤ m) (high : m < Nat.pow 2 53) : m.log2 = 52 :=
  (Nat.log2_eq_iff (by rw [Nat.pow_eq] at low; omega)).mpr ⟨low, high⟩

theorem unpack_pack_normal {s : Sign} {m : Nat} {e : Int} (pos : 0 < m)
    (low : Nat.pow 2 52 ≤ m) (high : m < Nat.pow 2 53) (least : -1074 ≤ e) (most : e ≤ 971) :
    unpack Format.binary64 (UnpackedFloat.pack Format.binary64 (.finite s m e pos)) = .finite s m e pos := by
  have bias : Format.binary64.exponentBias = 1023 := by decide
  have top := log2_of_normal low high
  simp only [UnpackedFloat.pack, top, bias]
  rw [if_neg (by simp; omega), if_pos (by decide)]
  simp only [UnpackedFloat.unpack, unpackMantissa_packComponents, unpackExponent_packComponents,
    unpackSign_packComponents, Sign.ofBitVec_toBitVec]
  -- the biased exponent lies strictly between the all-zero and the all-one field
  have field : (BitVec.ofNat 11 (e + (1023 : Nat) + (52 : Nat)).toNat).toNat = (e + 1075).toNat := by
    simp only [BitVec.toNat_ofNat]
    omega
  have notOnes : BitVec.ofNat 11 (e + (1023 : Nat) + (52 : Nat)).toNat ≠ -1#11 := by
    intro same
    have := congrArg BitVec.toNat same
    rw [field] at this
    simp at this
    omega
  have notZero : BitVec.ofNat 11 (e + (1023 : Nat) + (52 : Nat)).toNat ≠ 0#11 := by
    intro same
    have := congrArg BitVec.toNat same
    rw [field] at this
    simp at this
    omega
  have significand : (1#1 ++ BitVec.ofNat 52 m).toNat = m := by
    rw [Nat.pow_eq] at low high
    rw [BitVec.toNat_append, BitVec.toNat_ofNat, BitVec.toNat_ofNat,
      ← Nat.shiftLeft_add_eq_or_of_lt (Nat.mod_lt m (Nat.two_pow_pos 52)), Nat.shiftLeft_eq]
    omega
  rw [if_neg notOnes, if_neg notZero]
  simp only [significand, field, bias]
  congr 1
  omega

theorem unpack_pack_zero (s : Sign) :
    unpack Format.binary64 (UnpackedFloat.pack Format.binary64 (.zero s)) = .zero s := by
  cases s <;> rfl

theorem ofUnpacked_unpack {u : UnpackedFloat}
    (h : unpack Format.binary64 (UnpackedFloat.pack Format.binary64 u) = u) :
    (ofUnpacked u).toModel.unpack = u := by
  simpa [ofUnpacked, Float.Model.unpack, Float.Model.pack] using h

/-- The unpacked double of a whole number below `2^53`, with a sign. -/
def wholeUnpacked (negative : Bool) (n : Nat) : UnpackedFloat :=
  if h : n = 0 then .zero (signOf negative)
  else .finite (signOf negative) (n * 2 ^ (52 - n.log2)) (n.log2 - 52)
    (Nat.mul_pos (Nat.pos_of_ne_zero h) (Nat.two_pow_pos _))

theorem wholeUnpacked_normal {n : Nat} (zero : n ≠ 0) (small : n < 2 ^ 53) :
    2 ^ 52 ≤ n * 2 ^ (52 - n.log2) ∧ n * 2 ^ (52 - n.log2) < 2 ^ 53 ∧ n.log2 ≤ 52 := by
  have top : n.log2 < 53 := (Nat.log2_lt zero).mpr small
  have shift : ∀ k, k ≤ 52 → 2 ^ k * 2 ^ (52 - k) = 2 ^ 52 := fun k le => by
    rw [← Nat.pow_add]; congr 1; omega
  refine ⟨?_, ?_, by omega⟩
  · calc 2 ^ 52 = 2 ^ n.log2 * 2 ^ (52 - n.log2) := (shift _ (by omega)).symm
      _ ≤ n * 2 ^ (52 - n.log2) := Nat.mul_le_mul_right _ (Nat.log2_self_le zero)
  · calc n * 2 ^ (52 - n.log2) < 2 ^ (n.log2 + 1) * 2 ^ (52 - n.log2) :=
          Nat.mul_lt_mul_of_pos_right Nat.lt_log2_self (Nat.two_pow_pos _)
      _ = 2 ^ 53 := by rw [Nat.pow_succ, Nat.mul_comm _ 2, Nat.mul_assoc, shift _ (by omega), ← Nat.pow_succ']

theorem unpack_ofUnpacked_whole (negative : Bool) {n : Nat} (small : n < 2 ^ 53) :
    (ofUnpacked (wholeUnpacked negative n)).toModel.unpack = wholeUnpacked negative n := by
  apply ofUnpacked_unpack
  unfold wholeUnpacked
  split
  · exact unpack_pack_zero _
  · next zero =>
    obtain ⟨low, high, top⟩ := wholeUnpacked_normal zero small
    exact unpack_pack_normal _ (by rwa [Nat.pow_eq]) (by rwa [Nat.pow_eq]) (by omega) (by omega)

theorem signOf_eq_negative (negative : Bool) : (signOf negative == .negative) = negative := by
  cases negative <;> rfl

theorem isNaN_whole (negative : Bool) {n : Nat} (small : n < 2 ^ 53) :
    (ofUnpacked (wholeUnpacked negative n)).isNaN = false := by
  unfold Float.isNaN Float.Model.isNaN
  rw [unpack_ofUnpacked_whole negative small, wholeUnpacked]
  split <;> rfl

theorem isInf_whole (negative : Bool) {n : Nat} (small : n < 2 ^ 53) :
    (ofUnpacked (wholeUnpacked negative n)).isInf = false := by
  unfold Float.isInf Float.Model.isInf
  rw [unpack_ofUnpacked_whole negative small, wholeUnpacked]
  split <;> rfl

theorem leadExponent_whole {n den : Nat} (pos : 0 < n) (denPos : 0 < den) :
    leadExponent (n * den) den = n.log2 := by
  have nLow := Nat.log2_self_le (Nat.pos_iff_ne_zero.mp pos)
  have nHigh := Nat.lt_log2_self (n := n)
  have dLow := Nat.log2_self_le (Nat.pos_iff_ne_zero.mp denPos)
  have dHigh := Nat.lt_log2_self (n := den)
  have prodNe : n * den ≠ 0 := Nat.mul_ne_zero (Nat.pos_iff_ne_zero.mp pos) (Nat.pos_iff_ne_zero.mp denPos)
  -- the product's leading bit is the sum of the two, or one more
  have atLeast : n.log2 + den.log2 ≤ (n * den).log2 := by
    rw [Nat.le_log2 prodNe, Nat.pow_add]
    exact Nat.mul_le_mul nLow dLow
  have below : (n * den).log2 < n.log2 + den.log2 + 2 := by
    rw [Nat.log2_lt prodNe, show n.log2 + den.log2 + 2 = (n.log2 + 1) + (den.log2 + 1) by omega, Nat.pow_add]
    exact Nat.mul_lt_mul'' nHigh dHigh
  unfold leadExponent ratioBelow topBit
  rcases (show (n * den).log2 = n.log2 + den.log2 ∨ (n * den).log2 = n.log2 + den.log2 + 1 by omega) with
    same | more
  · have k : ((n * den).log2 : Int) - den.log2 = n.log2 := by omega
    rw [k]
    dsimp only
    have notBelow : ¬ n * den < den * 2 ^ n.log2 := by
      rw [Nat.mul_comm den]
      exact Nat.not_lt.mpr (Nat.mul_le_mul_right den nLow)
    simp [notBelow]
  · have k : ((n * den).log2 : Int) - den.log2 = n.log2 + 1 := by omega
    rw [k]
    dsimp only
    have isBelow : n * den < den * 2 ^ (n.log2 + 1) := by
      rw [Nat.mul_comm den]
      exact Nat.mul_lt_mul_of_pos_right nHigh denPos
    have natural : ((n.log2 : Int) + 1).toNat = n.log2 + 1 := by omega
    rw [if_pos (show ((n.log2 : Int) + 1) ≥ 0 by omega), natural]
    simp [isBelow]

theorem lastPlace_whole {n den : Nat} (pos : 0 < n) (denPos : 0 < den) :
    lastPlace (n * den) den = n.log2 - 52 := by
  unfold lastPlace
  rw [leadExponent_whole pos denPos]
  omega

theorem inUnits_whole {n den : Nat} (denPos : 0 < den) (top : n.log2 ≤ 52) :
    inUnits (n * den) den (n.log2 - 52) = (n * 2 ^ (52 - n.log2), 0, den) := by
  unfold inUnits
  by_cases edge : n.log2 = 52
  · rw [if_pos (by omega)]
    simp [edge, Nat.mul_div_cancel _ denPos]
  · rw [if_neg (by omega)]
    have shift : ((n.log2 : Int) - 52).natAbs = 52 - n.log2 := by omega
    simp only [shift, Nat.pow_eq]
    rw [Nat.mul_right_comm, Nat.mul_div_cancel _ denPos, Nat.mul_mod_left]

theorem roundUnits_exact (q : Nat) {unit : Nat} (pos : 0 < unit) : roundUnits q 0 unit = q := by
  unfold roundUnits
  simp [Ne.symm (Nat.pos_iff_ne_zero.mp pos)]

theorem nearestUnpacked_zero (negative : Bool) (den : Nat) :
    nearestUnpacked negative 0 den = some (.zero (signOf negative)) := by
  unfold nearestUnpacked inUnits
  dsimp only
  split <;> simp [roundUnits]

theorem nearestUnpacked_whole (negative : Bool) {n den : Nat} (small : n < 2 ^ 53) (denPos : 0 < den) :
    nearestUnpacked negative (n * den) den = some (wholeUnpacked negative n) := by
  by_cases zero : n = 0
  · simp [zero, wholeUnpacked, nearestUnpacked_zero]
  obtain ⟨-, high, top⟩ := wholeUnpacked_normal zero small
  unfold nearestUnpacked
  simp only [Nat.max_eq_left denPos, lastPlace_whole (Nat.pos_of_ne_zero zero) denPos,
    inUnits_whole (n := n) denPos top, roundUnits_exact _ denPos]
  rw [dif_neg (Nat.mul_ne_zero zero (Nat.two_pow_pos _).ne'), if_neg (by simp [Nat.pow_eq]; omega),
    if_neg (by omega)]
  simp [wholeUnpacked, zero]

theorem floatOfDecimal_whole (negative : Bool) {n : Nat} {exp : Int} (small : n < 2 ^ 53)
    (fraction : exp < 0) :
    floatOfDecimal negative (n * Nat.pow 10 exp.natAbs) exp = ofUnpacked (wholeUnpacked negative n) := by
  have tenPos : 0 < Nat.pow 10 exp.natAbs := Nat.pow_pos (by decide)
  unfold floatOfDecimal nearestFloat
  rw [if_neg (by omega)]
  dsimp only
  rw [nearestUnpacked_whole negative small tenPos]
  rfl

theorem exactParts_eq_ofBinary (f : Float) :
    exactParts f =
      ((if (Binary.ofFloat f).negative then
          -((Ratio.ofBinary (Binary.ofFloat f).mantissa (Binary.ofFloat f).exponent).num : Int)
        else (Ratio.ofBinary (Binary.ofFloat f).mantissa (Binary.ofFloat f).exponent).num),
       (Ratio.ofBinary (Binary.ofFloat f).mantissa (Binary.ofFloat f).exponent).den) := by
  unfold exactParts Ratio.ofBinary
  by_cases whole : (Binary.ofFloat f).exponent ≥ 0 <;> simp [whole]

theorem Ratio.ofBinary_num_eq_zero (m : Nat) (e : Int) : (Ratio.ofBinary m e).num = 0 ↔ m = 0 := by
  unfold Ratio.ofBinary
  split <;> simp [Nat.pow_eq]

theorem ofBinary_whole (negative : Bool) {n : Nat} (small : n < 2 ^ 53) :
    (Binary.ofFloat (ofUnpacked (wholeUnpacked negative n))).negative = negative ∧
      ∃ d, 0 < d ∧ Ratio.ofBinary (Binary.ofFloat (ofUnpacked (wholeUnpacked negative n))).mantissa
        (Binary.ofFloat (ofUnpacked (wholeUnpacked negative n))).exponent = ⟨n * d, d⟩ := by
  unfold Binary.ofFloat
  rw [unpack_ofUnpacked_whole negative small]
  by_cases zero : n = 0
  · rw [wholeUnpacked, dif_pos zero]
    refine ⟨signOf_eq_negative negative, 2 ^ (-1074 : Int).natAbs, Nat.two_pow_pos _, ?_⟩
    dsimp only
    rw [Ratio.ofBinary, if_neg (by decide), zero, Nat.zero_mul, Nat.pow_eq]
  · rw [wholeUnpacked, dif_neg zero]
    have top := (wholeUnpacked_normal zero small).2.2
    refine ⟨signOf_eq_negative negative, ?_⟩
    unfold Ratio.ofBinary
    by_cases edge : n.log2 = 52
    · refine ⟨1, Nat.one_pos, ?_⟩
      simp [edge]
    · refine ⟨2 ^ (52 - n.log2), Nat.two_pow_pos _, ?_⟩
      have shift : ((n.log2 : Int) - 52).natAbs = 52 - n.log2 := by omega
      simp [shift, Nat.pow_eq]
      omega

theorem exactParts_whole {u : Int} (small : u.natAbs < 2 ^ 53) :
    ∃ d : Nat, 0 < d ∧ exactParts (ofUnpacked (wholeUnpacked (u < 0) u.natAbs)) = (u * d, d) := by
  obtain ⟨sign, d, dPos, ratio⟩ := ofBinary_whole (decide (u < 0)) small
  refine ⟨d, dPos, ?_⟩
  rw [exactParts_eq_ofBinary, sign, ratio]
  by_cases neg : u < 0
  · have magnitude : (u.natAbs : Int) = -u := by omega
    simp [neg, magnitude]
  · have magnitude : (u.natAbs : Int) = u := by omega
    simp [neg, magnitude]

theorem compareIntFloat_whole {u : Int} (small : u.natAbs < 2 ^ 53) :
    compareIntFloat u (ofUnpacked (wholeUnpacked (u < 0) u.natAbs)) = .eq := by
  obtain ⟨sign, d, dPos, ratio⟩ := ofBinary_whole (decide (u < 0)) small
  have nonzero : u < 0 → (Binary.ofFloat (ofUnpacked (wholeUnpacked (u < 0) u.natAbs))).mantissa ≠ 0 := by
    intro neg zero
    have num := congrArg Ratio.num ratio
    rw [(Ratio.ofBinary_num_eq_zero _ _).mpr zero] at num
    have : u.natAbs * d ≠ 0 := Nat.mul_ne_zero (by omega) (by omega)
    exact this num.symm
  unfold compareIntFloat
  dsimp only
  rw [sign, ratio]
  by_cases neg : u < 0
  · have flag : ((Binary.ofFloat (ofUnpacked (wholeUnpacked (u < 0) u.natAbs))).mantissa != 0) = true := by
      simpa using nonzero neg
    rw [flag]
    simp [neg, Ratio.cmp, Nat.mul_comm]
  · simp [neg, Ratio.cmp, Nat.mul_comm]

theorem roundQuotient_zero (den : Nat) : roundQuotient 0 den = 0 := by
  unfold roundQuotient
  simp

/-- A significand and exponent in the form `unpack` gives a finite double: fifty-three bits at
most, with the leading one in place unless the exponent is the least. -/
def Canonical (m : Nat) (e : Int) : Prop :=
  m < 2 ^ 53 ∧ -1074 ≤ e ∧ e ≤ 971 ∧ (2 ^ 52 ≤ m ∨ e = -1074)

theorem unpack_finite_canonical {b : BitVec Format.binary64.numBits} {s : Sign} {m : Nat} {e : Int}
    {pos : 0 < m} (h : unpack Format.binary64 b = .finite s m e pos) : Canonical m e := by
  have bias : Format.binary64.exponentBias = 1023 := by decide
  have width := (unpackMantissa b).isLt
  have fieldLt := (unpackExponent b).isLt
  change (unpackMantissa b).toNat < 2 ^ 52 at width
  change (unpackExponent b).toNat < 2 ^ 11 at fieldLt
  unfold UnpackedFloat.unpack at h
  simp only [bias] at h
  split at h
  · split at h <;> cases h
  · rename_i notOnes
    split at h
    · rename_i zero
      split at h
      · cases h
      · -- a subnormal: the exponent field is zero
        cases h
        have field : (unpackExponent b).toNat = 0 := by rw [zero]; rfl
        simp only [field]
        refine ⟨by omega, by decide, by decide, .inr (by decide)⟩
    · rename_i notZero
      cases h
      have fieldPos : (unpackExponent b).toNat ≠ 0 := fun zero => notZero (BitVec.eq_of_toNat_eq zero)
      have fieldTop : (unpackExponent b).toNat ≠ 2047 := fun top => notOnes (BitVec.eq_of_toNat_eq top)
      have significand : (1#1 ++ unpackMantissa b).toNat = 2 ^ 52 + (unpackMantissa b).toNat := by
        rw [BitVec.toNat_append, ← Nat.shiftLeft_add_eq_or_of_lt width]
        rfl
      rw [significand]
      refine ⟨by omega, by omega, by omega, .inl (by omega)⟩

theorem Canonical.value_inj {m n : Nat} {e k : Int} (cm : Canonical m e) (cn : Canonical n k)
    (same : (m : ℚ) * 2 ^ e = n * 2 ^ k) : m = n ∧ e = k := by
  wlog le : e ≤ k generalizing m n e k
  · exact (this cn cm same.symm (by omega)).imp Eq.symm Eq.symm
  obtain ⟨j, rfl⟩ : ∃ j : Nat, k = e + j := ⟨(k - e).toNat, by omega⟩
  have scaled : m = n * 2 ^ j := by
    have shifted : (m : ℚ) * 2 ^ e = (n * 2 ^ j) * 2 ^ e := by
      rw [same, zpow_add₀ two_ne_zero, zpow_natCast]
      ring
    exact_mod_cast mul_right_cancel₀ (zpow_ne_zero e two_ne_zero) shifted
  -- a larger exponent would push the significand past fifty-three bits
  have flat : j = 0 := by
    by_contra moved
    have doubled : 2 * n ≤ m := by
      rw [scaled, Nat.mul_comm]
      exact Nat.mul_le_mul_left n (Nat.le_self_pow moved 2)
    rcases cn.2.2.2 with big | least
    · have := cm.1
      omega
    · have := cm.2.1
      omega
  subst flat
  simp [scaled]

/-- The exact value of a double read as sign, significand and exponent. -/
def Binary.value (b : Binary) : ℚ := (if b.negative then -1 else 1) * (b.mantissa * 2 ^ b.exponent)

theorem Ratio.ofBinary_den_pos (m : Nat) (e : Int) : 0 < (Ratio.ofBinary m e).den := by
  unfold Ratio.ofBinary
  split <;> simp [Nat.pow_eq]

theorem Ratio.ofBinary_div (m : Nat) (e : Int) :
    ((Ratio.ofBinary m e).num : ℚ) / (Ratio.ofBinary m e).den = m * 2 ^ e := by
  unfold Ratio.ofBinary
  split
  · next whole =>
    have power : (2 : ℚ) ^ e = 2 ^ e.toNat := by
      rw [← zpow_natCast, Int.toNat_of_nonneg whole]
    simp [Nat.pow_eq, power]
  · next fraction =>
    have power : (2 : ℚ) ^ e = ((2 : ℚ) ^ e.natAbs)⁻¹ := by
      rw [← zpow_natCast, ← zpow_neg, Int.ofNat_natAbs_of_nonpos (by omega), neg_neg]
    simp [Nat.pow_eq, power, div_eq_mul_inv]

theorem intCast_eq_natAbs {a : Int} (nonneg : ¬ a < 0) : (a : ℚ) = (a.natAbs : ℚ) := by
  rw [← Int.cast_natCast, Int.natAbs_of_nonneg (by omega)]

theorem intCast_eq_neg_natAbs {a : Int} (neg : a < 0) : (a : ℚ) = -(a.natAbs : ℚ) := by
  rw [← Int.cast_natCast, Int.ofNat_natAbs_of_nonpos (by omega), Int.cast_neg, neg_neg]

/-- An integer compares equal to a double exactly when it is the double's value. -/
theorem compareIntFloat_eq_iff (a : Int) (f : Float) :
    compareIntFloat a f = .eq ↔ (a : ℚ) = (Binary.ofFloat f).value := by
  unfold compareIntFloat Binary.value
  dsimp only
  generalize Binary.ofFloat f = b
  have zero := Ratio.ofBinary_num_eq_zero b.mantissa b.exponent
  have flag : (b.mantissa != 0) = ((Ratio.ofBinary b.mantissa b.exponent).num != 0) := by
    rw [Bool.eq_iff_iff]
    simp only [bne_iff_ne, ne_eq, zero]
  rw [flag, ← Ratio.ofBinary_div]
  have den := Ratio.ofBinary_den_pos b.mantissa b.exponent
  generalize Ratio.ofBinary b.mantissa b.exponent = r at den ⊢
  obtain ⟨num, d⟩ := r
  dsimp only at den ⊢
  have dq : (0 : ℚ) < d := by exact_mod_cast den
  -- a double of value zero compares as zero whatever its sign
  rcases Nat.eq_zero_or_pos num with rfl | numPos
  · by_cases below : a < 0
    · have : a ≠ 0 := by omega
      simp [below, this]
    · simp [below, Ratio.cmp, den.ne']
  have nonzero : (num != 0) = true := by simpa using numPos.ne'
  have magnitude : (0 : ℚ) < num / d := by positivity
  cases negative : b.negative <;> by_cases below : a < 0
  · have : (a : ℚ) < 0 := by exact_mod_cast below
    simp [below, nonzero]
    linarith
  · simp [below, nonzero, Ratio.cmp, eq_div_iff dq.ne']
    rw [intCast_eq_natAbs below]
    norm_cast
  · simp [below, nonzero, Ratio.cmp]
    rw [intCast_eq_neg_natAbs below, neg_inj, eq_div_iff dq.ne', eq_comm]
    norm_cast
  · have : (0 : ℚ) ≤ a := by exact_mod_cast Int.not_lt.mp below
    simp [below, nonzero]
    linarith

theorem beq_eq_unpack (f g : Float) : (f == g) = f.toModel.unpack.beq g.toModel.unpack := rfl

theorem finite_value_pos {m : Nat} (pos : 0 < m) (e : Int) : (0 : ℚ) < m * 2 ^ e := by
  have : (0 : ℚ) < m := by exact_mod_cast pos
  positivity

theorem finite_beq_iff {s : Sign} {m n : Nat} {e k : Int} (pm : 0 < m) (pn : 0 < n)
    (cm : Canonical m e) (cn : Canonical n k) :
    (UnpackedFloat.finite s m e pm).beq (.finite s n k pn) = true ↔ (m : ℚ) * 2 ^ e = n * 2 ^ k := by
  have same : (m : ℚ) * 2 ^ e = n * 2 ^ k ↔ m = n ∧ e = k :=
    ⟨cm.value_inj cn, fun ⟨h, h'⟩ => by rw [h, h']⟩
  rw [same]
  cases s <;> simp [UnpackedFloat.beq, UnpackedFloat.compare, and_comm]

/-- Two doubles that are not NaN are equal exactly when both or neither are infinite and their
values agree; the zeros of either sign are one value. -/
theorem beq_iff_value {f g : Float} (fNum : f.isNaN = false) (gNum : g.isNaN = false) :
    (f == g) = true ↔ f.isInf = g.isInf ∧ (Binary.ofFloat f).value = (Binary.ofFloat g).value := by
  have cf : ∀ {s m e pos}, f.toModel.unpack = .finite s m e pos → Canonical m e := unpack_finite_canonical
  have cg : ∀ {s m e pos}, g.toModel.unpack = .finite s m e pos → Canonical m e := unpack_finite_canonical
  rw [beq_eq_unpack]
  unfold Float.isNaN Float.Model.isNaN at fNum gNum
  unfold Float.isInf Float.Model.isInf Binary.ofFloat
  generalize f.toModel.unpack = u at *
  generalize g.toModel.unpack = v at *
  cases u with
  | notANumber => cases fNum
  | infinity s =>
    cases v with
    | notANumber => cases gNum
    | infinity t =>
      -- both infinities read as one value beyond every finite double, with their signs
      cases s <;> cases t <;> simp [UnpackedFloat.beq, UnpackedFloat.compare, UnpackedFloat.isInf, Binary.value]
      all_goals first
        | rfl
        | rw [neg_eq_iff_add_eq_zero]; positivity
        | rw [eq_neg_iff_add_eq_zero]; positivity
    | zero t => cases s <;> simp [UnpackedFloat.beq, UnpackedFloat.compare, UnpackedFloat.isInf]
    | finite t n k pn => cases s <;> cases t <;> simp [UnpackedFloat.beq, UnpackedFloat.compare, UnpackedFloat.isInf]
  | zero s =>
    cases v with
    | notANumber => cases gNum
    | infinity t => cases t <;> simp [UnpackedFloat.beq, UnpackedFloat.compare, UnpackedFloat.isInf]
    | zero t => simp [UnpackedFloat.beq, UnpackedFloat.compare, UnpackedFloat.isInf, Binary.value]
    | finite t n k pn =>
      have := finite_value_pos pn k
      cases t <;> simp [UnpackedFloat.beq, UnpackedFloat.compare, UnpackedFloat.isInf, Binary.value, pn.ne', zpow_ne_zero k (two_ne_zero : (2 : ℚ) ≠ 0)]
  | finite s m e pm =>
    cases v with
    | notANumber => cases gNum
    | infinity t => cases s <;> cases t <;> simp [UnpackedFloat.beq, UnpackedFloat.compare, UnpackedFloat.isInf]
    | zero t =>
      have := finite_value_pos pm e
      cases s <;> simp [UnpackedFloat.beq, UnpackedFloat.compare, UnpackedFloat.isInf, Binary.value, pm.ne', zpow_ne_zero e (two_ne_zero : (2 : ℚ) ≠ 0)]
    | finite t n k pn =>
      have cm := cf rfl
      have cn := cg rfl
      have := finite_value_pos pm e
      have := finite_value_pos pn k
      cases s <;> cases t
      · simp [UnpackedFloat.isInf, Binary.value, finite_beq_iff pm pn cm cn]
      · simp [UnpackedFloat.beq, UnpackedFloat.compare, UnpackedFloat.isInf, Binary.value]
        linarith
      · simp [UnpackedFloat.beq, UnpackedFloat.compare, UnpackedFloat.isInf, Binary.value]
        linarith
      · simp [UnpackedFloat.isInf, Binary.value, finite_beq_iff pm pn cm cn]

end Dashwright.Number
