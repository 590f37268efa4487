import Mathlib
import SceneCompiler.Number.Decimal
/-!
# Values of numbers

A finite number in single precision stands for a rational number, as the standard reads its bits.
The exact value that is taken from the bits is that number, and a quotient of natural numbers is
rounded to the nearest integer.

* `exists_exact`: the exact value of a finite number is what it stands for.
* `IsNearest`, `IsNearest.unique`: the nearest integer, the even one at a tie.
* `isNearest_roundHalfEven`: rounding a quotient gives the nearest integer.
-/

namespace SceneCompiler

open Float.Model

/-! ## Definitions -/

/-- The rational number that a floating-point number stands for, and zero for those that stand for
none. -/
def unpackedValue : UnpackedFloat → ℚ
  | .finite sign mantissa exponent _ => (sign.apply mantissa : ℤ) * 2 ^ exponent
  | _ => 0

/-- The rational number that a finite number in single precision stands for. -/
def singleValue (x : Float32) : ℚ :=
  unpackedValue x.toModel.unpack

/-- The rational number that an exact value is. -/
def Exact.value (e : Exact) : ℚ :=
  (if e.negative then -1 else 1) * (e.mantissa * 2 ^ e.exponent)

/-- The integer nearest to a rational number; halfway between two of them, the even one. -/
structure IsNearest (k : ℤ) (v : ℚ) : Prop where
  near : |v - k| ≤ 1 / 2
  tie : |v - k| = 1 / 2 → Even k

/-! ## Bits -/

/-- The fields of a pattern of 32 bits. -/
theorem toNat_unpack (b : BitVec 32) :
    (@UnpackedFloat.unpackMantissa .binary32 b).toNat = b.toNat % 8388608
      ∧ (@UnpackedFloat.unpackExponent .binary32 b).toNat = b.toNat / 8388608 % 256
      ∧ (@UnpackedFloat.unpackSign .binary32 b).toNat = b.toNat / 2147483648 := by
  refine ⟨?_, ?_, ?_⟩
  · simp [UnpackedFloat.unpackMantissa]
  · simp [UnpackedFloat.unpackExponent, Nat.shiftRight_eq_div_pow]
  · have hlt := b.isLt
    simp [UnpackedFloat.unpackSign, Nat.shiftRight_eq_div_pow]
    omega

/-- The sign bit is the first one. -/
theorem ofBitVec_unpackSign (b : BitVec 32) :
    UnpackedFloat.Sign.ofBitVec (@UnpackedFloat.unpackSign .binary32 b)
      = if 2147483648 ≤ b.toNat then .negative else .positive := by
  obtain ⟨-, -, hsign⟩ := toNat_unpack b
  have hzero : @UnpackedFloat.unpackSign .binary32 b = 0#1 ↔ b.toNat < 2147483648 := by
    rw [← BitVec.toNat_inj, hsign]
    simp
  unfold UnpackedFloat.Sign.ofBitVec
  by_cases hlt : b.toNat < 2147483648
  · rw [if_pos (hzero.mpr hlt), if_neg (by omega)]
  · rw [if_neg (mt hzero.mp hlt), if_pos (by omega)]

/-- The value of a signed mantissa. -/
theorem value_mk (negative : Prop) [Decidable negative] (mantissa : ℕ) (exponent : ℤ) :
    Exact.value ⟨negative, mantissa, exponent⟩
      = ((if negative then .negative else .positive : UnpackedFloat.Sign).apply mantissa : ℤ)
        * 2 ^ exponent := by
  by_cases h : negative <;> simp [Exact.value, h, UnpackedFloat.Sign.apply]

/-- The exact value by the fields of a pattern. -/
theorem ofPattern?_single (n : ℕ) :
    Exact.ofPattern? .single n
      = if 255 ≤ n / 8388608 % 256 then none
        else if n / 8388608 % 256 = 0 then some ⟨2147483648 ≤ n, n % 8388608, -149⟩
        else some ⟨2147483648 ≤ n, 8388608 + n % 8388608, (n / 8388608 % 256 : ℕ) - 1 - 149⟩ := by
  have hfield : n % 2147483648 / 8388608 = n / 8388608 % 256 := by omega
  have hfraction : n % 2147483648 % 8388608 = n % 8388608 := by omega
  have hinfinity : 2139095040 ≤ n % 2147483648 ↔ 255 ≤ n / 8388608 % 256 := by omega
  have hsignBit : Number.Format.single.signBit = 2147483648 := rfl
  have hlimit : Number.Format.single.infinity = 2139095040 := rfl
  have hbits : Nat.pow 2 Number.Format.single.fractionBits = 8388608 := rfl
  have htiniest : ((Number.Format.single.tiniest : ℕ) : ℤ) = 149 := rfl
  simp only [Exact.ofPattern?, hsignBit, hlimit, hbits, htiniest, hfield, hfraction, hinfinity]

/-- The exact value that is taken from the bits of a finite number is what the number stands for. -/
theorem exists_ofPattern? {b : BitVec 32} (h : (UnpackedFloat.unpack .binary32 b).isFinite = true) :
    ∃ e, Exact.ofPattern? .single b.toNat = some e
      ∧ e.value = unpackedValue (UnpackedFloat.unpack .binary32 b) := by
  obtain ⟨hmantissa, hexponent, -⟩ := toNat_unpack b
  have hsign := ofBitVec_unpackSign b
  have hones : @UnpackedFloat.unpackExponent .binary32 b = -1#8
      ↔ b.toNat / 8388608 % 256 = 255 := by
    rw [← BitVec.toNat_inj, hexponent]
    rfl
  have hzeros : @UnpackedFloat.unpackExponent .binary32 b = 0#8
      ↔ b.toNat / 8388608 % 256 = 0 := by
    rw [← BitVec.toNat_inj, hexponent]
    rfl
  have hnone : @UnpackedFloat.unpackMantissa .binary32 b = 0#23
      ↔ b.toNat % 8388608 = 0 := by
    rw [← BitVec.toNat_inj, hmantissa]
    rfl
  have hnormal : (1#1 ++ @UnpackedFloat.unpackMantissa .binary32 b).toNat
      = 8388608 + b.toNat % 8388608 := by
    have hlow : (@UnpackedFloat.unpackMantissa .binary32 b).toNat < 2 ^ 23 := by
      rw [hmantissa]
      omega
    rw [BitVec.toNat_append, ← Nat.shiftLeft_add_eq_or_of_lt hlow, ← hmantissa]
    rfl
  have hbias : ((Float.Model.Format.binary32.exponentBias : ℕ) : ℤ) = 127 := rfl
  rw [ofPattern?_single]
  unfold UnpackedFloat.unpack at h ⊢
  simp only [] at h ⊢
  by_cases hfull : b.toNat / 8388608 % 256 = 255
  · -- All ones: an infinity or not a number.
    rw [if_pos (hones.mpr hfull)] at h
    split at h <;> simp [UnpackedFloat.isFinite] at h
  rw [if_neg (mt hones.mp hfull), if_neg (by omega)]
  by_cases hnil : b.toNat / 8388608 % 256 = 0
  · rw [if_pos (hzeros.mpr hnil), if_pos hnil]
    refine ⟨_, rfl, ?_⟩
    by_cases hlow : b.toNat % 8388608 = 0
    · rw [dif_pos (hnone.mpr hlow), hlow]
      simp [unpackedValue, Exact.value]
    · rw [dif_neg (mt hnone.mp hlow), value_mk, ← hsign]
      simp only [unpackedValue, hmantissa, hexponent, hnil, hbias]
      rfl
  · rw [if_neg (mt hzeros.mp hnil), if_neg hnil]
    refine ⟨_, rfl, ?_⟩
    rw [value_mk, ← hsign]
    simp only [unpackedValue, hnormal, hexponent, hbias]
    congr 2
    push_cast
    ring

/-- The exact value of a finite number is what the number stands for. -/
theorem exists_exact {x : Float32} (hx : x.isFinite = true) :
    ∃ e, Exact.ofSingle? x = some e ∧ e.value = singleValue x :=
  exists_ofPattern? (b := x.toModel.toBits.toBitVec) hx

/-! ## Rounding -/

/-- Only one integer is the nearest. -/
theorem IsNearest.unique {k l : ℤ} {v : ℚ} (hk : IsNearest k v) (hl : IsNearest l v) : k = l := by
  obtain ⟨hk₁, hk₂⟩ := abs_le.mp hk.near
  obtain ⟨hl₁, hl₂⟩ := abs_le.mp hl.near
  -- Two integers that are no further than a half are the same or the ends of a unit interval.
  have hupper : (k - l : ℚ) ≤ 1 := by linarith
  have hlower : (-1 : ℚ) ≤ k - l := by linarith
  have hupper' : k - l ≤ 1 := by exact_mod_cast hupper
  have hlower' : -1 ≤ k - l := by exact_mod_cast hlower
  by_contra hne
  have hends : k = l + 1 ∨ l = k + 1 := by omega
  rcases hends with rfl | rfl
  · push_cast at hk₁ hk₂ hl₁ hl₂
    have hv : v = l + 1 / 2 := by linarith
    have hodd := hk.tie (by rw [hv]; push_cast; norm_num)
    have heven := hl.tie (by rw [hv]; norm_num)
    exact Int.not_even_iff_odd.mpr heven.add_one hodd
  · push_cast at hk₁ hk₂ hl₁ hl₂
    have hv : v = k + 1 / 2 := by linarith
    have hodd := hl.tie (by rw [hv]; push_cast; norm_num)
    have heven := hk.tie (by rw [hv]; norm_num)
    exact Int.not_even_iff_odd.mpr heven.add_one hodd

theorem IsNearest.neg {k : ℤ} {v : ℚ} (h : IsNearest k v) : IsNearest (-k) (-v) := by
  have hswap : |-v - ((-k : ℤ) : ℚ)| = |v - k| := by
    rw [← abs_neg]
    push_cast
    ring_nf
  exact ⟨hswap ▸ h.near, fun htie => even_neg.mpr (h.tie (hswap ▸ htie))⟩

/-- An integer is nearest to itself. -/
theorem isNearest_self (k : ℤ) : IsNearest k k :=
  ⟨by simp, fun htie => absurd htie (by simp)⟩

/-- The nearest integer is on the same side of zero. -/
theorem IsNearest.nonneg {k : ℤ} {v : ℚ} (h : IsNearest k v) (hv : 0 ≤ v) : 0 ≤ k := by
  obtain ⟨-, hk⟩ := abs_le.mp h.near
  have hlt : (-1 : ℚ) < k := by linarith
  have hlt' : -1 < k := by exact_mod_cast hlt
  omega

theorem IsNearest.nonpos {k : ℤ} {v : ℚ} (h : IsNearest k v) (hv : v ≤ 0) : k ≤ 0 := by
  have := h.neg.nonneg (neg_nonneg.mpr hv)
  omega

/-- An integer other than zero has the sign of what it is nearest to. -/
theorem IsNearest.neg_iff {k : ℤ} {v : ℚ} (h : IsNearest k v) (hk : k ≠ 0) : v < 0 ↔ k < 0 := by
  constructor
  · intro hv
    have := h.nonpos hv.le
    omega
  · intro hlt
    by_contra hv
    have := h.nonneg (not_lt.mp hv)
    omega

theorem IsNearest.natAbs {k : ℤ} {v : ℚ} (h : IsNearest k v) : IsNearest k.natAbs |v| := by
  rcases le_total 0 v with hv | hv
  · rwa [abs_of_nonneg hv, Int.natAbs_of_nonneg (h.nonneg hv)]
  · rw [abs_of_nonpos hv, Int.ofNat_natAbs_of_nonpos (h.nonpos hv)]
    exact h.neg

/-- The magnitude of an exact value as a quotient. -/
theorem quotient_spec (e : Exact) :
    0 < e.quotient.2 ∧ (e.quotient.1 : ℚ) / e.quotient.2 = e.mantissa * 2 ^ e.exponent := by
  unfold Exact.quotient
  split
  case isTrue hneg =>
    obtain ⟨n, hn⟩ : ∃ n : ℕ, e.exponent = -n := ⟨e.exponent.natAbs, by omega⟩
    refine ⟨Nat.pow_pos (by norm_num), ?_⟩
    simp [hn, div_eq_mul_inv]
  case isFalse hnonneg =>
    obtain ⟨n, hn⟩ : ∃ n : ℕ, e.exponent = n := ⟨e.exponent.natAbs, by omega⟩
    refine ⟨Nat.one_pos, ?_⟩
    simp [hn]

/-- Nearness to a quotient, without dividing. -/
theorem isNearest_div {k : ℤ} {num den : ℕ} (hden : 0 < den)
    (hnear : 2 * (num - k * den).natAbs ≤ den)
    (htie : 2 * (num - k * den).natAbs = den → k % 2 = 0) : IsNearest k ((num : ℚ) / den) := by
  have hden' : (0 : ℚ) < den := by exact_mod_cast hden
  have hscaled : |(num : ℚ) / den - k| = ((num - k * den).natAbs : ℕ) / den := by
    rw [div_sub' hden'.ne', abs_div, abs_of_pos hden', mul_comm (den : ℚ), Nat.cast_natAbs]
    push_cast
    rfl
  constructor
  · rw [hscaled, div_le_div_iff₀ hden' two_pos]
    norm_cast
    omega
  · rw [hscaled, div_eq_div_iff hden'.ne' two_ne_zero]
    intro h
    norm_cast at h
    exact Int.even_iff.mpr (htie (by omega))

/-- Rounding a quotient gives the nearest integer. -/
theorem isNearest_roundHalfEven (num : ℕ) {den : ℕ} (hden : 0 < den) :
    IsNearest (roundHalfEven num den) ((num : ℚ) / den) := by
  have hdiv := Nat.div_add_mod num den
  have hmod := Nat.mod_lt num hden
  obtain ⟨whole, hwhole⟩ : ∃ whole, whole = num / den := ⟨_, rfl⟩
  obtain ⟨rest, hrest⟩ : ∃ rest, rest = num % den := ⟨_, rfl⟩
  rw [← hwhole, ← hrest] at hdiv
  rw [← hrest] at hmod
  have hbelow : (num : ℤ) - (whole : ℕ) * den = rest := by
    rw [← hdiv]
    push_cast
    ring
  have habove : (num : ℤ) - (whole + 1 : ℕ) * den = rest - den := by
    rw [← hdiv]
    push_cast
    ring
  unfold roundHalfEven
  rw [← hwhole, ← hrest]
  have hdown : 2 * rest ≤ den → (2 * rest = den → whole % 2 = 0) →
      IsNearest (whole : ℕ) ((num : ℚ) / den) := by
    intro hle htie
    apply isNearest_div hden <;> rw [hbelow] <;> omega
  have hup : den ≤ 2 * rest → (2 * rest = den → whole % 2 = 1) →
      IsNearest (whole + 1 : ℕ) ((num : ℚ) / den) := by
    intro hle htie
    apply isNearest_div hden <;> rw [habove] <;> omega
  simp only []
  split_ifs
  · exact hdown (by omega) (by omega)
  · exact hup (by omega) (by omega)
  · exact hdown (by omega) (by omega)
  · exact hup (by omega) (by omega)

end SceneCompiler
