import Mathlib.Tactic.SplitIfs
import AutoProxy.Number.Double

/-!
Doubles and their parts. The parts that are read off the bits of a double are its sign, mantissa and exponent
(`parts?_eq_partsOf`), so that exactly the finite ones have an integer part (`isSome_truncate?_iff`), and this
is no larger than a bound that the double itself keeps to (`truncate?_of_le`).
-/

namespace AutoProxy.Number

open Float.Model UnpackedFloat

/-- Sign, mantissa and exponent of a finite double. -/
def partsOf : UnpackedFloat → Option Parts
  | .notANumber | .infinity _ => none
  | .zero sign => some ⟨sign == .negative, 0, -1074⟩
  | .finite sign mantissa exponent _ => some ⟨sign == .negative, mantissa, exponent⟩

/-! ### Bits -/

section Bits

variable (bits : UInt64)

/-- Eleven bits hold the exponent. -/
theorem toNat_exponent : ((bits >>> 52) &&& 0x7FF).toNat =
    (@unpackExponent Format.binary64 bits.toBitVec).toNat := by
  have hmask (n : Nat) : n &&& 2047 = n % 2048 := Nat.and_two_pow_sub_one_eq_mod n 11
  simp [unpackExponent, BitVec.extractLsb, hmask]

/-- The last fifty-two hold the mantissa. -/
theorem toNat_fraction : (bits &&& 0xFFFFFFFFFFFFF).toNat =
    (@unpackMantissa Format.binary64 bits.toBitVec).toNat := by
  have hmask (n : Nat) : n &&& 4503599627370495 = n % 4503599627370496 :=
    Nat.and_two_pow_sub_one_eq_mod n 52
  simp [unpackMantissa, BitVec.extractLsb, hmask]

/-- The first one holds the sign. -/
theorem sign_eq : (bits >>> 63 == 1) =
    (Sign.ofBitVec (@unpackSign Format.binary64 bits.toBitVec) == .negative) := by
  have hlt := bits.toNat_lt
  have hone : bits >>> 63 = 1 ↔ bits.toNat / 9223372036854775808 = 1 := by
    rw [← UInt64.toNat_inj]
    simp [Nat.shiftRight_eq_div_pow]
  have hsign : @unpackSign Format.binary64 bits.toBitVec = bits.toBitVec.extractLsb' 63 1 := rfl
  have hzero : bits.toBitVec.extractLsb' 63 1 = 0#1 ↔ bits.toNat / 9223372036854775808 = 0 := by
    rw [← BitVec.toNat_inj]
    simp only [BitVec.extractLsb'_toNat, UInt64.toNat_toBitVec, Nat.shiftRight_eq_div_pow, BitVec.toNat_ofNat]
    omega
  rw [hsign, Bool.eq_iff_iff, beq_iff_eq, hone, Sign.ofBitVec]
  split_ifs with h
  · rw [hzero.mp h]
    decide
  · have hrest : bits.toNat / 9223372036854775808 = 1 := by
      rw [hzero] at h
      omega
    rw [hrest]
    decide

end Bits

/-! ### Parts -/

variable {x : Float} {p : Parts}

/-- The eleven bits of the exponent, the fifty-two of the mantissa and the sign say which double it is. -/
theorem partsOf_unpack (bits : BitVec 64) {e m : Nat} {negative : Bool}
    (he : (@unpackExponent Format.binary64 bits).toNat = e)
    (hm : (@unpackMantissa Format.binary64 bits).toNat = m)
    (hnegative : (Sign.ofBitVec (@unpackSign Format.binary64 bits) == .negative) = negative) :
    partsOf (UnpackedFloat.unpack Format.binary64 bits) =
      if e = 2047 then none
      else if e = 0 then some ⟨negative, m, -1074⟩
      else some ⟨negative, m + leadingDigit, (e : Int) - 1075⟩ := by
  change partsOf (if _ then (if _ then _ else _) else if _ then (if h : _ then _ else _) else _) = _
  have hspecial (e : BitVec 11) : e = -1#11 ↔ e.toNat = 2047 := by
    rw [← BitVec.toNat_inj]
    rfl
  have hsmall (e : BitVec 11) : e = 0#11 ↔ e.toNat = 0 := by
    rw [← BitVec.toNat_inj]
    rfl
  have hdigits (m : BitVec 52) : (1#1 ++ m).toNat = m.toNat + leadingDigit := by
    rw [BitVec.toNat_append, ← Nat.shiftLeft_add_eq_or_of_lt m.isLt, Nat.add_comm]
    rfl
  subst he hm hnegative
  by_cases hinfinite : (@unpackExponent Format.binary64 bits).toNat = 2047
  · rw [if_pos ((hspecial _).mpr hinfinite), if_pos hinfinite]
    by_cases hzero : @unpackMantissa Format.binary64 bits = 0#_
    · rw [if_pos hzero]
      rfl
    · rw [if_neg hzero]
      rfl
  rw [if_neg (mt (hspecial _).mp hinfinite), if_neg hinfinite]
  by_cases hsubnormal : (@unpackExponent Format.binary64 bits).toNat = 0
  · rw [if_pos ((hsmall _).mpr hsubnormal), if_pos hsubnormal]
    by_cases hzero : @unpackMantissa Format.binary64 bits = 0#_
    · rw [dif_pos hzero, hzero]
      rfl
    · -- a subnormal double has the exponent of the smallest normal ones
      rw [dif_neg hzero]
      exact congrArg (fun n : Nat => some (Parts.mk _ _ ((n : Int) - 1075 + 1))) hsubnormal
  · rw [if_neg (mt (hsmall _).mp hsubnormal), if_neg hsubnormal]
    exact congrArg (fun n => some (Parts.mk _ n _)) (hdigits _)

theorem parts?_eq_partsOf (x : Float) : parts? x = partsOf x.toModel.unpack := by
  have hunpack : x.toModel.unpack = UnpackedFloat.unpack Format.binary64 x.toBits.toBitVec := rfl
  rw [hunpack]
  exact (partsOf_unpack _ (toNat_exponent _).symm (toNat_fraction _).symm (sign_eq _).symm).symm

/-- Exactly the finite doubles have an integer part. -/
theorem isSome_truncate?_iff : (truncate? x).isSome = true ↔ x.isFinite = true := by
  have hfinite : x.isFinite = x.toModel.unpack.isFinite := rfl
  rw [truncate?, Option.isSome_map, parts?_eq_partsOf, hfinite]
  cases x.toModel.unpack <;> exact Iff.rfl

theorem mantissa_lt (h : parts? x = some p) : p.mantissa < 9007199254740992 := by
  have hfraction : (x.toBits &&& 0xFFFFFFFFFFFFF).toNat < leadingDigit := by
    rw [toNat_fraction]
    exact (@unpackMantissa Format.binary64 x.toBits.toBitVec).isLt
  simp only [leadingDigit] at hfraction
  simp only [parts?, leadingDigit] at h
  split_ifs at h <;> cases h <;> dsimp only <;> omega

/-! ### A thousand millions -/

/-- The parts are in the order of doubles no larger than those of a thousand millions, which are `10 ^ 9 * 2 ^ 23`
and the exponent -23. -/
def Parts.IsBounded (p : Parts) : Prop :=
  p.exponent < -23 ∨ p.exponent = -23 ∧ p.mantissa ≤ 8388608000000000

theorem Parts.IsBounded.floor_le (h : p.IsBounded) (hmantissa : p.mantissa < 9007199254740992) :
    p.floor ≤ 1000000000 := by
  have hneg : ¬ 0 ≤ p.exponent := by
    rcases h with h | h <;> omega
  rw [Parts.floor, if_neg hneg]
  rcases h with hlower | ⟨hsame, hle⟩
  · -- below that exponent even the largest mantissa stays below `2 ^ 29`
    have hpow : 16777216 ≤ Nat.pow 2 (-p.exponent).toNat :=
      Nat.pow_le_pow_right (Nat.succ_pos 1) (show 24 ≤ (-p.exponent).toNat by omega)
    calc p.mantissa / Nat.pow 2 (-p.exponent).toNat
        ≤ p.mantissa / 16777216 := Nat.div_le_div_left hpow (by decide)
      _ ≤ 1000000000 := by omega
  · have hpow : Nat.pow 2 (-p.exponent).toNat = 8388608 := by
      rw [hsame]
      rfl
    rw [hpow]
    omega

theorem unpack_bound : (1e9 : Float).toModel.unpack = .finite .positive 8388608000000000 (-23) (by decide) :=
  rfl

theorem unpack_neg_bound :
    (-1e9 : Float).toModel.unpack = .finite .negative 8388608000000000 (-23) (by decide) := rfl

/-- Between the negative bound and the bound a double is finite and its parts are bounded. -/
theorem exists_parts?_of_le (hlow : -1e9 ≤ x) (hhigh : x ≤ 1e9) :
    ∃ p, parts? x = some p ∧ p.IsBounded := by
  have hlow' : ((-1e9 : Float).toModel.unpack.compare x.toModel.unpack).any (·.isLE) = true :=
    of_decide_eq_true hlow
  have hhigh' : (x.toModel.unpack.compare (1e9 : Float).toModel.unpack).any (·.isLE) = true :=
    of_decide_eq_true hhigh
  rw [unpack_neg_bound] at hlow'
  rw [unpack_bound] at hhigh'
  rw [parts?_eq_partsOf]
  cases hx : x.toModel.unpack with
  | notANumber =>
      rw [hx] at hhigh'
      exact absurd hhigh' Bool.false_ne_true
  | infinity sign =>
      rw [hx] at hlow' hhigh'
      cases sign with
      | positive => exact absurd hhigh' Bool.false_ne_true
      | negative => exact absurd hlow' Bool.false_ne_true
  | zero sign => exact ⟨_, rfl, .inl (show (-1074 : Int) < -23 by decide)⟩
  | finite sign mantissa exponent hpos =>
      rw [hx] at hlow' hhigh'
      refine ⟨_, rfl, ?_⟩
      cases sign with
      | positive =>
          have hle : ((compare exponent (-23)).then (compare mantissa 8388608000000000)).isLE = true := hhigh'
          simpa [Ordering.isLE_then_iff_or, Parts.IsBounded, Int.compare_eq_lt, Std.isLE_compare] using hle
      | negative =>
          have hle : ((compare (-23) exponent).then (compare 8388608000000000 mantissa)).swap.isLE = true :=
            hlow'
          simpa [Ordering.swap_then, Int.compare_swap, Nat.compare_swap, Ordering.isLE_then_iff_or,
            Parts.IsBounded, Int.compare_eq_lt, Std.isLE_compare, -Ordering.isLE_swap] using hle

/-- No integer part is larger than the bound that its double keeps to. -/
theorem truncate?_of_le (hlow : -1e9 ≤ x) (hhigh : x ≤ 1e9) :
    ∃ n, truncate? x = some n ∧ -1000000000 ≤ n ∧ n ≤ 1000000000 := by
  obtain ⟨p, hp, hbounded⟩ := exists_parts?_of_le hlow hhigh
  have hfloor := hbounded.floor_le (mantissa_lt hp)
  refine ⟨p.truncate, by rw [truncate?, hp, Option.map_some], ?_⟩
  rw [Parts.truncate]
  split_ifs <;> omega

end AutoProxy.Number
