import Mathlib

/-!
# Integers as doubles

An integer of 64 bits is read where a double is asked for. It may be rounded, but it never becomes infinite.

## Main definitions

- `Within` — an unpacked double of bounded size

## Main statements

- `within_roundWithAccuracy` — rounding keeps the size within bounds
- `within_unpack_pack` — so does packing, as long as the exponent is not too large
- `isFinite_neg` — changing the sign keeps a double finite
- `isFinite_ofInt` — the double nearest to an integer of 64 bits is finite

## Design notes

The bounds are crude: each operation may add a few bits more than it does. The exponents of doubles leave room for
that many times over.
-/

namespace Waterway.Decimal

open Float.Model Float.Model.UnpackedFloat

/-- Zero, or a significand of at most `size` bits in units of at most `2 ^ top`. -/
inductive Within (size : Nat) (top : Int) : UnpackedFloat → Prop
  | zero (sign : Sign) : Within size top (.zero sign)
  | finite {sign : Sign} {m : Nat} {e : Int} {hpos : 0 < m} (hsize : m < 2 ^ size) (htop : e ≤ top) :
    Within size top (.finite sign m e hpos)

namespace Within

variable {size : Nat} {top : Int} {u : UnpackedFloat}

theorem isFinite (h : Within size top u) : u.isFinite := by
  cases h <;> rfl

theorem isNaN (h : Within size top u) : u.isNaN = false := by
  cases h <;> rfl

theorem neg (h : Within size top u) : Within size top u.neg := by
  cases h with
  | zero sign => exact .zero _
  | finite hsize htop => exact .finite hsize htop

end Within

/-! ## Rounding -/

theorem log2_le {m size : Nat} (h : m < 2 ^ size) : m.log2 ≤ size := by
  rw [Nat.log2_eq_log_two]
  exact (Nat.log_mono_right h.le).trans (Nat.log_pow Nat.one_lt_two size).le

theorem mantissa_shiftRight (em : ExtendedMantissa) (k : Nat) : (em >>> k).mantissa ≤ em.mantissa := by
  induction k with
  | zero => exact Nat.le_refl _
  | succ k ih => exact (Nat.div_le_self _ 2).trans ih

theorem mantissa_ofMantissaAndAccuracy (m : Nat) (accuracy : Accuracy) :
    (ExtendedMantissa.ofMantissaAndAccuracy m accuracy).mantissa = m := by
  rcases accuracy with _ | ⟨_ | _ | _⟩ <;> rfl

theorem roundedMantissa_le (em : ExtendedMantissa) : em.roundedMantissa ≤ em.mantissa + 1 := by
  rcases em with ⟨m, roundBit, stickyBit⟩
  cases roundBit <;> cases stickyBit
  · exact Nat.le_succ m
  · exact Nat.le_succ m
  · show m + m % 2 ≤ m + 1
    omega
  · exact Nat.le_refl _

/-- Shifting drops bits, and raises the exponent by as many at most as there are, or to the least exponent. -/
theorem shiftToTargetExponent_le {m size : Nat} {e top : Int} (accuracy : Accuracy) (hm : m < 2 ^ size)
    (he : e + size ≤ top) (hleast : -1074 ≤ top) :
    (shiftToTargetExponent .binary64 m e accuracy).1.mantissa ≤ m ∧
      (shiftToTargetExponent .binary64 m e accuracy).2 ≤ top := by
  have hsize := log2_le hm
  constructor
  · exact (mantissa_shiftRight _ _).trans (mantissa_ofMantissaAndAccuracy m accuracy).le
  · show e + (Format.targetExponent .binary64 (totalExponent m e) - e).toNat ≤ top
    have htarget : Format.targetExponent .binary64 (totalExponent m e) =
        max (((m.log2 : Int) + 1 + e) - 53) (-1074) := rfl
    omega

/-- Rounding keeps the size within bounds. -/
theorem within_roundWithAccuracy {m size : Nat} {e top : Int} (sign : Sign) (accuracy : Accuracy) (hm : m < 2 ^ size)
    (he : e + 2 * size + 1 ≤ top) (hsize : (size : Int) ≤ top) :
    Within (size + 1) top (roundWithAccuracy .binary64 sign m e accuracy) := by
  rcases hfirst : shiftToTargetExponent .binary64 m e accuracy with ⟨em, e₁⟩
  have hem : em.mantissa ≤ m ∧ e₁ ≤ top - size - 1 := by
    have hle : _ ∧ _ ≤ top - size - 1 := shiftToTargetExponent_le (e := e) accuracy hm (by omega) (by omega)
    rwa [hfirst] at hle
  have hrounded : em.roundedMantissa < 2 ^ (size + 1) := by
    have hle := roundedMantissa_le em
    have hpos : 0 < 2 ^ size := Nat.two_pow_pos size
    omega
  -- rounding up may have added a bit, so the significand is shifted once more
  have hfinal := shiftToTargetExponent_le .exact hrounded (show e₁ + (size + 1 : Nat) ≤ top by omega) (by omega)
  unfold roundWithAccuracy
  rw [hfirst]
  dsimp only
  split
  · exact .zero sign
  · exact .finite (hfinal.1.trans_lt hrounded) hfinal.2

theorem within_round {m size : Nat} {top : Int} (sign : Sign) (hm : m < 2 ^ size) (htop : 2 * size + 160 ≤ top) :
    Within (size + 53) top (round .binary64 sign m 0) := by
  let shift := (0 - Format.targetExponent .binary64 (totalExponent m 0)).toNat
  have htarget : Format.targetExponent .binary64 (totalExponent m 0) =
      max (((m.log2 : Int) + 1 + 0) - 53) (-1074) := rfl
  have hshift : shift ≤ 52 := by omega
  have hshifted : m <<< shift < 2 ^ (size + 52) := by
    rw [Nat.shiftLeft_eq, Nat.pow_add]
    exact Nat.mul_lt_mul_of_lt_of_le hm (Nat.pow_le_pow_right (by decide) hshift) (Nat.two_pow_pos 52)
  exact within_roundWithAccuracy sign .exact hshifted (by push_cast; omega) (by push_cast; omega)

theorem within_mul_finite {sign sign' : Sign} {m m' size size' : Nat} {e e' top : Int} {hpos : 0 < m} {hpos' : 0 < m'}
    (hm : m < 2 ^ size) (hm' : m' < 2 ^ size') (htop : e + e' + 2 * (size + size') + 1 ≤ top)
    (hsize : (size + size' : Int) ≤ top) :
    Within (size + size' + 1) top (mul .binary64 (.finite sign m e hpos) (.finite sign' m' e' hpos')) := by
  have hproduct : m * m' < 2 ^ (size + size') := by
    rw [Nat.pow_add]
    exact Nat.mul_lt_mul'' hm hm'
  exact within_roundWithAccuracy _ _ hproduct (by push_cast; omega) (by push_cast; omega)

theorem within_mul {size size' : Nat} {top top' above : Int} {u u' : UnpackedFloat} (h : Within size top u)
    (h' : Within size' top' u') (habove : top + top' + 2 * (size + size') + 1 ≤ above)
    (hsize : (size + size' : Int) ≤ above) : Within (size + size' + 1) above (mul .binary64 u u') := by
  cases h with
  | zero sign => cases h' <;> exact .zero _
  | finite hm he =>
    cases h' with
    | zero sign => exact .zero _
    | finite hm' he' => exact within_mul_finite hm hm' (by omega) hsize

/-! ## Packing -/

theorem within_unpack {top : Int} {bits : BitVec 64} (hfinite : (@unpackExponent .binary64 bits).toNat < 2047)
    (htop : ((@unpackExponent .binary64 bits).toNat : Int) - 1075 ≤ top) (hleast : -1074 ≤ top) :
    Within 53 top (unpack .binary64 bits) := by
  have hne : @unpackExponent .binary64 bits ≠ -1#11 := by
    intro heq
    rw [heq] at hfinite
    exact absurd hfinite (by decide)
  have hbias : (Format.exponentBias .binary64 : Int) + Format.mantissaBitsWithoutImplicit .binary64 = 1075 := by decide
  simp only [UnpackedFloat.unpack, if_neg hne, hbias]
  split
  case isTrue hzero =>
    split
    · exact .zero _
    · exact .finite ((@unpackMantissa .binary64 bits).isLt.trans (by decide)) (by simpa [hzero] using hleast)
  case isFalse => exact .finite (1#1 ++ @unpackMantissa .binary64 bits).isLt htop

theorem within_unpack_packComponents {top : Int} (sign : Sign) (exponent : BitVec 11) (mantissa : BitVec 52)
    (hfinite : exponent.toNat < 2047) (htop : (exponent.toNat : Int) - 1075 ≤ top) (hleast : -1074 ≤ top) :
    Within 53 top (unpack .binary64 (packComponents .binary64 sign exponent mantissa)) := by
  have hexponent : unpackExponent (packComponents .binary64 sign exponent mantissa) = exponent :=
    unpackExponent_packComponents
  exact within_unpack (by rwa [hexponent]) (by rwa [hexponent]) hleast

/-- Packing keeps the size within bounds, as long as the exponent is not too large. -/
theorem within_unpack_pack {size : Nat} {top : Int} {u : UnpackedFloat} (h : Within size top u) (hleast : 0 ≤ top)
    (hgreatest : top ≤ 971) : Within 53 top (Float.Model.pack u).unpack := by
  show Within 53 top (unpack .binary64 (UnpackedFloat.pack .binary64 u))
  have hsubnormal (sign : Sign) (mantissa : BitVec 52) :
      Within 53 top (unpack .binary64 (packComponents .binary64 sign 0#11 mantissa)) :=
    within_unpack_packComponents sign 0#11 mantissa (by decide) (by simp; omega) (by omega)
  cases h with
  | zero sign => exact hsubnormal sign 0
  | @finite sign m e hpos hm he =>
    let biased := (e + (1023 : Nat) + (52 : Nat)).toNat
    have hpack : UnpackedFloat.pack .binary64 (.finite sign m e hpos) =
        if 2 ^ 11 ≤ biased + 1 then packedInfinity .binary64 sign
        else if m.log2 + 1 = 53 then packComponents .binary64 sign (BitVec.ofNat 11 biased) (BitVec.ofNat 52 m)
        else packComponents .binary64 sign 0#11 (BitVec.ofNat 52 m) := rfl
    have hbiased : (BitVec.ofNat 11 biased).toNat = biased := by
      rw [BitVec.toNat_ofNat]
      exact Nat.mod_eq_of_lt (by omega)
    rw [hpack, if_neg (by omega)]
    split
    · exact within_unpack_packComponents sign _ _ (by omega) (by omega) (by omega)
    · exact hsubnormal sign _

/-- A finite double has no more bits than doubles have room for. -/
theorem within_of_isFinite {x : Float} (h : x.isFinite) : Within 53 971 x.toModel.unpack := by
  obtain ⟨exponent, hexponent⟩ :
      ∃ e : BitVec 11, @unpackExponent .binary64 x.toModel.toBits.toBitVec = e := ⟨_, rfl⟩
  have hne : exponent ≠ -1#11 := by
    rintro rfl
    have hinfinite : ¬(unpack .binary64 x.toModel.toBits.toBitVec).isFinite := by
      simp only [UnpackedFloat.unpack, if_pos hexponent]
      split <;> simp [UnpackedFloat.isFinite]
    exact hinfinite h
  have hlt : exponent.toNat < 2047 := by
    have hbits : exponent.toNat < 2048 := exponent.isLt
    have hlast : exponent.toNat ≠ 2047 := fun heq => hne (BitVec.eq_of_toNat_eq heq)
    omega
  exact within_unpack (by rwa [hexponent]) (by rw [hexponent]; omega) (by decide)

theorem isNaN_of_isFinite {x : Float} (h : x.isFinite) : x.isNaN = false :=
  (within_of_isFinite h).isNaN

theorem isFinite_neg {x : Float} (h : x.isFinite) : (-x).isFinite :=
  (within_unpack_pack (within_of_isFinite h).neg (by decide) (by decide)).isFinite

/-! ## Integers -/

theorem within_ofNat {n size : Nat} {top : Int} (h : n < 2 ^ size) (htop : 2 * size + 160 ≤ top) :
    Within (size + 53) top (UnpackedFloat.ofNat .binary64 n) := by
  unfold UnpackedFloat.ofNat UnpackedFloat.ofInt UnpackedFloat.normalize
  split
  case h_1 hlt => exact absurd (Int.compare_eq_lt.mp hlt) (by omega)
  case h_2 => exact .zero _
  case h_3 => exact within_round .positive h htop

/-- Numbers of up to 53 bits are taken as they are and multiplied by one, all others are shifted and rounded. -/
theorem within_natToFloat {n : Nat} (h : n < 2 ^ 64) : Within 53 500 n.toFloat.toModel.unpack := by
  show Within 53 500 (Float.ofScientific n false 0).toModel.unpack
  unfold Float.ofScientific
  split
  case isTrue hfast =>
    have hone : Within 53 (-52) (Float.exactlyRepresentablePowersOfTen[0]).toModel.unpack :=
      .finite (m := 2 ^ 52) (e := -52) (by decide) (by decide)
    have hn : Within 53 266 n.toUInt64.toFloat.toModel.unpack := by
      have hword : n.toUInt64.toNat < 2 ^ 53 := by
        rw [UInt64.toNat_ofNat']
        omega
      exact within_unpack_pack (within_ofNat hword (by decide)) (by decide) (by decide)
    exact within_unpack_pack (within_mul hn hone (by decide) (by decide)) (by decide) (by decide)
  case isFalse =>
    have hscientific : Within 119 500 (UnpackedFloat.ofScientific .binary64 n 0) := by
      unfold UnpackedFloat.ofScientific
      split
      · exact .zero _
      · have hexponent : ¬(0 : Int) < -((2 ^ 11 : Int) + n.log2) := by omega
        have hbits : Format.mantissaBits .binary64 = 53 := rfl
        have hshifted : n <<< Format.mantissaBits .binary64 < 2 ^ 117 := by
          rw [Nat.shiftLeft_eq, hbits]
          omega
        rw [if_neg (by decide), if_neg hexponent, if_pos (by decide)]
        exact within_mul_finite hshifted (show 1 < 2 ^ 1 by decide) (by decide) (by decide)
    exact within_unpack_pack hscientific (by decide) (by decide)

/-- The double nearest to an integer of 64 bits is finite. -/
theorem isFinite_ofInt {n : Int} (hleast : -(2 ^ 63) ≤ n) (hgreatest : n < 2 ^ 64) : (Float.ofInt n).isFinite := by
  cases n with
  | ofNat n => exact (within_natToFloat (Int.ofNat_lt.mp hgreatest)).isFinite
  | negSucc n =>
    have hn : Within 53 500 (n + 1).toFloat.toModel.unpack := within_natToFloat (by omega)
    exact (within_unpack_pack hn.neg (by decide) (by decide)).isFinite

end Waterway.Decimal
