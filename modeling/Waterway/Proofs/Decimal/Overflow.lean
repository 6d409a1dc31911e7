import Waterway.Proofs.Decimal.Nearest
import Waterway.Proofs.Decimal.Order

/-!
# When doubles overflow

The result of an operation on finite doubles is finite exactly when the exact result stays below `overflow`. Far below
it, the result is about as large as the exact one.

## Main definitions

- `value` — the rational number that a double is

## Main statements

- `isFinite_sub_iff`, `isFinite_mul_iff`, `isFinite_div_iff` — when differences, products and quotients are finite
- `isFinite_roundTo_iff` — when a double can be rounded to some decimal places
- `abs_value_sub_lt`, `abs_value_mul_lt`, `abs_value_div_lt` — how large the results of operations are

## Design notes

The bounds on results are crude. Each rounding may make a result four times as large, which it never does.
-/

namespace Waterway.Decimal

open Float.Model Float.Model.UnpackedFloat

/-- The number that a double is; zero, if it is none. -/
def value (x : Float) : Rat :=
  valueOf x.toModel.unpack

/-! ## Packing -/

theorem isFinite_unpack_iff {bits : BitVec 64} :
    (unpack .binary64 bits).isFinite ↔ @unpackExponent .binary64 bits ≠ -1#11 := by
  constructor
  · intro hfinite heq
    simp only [UnpackedFloat.unpack, if_pos heq] at hfinite
    split at hfinite <;> cases hfinite
  · intro hne
    simp only [UnpackedFloat.unpack, if_neg hne]
    split
    · split <;> rfl
    · rfl

theorem regular_unpack {bits : BitVec 64} (hfinite : (unpack .binary64 bits).isFinite) :
    Regular (unpack .binary64 bits) := by
  have hne := isFinite_unpack_iff.mp hfinite
  have hbias : (Format.exponentBias .binary64 : Int) + Format.mantissaBitsWithoutImplicit .binary64 = 1075 := by decide
  simp only [UnpackedFloat.unpack, if_neg hne, hbias]
  split
  case isTrue hzero =>
    split
    · exact .zero _
    · have hsize : (@unpackMantissa .binary64 bits).toNat < 2 ^ 52 := (@unpackMantissa .binary64 bits).isLt
      exact .finite (by omega) (by simp [hzero]) (.inr (by simp [hzero]))
  case isFalse =>
    have hfull : 2 ^ 52 ≤ (1#1 ++ @unpackMantissa .binary64 bits).toNat := by
      rw [BitVec.toNat_append]
      exact Nat.left_le_or
    have hroom : (@unpackExponent .binary64 bits).toNat < 2047 := by
      have hbits : (@unpackExponent .binary64 bits).toNat < 2048 := (@unpackExponent .binary64 bits).isLt
      have hlast : (@unpackExponent .binary64 bits).toNat ≠ 2047 := fun heq => hne (BitVec.eq_of_toNat_eq heq)
      omega
    exact .finite (1#1 ++ @unpackMantissa .binary64 bits).isLt (by omega) (.inl hfull)

theorem isFinite_unpack_packComponents_iff {sign : Sign} {exponent : BitVec 11} {mantissa : BitVec 52} :
    (unpack .binary64 (packComponents .binary64 sign exponent mantissa)).isFinite ↔ exponent ≠ -1#11 := by
  have hexponent : unpackExponent (packComponents .binary64 sign exponent mantissa) = exponent :=
    unpackExponent_packComponents
  rw [isFinite_unpack_iff, hexponent]

/-- An unpacked double is packed to a finite one if its exponent is one that there is room for. -/
theorem isFinite_unpack_pack_iff (u : UnpackedFloat) : (Float.Model.pack u).unpack.isFinite ↔ Fits u := by
  show (unpack .binary64 (UnpackedFloat.pack .binary64 u)).isFinite ↔ Fits u
  cases u with
  | notANumber | infinity sign => exact iff_of_false (isFinite_unpack_packComponents_iff.not.mpr (by simp)) not_false
  | zero sign => exact iff_of_true (isFinite_unpack_packComponents_iff.mpr (by decide)) trivial
  | finite sign m e hpos =>
    let biased := (e + (1023 : Nat) + (52 : Nat)).toNat
    have hpack : UnpackedFloat.pack .binary64 (.finite sign m e hpos) =
        if 2 ^ 11 ≤ biased + 1 then packedInfinity .binary64 sign
        else if m.log2 + 1 = 53 then packComponents .binary64 sign (BitVec.ofNat 11 biased) (BitVec.ofNat 52 m)
        else packComponents .binary64 sign 0#11 (BitVec.ofNat 52 m) := rfl
    show _ ↔ e ≤ 971
    rw [hpack]
    split
    case isTrue hlarge =>
      exact iff_of_false (isFinite_unpack_packComponents_iff.not.mpr (by simp)) (by omega)
    case isFalse hsmall =>
      refine iff_of_true ?_ (by omega)
      split
      · refine isFinite_unpack_packComponents_iff.mpr fun heq => ?_
        have hbiased := congrArg BitVec.toNat heq
        rw [BitVec.toNat_ofNat, Nat.mod_eq_of_lt (by omega)] at hbiased
        have hlast : (-1#11).toNat = 2047 := by decide
        omega
      · exact isFinite_unpack_packComponents_iff.mpr (by decide)

section

variable {u u' : UnpackedFloat}

theorem isFinite_of_fits_sub (h : Fits (UnpackedFloat.sub .binary64 u u')) : u.isFinite ∧ u'.isFinite := by
  cases u <;> cases u'
  case infinity.infinity =>
    rw [UnpackedFloat.sub] at h
    split at h <;> exact False.elim h
  all_goals first | exact ⟨rfl, rfl⟩ | exact False.elim h

theorem isFinite_of_fits_mul (hu' : u'.isFinite) (h : Fits (UnpackedFloat.mul .binary64 u u')) : u.isFinite := by
  cases u' <;> cases hu' <;> cases u <;> first | rfl | exact False.elim h

theorem isFinite_of_fits_div (hu' : u'.isFinite) (h : Fits (UnpackedFloat.div .binary64 u u')) : u.isFinite := by
  cases u' <;> cases hu' <;> cases u <;> first | rfl | exact False.elim h

end

/-! ## Operations -/

section

variable {x y : Float}

theorem regular_of_isFinite (h : x.isFinite) : Regular x.toModel.unpack :=
  regular_unpack h

/-- A finite double is less than `overflow`. -/
theorem abs_value_lt (h : x.isFinite) : |value x| < overflow :=
  (regular_of_isFinite h).rounds.fits_iff.mp (regular_of_isFinite h).fits

/-- An operation on operands of some kind, and on no others, has a finite result if the exact one is less than
`overflow`. -/
theorem isFinite_iff_of_rounds {u : UnpackedFloat} {operands : Prop} {q : Rat} (hfits : Fits u → operands)
    (hrounds : operands → Rounds q u) : (Float.Model.pack u).unpack.isFinite ↔ operands ∧ q < overflow := by
  rw [isFinite_unpack_pack_iff]
  constructor
  · exact fun h => ⟨hfits h, (hrounds (hfits h)).fits_iff.mp h⟩
  · exact fun ⟨h, hlt⟩ => (hrounds h).fits_iff.mpr hlt

/-- A difference is finite if the exact one is less than `overflow`. -/
theorem isFinite_sub_iff : (x - y).isFinite ↔ x.isFinite ∧ y.isFinite ∧ |value x - value y| < overflow := by
  rw [← and_assoc]
  exact isFinite_iff_of_rounds isFinite_of_fits_sub fun h =>
    (regular_of_isFinite h.1).rounds_sub (regular_of_isFinite h.2)

/-- A product with a finite double is finite if the exact one is less than `overflow`. -/
theorem isFinite_mul_iff (hy : y.isFinite) : (x * y).isFinite ↔ x.isFinite ∧ |value x * value y| < overflow :=
  isFinite_iff_of_rounds (isFinite_of_fits_mul hy) fun hx =>
    (regular_of_isFinite hx).rounds_mul (regular_of_isFinite hy)

/-- A quotient by a finite double other than zero is finite if the exact one is less than `overflow`. -/
theorem isFinite_div_iff (hy : y.isFinite) (hne : value y ≠ 0) :
    (x / y).isFinite ↔ x.isFinite ∧ |value x / value y| < overflow :=
  isFinite_iff_of_rounds (isFinite_of_fits_div hy) fun hx =>
    (regular_of_isFinite hx).rounds_div (regular_of_isFinite hy) hne

theorem exponentField_eq (x : Float) :
    exponentField x = (@unpackExponent .binary64 x.toModel.toBits.toBitVec).toNat := by
  have hbits : (@unpackExponent .binary64 x.toModel.toBits.toBitVec).toNat =
      x.toModel.toBits.toBitVec.toNat >>> 52 % 2 ^ 11 := by
    rw [unpackExponent, BitVec.toNat_cast, BitVec.extractLsb_toNat]
    rfl
  rw [hbits, Nat.shiftRight_eq_div_pow]
  rfl

/-- A double with an exponent that leaves fractional bits is finite. -/
theorem isFinite_of_unitExponent_neg (h : unitExponent x < 0) : x.isFinite := by
  refine isFinite_unpack_iff.mpr fun heq => ?_
  have hfield : exponentField x = 2047 := by
    rw [exponentField_eq, heq]
    rfl
  rw [unitExponent, hfield] at h
  exact absurd h (by decide)

theorem significand_lt (x : Float) : significand x < 2 ^ 53 := by
  have hfraction : fractionField x < 2 ^ 52 := Nat.mod_lt _ (Nat.two_pow_pos 52)
  have hpower : Nat.pow 2 52 = 2 ^ 52 := rfl
  rw [significand, hpower]
  split <;> omega

theorem roundHalfUp_le (num : Nat) {den : Nat} (hden : 0 < den) : roundHalfUp num den ≤ num + 1 := by
  refine Nat.div_le_of_le_mul ?_
  have hle : num ≤ den * num := Nat.le_mul_of_pos_left num hden
  rw [mul_add, mul_assoc]
  omega

/-- Rounding to a whole number keeps a double finite. -/
theorem isFinite_roundDouble_iff : (roundDouble x).isFinite ↔ x.isFinite := by
  unfold roundDouble
  split
  case isFalse => rfl
  case isTrue hsmall =>
    refine iff_of_true ?_ (isFinite_of_unitExponent_neg hsmall)
    dsimp only
    have hsize := significand_lt x
    have hle := roundHalfUp_le (significand x) (Nat.two_pow_pos (unitExponent x).natAbs)
    have hnat : (Float.ofNat (roundHalfUp (significand x) (Nat.pow 2 (unitExponent x).natAbs))).isFinite :=
      (within_natToFloat (show roundHalfUp _ (2 ^ _) < _ by omega)).isFinite
    split
    · exact isFinite_neg hnat
    · exact hnat

theorem isFinite_of_value_ne_zero (h : value x ≠ 0) : x.isFinite := by
  have hunpack (u : UnpackedFloat) (hu : valueOf u ≠ 0) : u.isFinite := by
    cases u with
    | zero sign | finite sign m e hpos => rfl
    | infinity sign | notANumber => exact absurd rfl hu
  exact hunpack _ h

/-- What is greater than zero in the order of doubles is so as a number. -/
theorem value_pos_of_lt (hx : x.isFinite) (h : 0.0 < x) : 0 < value x := by
  obtain ⟨-, -, hplace⟩ := lt_iff_place.mp h
  have hzero : placeOf 0.0 = toLex (0, toLex (0, 0)) := by decide
  have hunpack (u : UnpackedFloat) (hu : u.isFinite) (hplace : toLex (0, toLex (0, 0)) < place u) : 0 < valueOf u := by
    cases u with
    | zero sign => exact absurd hplace (lt_irrefl _)
    | infinity sign | notANumber => cases hu
    | finite sign m e hpos =>
      cases sign with
      | negative => exact absurd hplace (by simp [place, Sign.apply, Prod.Lex.toLex_lt_toLex])
      | positive =>
        have hm : (0 : Rat) < m := by exact_mod_cast hpos
        have he : (0 : Rat) < 2 ^ e := zpow_pos two_pos e
        simpa [valueOf, Sign.apply] using mul_pos hm he
  exact hunpack _ hx (hzero ▸ hplace)

/-- Before it is rounded to some decimal places, a double is multiplied by the power of ten. The quotient by that power
of ten is never too large. -/
theorem isFinite_roundTo_iff {places : Nat} (hten : value (Quantity.tenTo places) = 10 ^ places) :
    (Quantity.roundTo x places).isFinite ↔ x.isFinite ∧ |value x| * 10 ^ places < overflow := by
  have hpos : (0 : Rat) < 10 ^ places := by positivity
  have hfinite : (Quantity.tenTo places : Float).isFinite := isFinite_of_value_ne_zero (hten ▸ hpos.ne')
  have hquotient (z : Float) : (z / Quantity.tenTo places).isFinite ↔ z.isFinite := by
    rw [isFinite_div_iff hfinite (hten ▸ hpos.ne'), hten, and_iff_left_iff_imp]
    intro hz
    have hone : (1 : Rat) ≤ 10 ^ places := one_le_pow₀ (by norm_num)
    rw [abs_div, abs_of_pos hpos]
    exact (div_le_self (abs_nonneg _) hone).trans_lt (abs_value_lt hz)
  rw [Quantity.roundTo, hquotient]
  refine isFinite_roundDouble_iff.trans ?_
  rw [isFinite_mul_iff hfinite, hten, abs_mul, abs_of_pos hpos]

theorem value_tenTo_one : value (Quantity.tenTo 1) = 10 ^ 1 := by
  decide +kernel

theorem value_tenTo_two : value (Quantity.tenTo 2) = 10 ^ 2 := by
  decide +kernel

theorem value_hundred : value 100.0 = 100 := by
  decide +kernel

/-! ## Sizes -/

theorem lt_overflow_of_le {q : Rat} {k : Int} (hk : k ≤ 1023) (h : q ≤ 2 ^ k) : q < overflow := by
  have hgreatest : (0 : Rat) < 2 ^ (971 : Int) := zpow_pos two_pos 971
  have hunit : (2 : Rat) ^ k ≤ 2 ^ 52 * 2 ^ (971 : Int) := by
    have hsplit : (2 : Rat) ^ (52 + 971 : Int) = 2 ^ 52 * 2 ^ (971 : Int) := zpow_add₀ two_ne_zero 52 971
    rw [← hsplit]
    exact zpow_le_zpow_right₀ one_le_two (by omega)
  rw [overflow_eq]
  generalize (2 : Rat) ^ (971 : Int) = unit at hgreatest hunit ⊢
  linarith

theorem abs_valueOf_lt {u : UnpackedFloat} {top : Int} (h : Within 53 top u) : |valueOf u| < 2 ^ (top + 53) := by
  cases h with
  | zero sign => simpa [valueOf] using zpow_pos (two_pos (α := Rat)) (top + 53)
  | @finite sign m e hpos hsize htop =>
    have hm : (m : Rat) < 2 ^ 53 := by exact_mod_cast hsize
    have hunit : (0 : Rat) < 2 ^ e := zpow_pos two_pos e
    rw [abs_valueOf_finite, add_comm, zpow_add₀ two_ne_zero]
    exact mul_lt_mul hm (zpow_le_zpow_right₀ one_le_two htop) hunit (by positivity)

theorem Rounds.abs_valueOf_lt {q : Rat} {u : UnpackedFloat} {k : Int} (h : Rounds q u) (hleast : 51 ≤ k)
    (hgreatest : k ≤ 1022) (hq : q ≤ 2 ^ k) : |valueOf (Float.Model.pack u).unpack| < 2 ^ (k + 2) := by
  have hwithin : Within 53 (k - 51) u := h.within (by omega) (by rwa [sub_add_cancel])
  have hlt := Decimal.abs_valueOf_lt (within_unpack_pack hwithin (by omega) (by omega))
  rwa [show k - 51 + 53 = k + 2 by ring] at hlt

section

variable {k : Int} (hx : x.isFinite) (hy : y.isFinite) (hleast : 51 ≤ k) (hgreatest : k ≤ 1022)
include hx hy hleast hgreatest

theorem abs_value_sub_lt (h : |value x - value y| ≤ 2 ^ k) : |value (x - y)| < 2 ^ (k + 2) :=
  ((regular_of_isFinite hx).rounds_sub (regular_of_isFinite hy)).abs_valueOf_lt hleast hgreatest h

theorem abs_value_mul_lt (h : |value x * value y| ≤ 2 ^ k) : |value (x * y)| < 2 ^ (k + 2) :=
  ((regular_of_isFinite hx).rounds_mul (regular_of_isFinite hy)).abs_valueOf_lt hleast hgreatest h

theorem abs_value_div_lt (hne : value y ≠ 0) (h : |value x / value y| ≤ 2 ^ k) : |value (x / y)| < 2 ^ (k + 2) :=
  ((regular_of_isFinite hx).rounds_div (regular_of_isFinite hy) hne).abs_valueOf_lt hleast hgreatest h

end

end

end Waterway.Decimal
