import Waterway.Proofs.Decimal.Finite

/-!
# The nearest double

The result of an operation on doubles is rounded to the nearest double. The bits that are dropped say where between two
doubles the exact result lies, and so nothing is lost before it is rounded. Whether there is room for its exponent is
decided by the size of the exact result alone.

## Main definitions

- `valueOf` — the rational number that an unpacked double is
- `overflow` — the least number that is rounded to infinity
- `StandsFor` — what is known of a number by its first bits
- `Fits` — an unpacked double has an exponent that there is room for
- `Rounds` — an unpacked double has the exponent to which numbers of some size are rounded

## Main statements

- `rounds_roundWithAccuracy` — what becomes of a number of which enough bits are known
- `Regular.rounds_sub`, `Regular.rounds_mul`, `Regular.rounds_div` — what becomes of differences, products and quotients

## Design notes

Numbers are compared as rational numbers, in units of a power of two, and without their sign.
-/

namespace Waterway.Decimal

open Float.Model Float.Model.UnpackedFloat

/-- The least number that is rounded to infinity: half a unit above the greatest finite double. -/
def overflow : Rat :=
  2 ^ 1024 - 2 ^ 970

/-- The number that an unpacked double is; zero, if it is none. -/
def valueOf : UnpackedFloat → Rat
  | .finite sign m e _ => (sign.apply m : Int) * 2 ^ e
  | .zero _ | .infinity _ | .notANumber => 0

theorem abs_valueOf_finite (sign : Sign) (m : Nat) (e : Int) (hpos : 0 < m) :
    |valueOf (.finite sign m e hpos)| = m * 2 ^ e := by
  rw [valueOf, abs_mul, abs_of_pos (zpow_pos (by norm_num : (0 : Rat) < 2) e)]
  congr 1
  cases sign <;> simp [Sign.apply]

/-! ## What is known of a number by its first bits -/

/-- A significand with its two bits stands for a number: the bits say where between the significand and the next one the
number lies. -/
def StandsFor (em : ExtendedMantissa) (q : Rat) : Prop :=
  match em.roundBit, em.stickyBit with
  | false, false => q = em.mantissa
  | false, true => (em.mantissa : Rat) < q ∧ q < em.mantissa + 1 / 2
  | true, false => q = em.mantissa + 1 / 2
  | true, true => (em.mantissa : Rat) + 1 / 2 < q ∧ q < em.mantissa + 1

namespace StandsFor

variable {em : ExtendedMantissa} {q : Rat}

theorem exact (m : Nat) : StandsFor (.ofMantissaAndAccuracy m .exact) m :=
  rfl

theorem le (h : StandsFor em q) : (em.mantissa : Rat) ≤ q := by
  rcases em with ⟨m, _ | _, _ | _⟩ <;> simp only [StandsFor] at h
  · exact h.ge
  · exact h.1.le
  · linarith
  · linarith

theorem lt (h : StandsFor em q) : q < em.mantissa + 1 := by
  rcases em with ⟨m, _ | _, _ | _⟩ <;> simp only [StandsFor] at h
  · linarith
  · linarith
  · linarith
  · exact h.2

theorem shiftRightOne (h : StandsFor em q) : StandsFor em.shiftRightOne (q / 2) := by
  rcases em with ⟨m, roundBit, stickyBit⟩
  have hlow := h.le
  have hhigh := h.lt
  dsimp only at hlow hhigh
  have hbit : (m % 2 != 0) = false ∧ m = 2 * (m / 2) ∨ (m % 2 != 0) = true ∧ m = 2 * (m / 2) + 1 := by grind
  -- the bit that is dropped says in which half the number lies, and the others whether it is the start of that half
  rcases hbit with ⟨hbit, hm⟩ | ⟨hbit, hm⟩ <;> have hm : (m : Rat) = _ := congrArg Nat.cast hm <;>
    push_cast at hm <;> cases roundBit <;> cases stickyBit <;>
    simp only [StandsFor, ExtendedMantissa.shiftRightOne, hbit, Bool.or_false, Bool.or_true] at h ⊢ <;>
    first | linarith | exact ⟨by linarith, by linarith⟩

theorem shiftRight (h : StandsFor em q) (k : Nat) : StandsFor (em >>> k) (q / 2 ^ k) := by
  change StandsFor (k.repeat ExtendedMantissa.shiftRightOne em) _
  induction k with
  | zero => simpa [Nat.repeat] using h
  | succ k ih =>
    rw [Nat.repeat, pow_succ, ← div_div]
    exact ih.shiftRightOne

/-- The remainder of a division says where the quotient lies. -/
theorem div (n : Nat) {d : Nat} (hd : 0 < d) :
    StandsFor (.ofMantissaAndAccuracy (n / d) (accuracyOfFraction (n % d) d)) (n / d) := by
  have hpos : (0 : Rat) < d := by exact_mod_cast hd
  have hquotient : (n : Rat) / d = (n / d : Nat) + (n % d : Nat) / d := by
    rw [eq_comm, ← mul_div_cancel_left₀ ((n / d : Nat) : Rat) hpos.ne', ← add_div]
    congr 1
    exact_mod_cast Nat.div_add_mod n d
  have hlt : ((n % d : Nat) : Rat) < d := by exact_mod_cast Nat.mod_lt n hd
  generalize n % d = r at hquotient hlt ⊢
  rw [hquotient, accuracyOfFraction]
  split
  case isTrue hzero => simp [StandsFor, ExtendedMantissa.ofMantissaAndAccuracy, hzero]
  case isFalse hne =>
    have hr : (0 : Rat) < r := by exact_mod_cast Nat.pos_of_ne_zero hne
    have hfraction : 0 < (r : Rat) / d := div_pos hr hpos
    rcases hcompare : compare (2 * r) d with _ | _ | _
    · have htwice : 2 * (r : Rat) < d := by exact_mod_cast Nat.compare_eq_lt.mp hcompare
      have hhalf : (r : Rat) / d < 1 / 2 := by
        rw [div_lt_iff₀ hpos]
        linarith
      show ((n / d : Nat) : Rat) < _ ∧ _ < ((n / d : Nat) : Rat) + 1 / 2
      exact ⟨by linarith, by linarith⟩
    · have htwice : 2 * (r : Rat) = d := by exact_mod_cast Nat.compare_eq_eq.mp hcompare
      have hhalf : (r : Rat) / d = 1 / 2 := by
        rw [div_eq_iff hpos.ne']
        linarith
      exact congrArg _ hhalf
    · have htwice : (d : Rat) < 2 * r := by exact_mod_cast Nat.compare_eq_gt.mp hcompare
      have hhalf : 1 / 2 < (r : Rat) / d := by
        rw [lt_div_iff₀ hpos]
        linarith
      have hbelow : (r : Rat) / d < 1 := (div_lt_one hpos).mpr hlt
      show ((n / d : Nat) : Rat) + 1 / 2 < _ ∧ _ < ((n / d : Nat) : Rat) + 1
      exact ⟨by linarith, by linarith⟩

theorem lt_half (h : StandsFor em q) (hbit : em.roundBit = false) : q < em.mantissa + 1 / 2 := by
  rcases em with ⟨m, _, _ | _⟩ <;> cases hbit <;> simp only [StandsFor] at h
  · linarith
  · exact h.2

theorem half_le (h : StandsFor em q) (hbit : em.roundBit = true) : (em.mantissa : Rat) + 1 / 2 ≤ q := by
  rcases em with ⟨m, _, _ | _⟩ <;> cases hbit <;> simp only [StandsFor] at h
  · exact h.ge
  · exact h.1.le

/-- A number is rounded to less than an even one if it is less than half a unit below. -/
theorem roundedMantissa_lt_iff (h : StandsFor em q) {n : Nat} (heven : n % 2 = 0) :
    em.roundedMantissa < n ↔ q < n - 1 / 2 := by
  cases hbit : em.roundBit with
  | false =>
    have hrounded : em.roundedMantissa < n ↔ em.mantissa + 1 ≤ n := by
      rcases em with ⟨m, _, _ | _⟩ <;> cases hbit <;> rfl
    have hlow := h.le
    have hhalf := h.lt_half hbit
    rw [hrounded]
    constructor
    · intro hle
      have hle : (em.mantissa : Rat) + 1 ≤ n := by exact_mod_cast hle
      linarith
    · intro hlt
      have hlt : (em.mantissa : Rat) < n := by linarith
      exact_mod_cast hlt
  | true =>
    -- half a unit above the significand, the even one of the two neighbours is taken
    have hrounded : em.roundedMantissa < n ↔ em.mantissa + 2 ≤ n := by
      rcases em with ⟨m, _, _ | _⟩ <;> cases hbit
      · show m + m % 2 < n ↔ m + 2 ≤ n
        omega
      · rfl
    have hhigh := h.lt
    have hhalf := h.half_le hbit
    rw [hrounded]
    constructor
    · intro hle
      have hle : (em.mantissa : Rat) + 2 ≤ n := by exact_mod_cast hle
      linarith
    · intro hlt
      have hlt : (em.mantissa : Rat) + 1 < n := by linarith
      exact_mod_cast hlt

end StandsFor

/-! ## Rounding -/

/-- An unpacked double has an exponent that there is room for. -/
def Fits : UnpackedFloat → Prop
  | .zero _ => True
  | .finite _ _ e _ => e ≤ 971
  | .infinity _ | .notANumber => False

theorem overflow_eq : overflow = (2 ^ 53 - 1 / 2) * 2 ^ (971 : Int) := by
  have hpower : (2 : Rat) ^ 1024 = 2 ^ 54 * 2 ^ 970 := by
    rw [← pow_add]
  have hunit : (2 : Rat) ^ (971 : Int) = 2 * 2 ^ 970 := by
    rw [show (971 : Int) = (970 + 1 : Nat) from rfl, zpow_natCast, pow_succ']
  rw [overflow, hpower, hunit]
  generalize (2 : Rat) ^ 970 = unit
  ring

theorem overflow_pos : 0 < overflow := by
  rw [overflow_eq]
  positivity

theorem shiftToTargetExponent_eq {m : Nat} {e : Int} {accuracy : Accuracy} {k : Nat}
    (hk : (max ((m.log2 : Int) + 1 + e - 53) (-1074) - e).toNat = k) :
    shiftToTargetExponent .binary64 m e accuracy =
      (ExtendedMantissa.ofMantissaAndAccuracy m accuracy >>> k, e + k) := by
  subst hk
  rfl

/-- There are enough bits to round: as many as a significand has, or all down to the least exponent. -/
def Enough (m : Nat) (e : Int) : Prop :=
  2 ^ 52 ≤ m ∨ e ≤ -1074

theorem mantissa_shiftRight_eq (em : ExtendedMantissa) (k : Nat) : (em >>> k).mantissa = em.mantissa / 2 ^ k := by
  induction k with
  | zero => exact (Nat.div_one _).symm
  | succ k ih =>
    rw [pow_succ, ← Nat.div_div_eq_div_mul, ← ih]
    rfl

/-- With enough bits the first shift leaves a significand of at most 53 bits; it has all of them, unless it is at the
least exponent. -/
theorem shiftToTargetExponent_standsFor {m : Nat} {e : Int} {accuracy : Accuracy} {q : Rat}
    (h : StandsFor (.ofMantissaAndAccuracy m accuracy) q) (henough : Enough m e) :
    ∃ em t, shiftToTargetExponent .binary64 m e accuracy = (em, t) ∧ StandsFor em (q * 2 ^ e / 2 ^ t) ∧
      em.mantissa < 2 ^ 53 ∧ -1074 ≤ t ∧ (-1074 < t → 2 ^ 52 ≤ em.mantissa) := by
  let t := max ((m.log2 : Int) + 1 + e - 53) (-1074)
  let k := (t - e).toNat
  have ht : e + k = t := by
    rcases henough with hm | he
    · have hlog : 52 ≤ m.log2 := (Nat.le_log2 (by omega)).mpr hm
      omega
    · omega
  have hstands : StandsFor (ExtendedMantissa.ofMantissaAndAccuracy m accuracy >>> k) (q * 2 ^ e / 2 ^ t) := by
    have hshift : q * 2 ^ e / 2 ^ t = q / 2 ^ k := by
      rw [← ht, zpow_add₀ two_ne_zero, zpow_natCast, mul_comm ((2 : Rat) ^ e),
        mul_div_mul_right _ _ (zpow_ne_zero e two_ne_zero)]
    exact hshift ▸ h.shiftRight k
  have hmantissa : (ExtendedMantissa.ofMantissaAndAccuracy m accuracy >>> k).mantissa = m / 2 ^ k := by
    rw [mantissa_shiftRight_eq, mantissa_ofMantissaAndAccuracy]
  refine ⟨_, t, ?_, hstands, ?_, by omega, fun hleast => ?_⟩
  · rw [shiftToTargetExponent_eq rfl, ht]
  · rw [hmantissa, Nat.div_lt_iff_lt_mul (Nat.two_pow_pos k), ← pow_add]
    exact Nat.lt_log2_self.trans_le (Nat.pow_le_pow_right two_pos (by omega))
  · rw [hmantissa, Nat.le_div_iff_mul_le (Nat.two_pow_pos k), ← pow_add]
    have hlog : 52 + k ≤ m.log2 := by omega
    have hpos : m ≠ 0 := by
      rintro rfl
      simp at hlog
    exact (Nat.le_log2 hpos).mp hlog

/-- A significand of 53 bits is left as it is. -/
theorem shiftToTargetExponent_of_lt {m : Nat} {t : Int} (hm : m < 2 ^ 53) (ht : -1074 ≤ t) :
    shiftToTargetExponent .binary64 m t .exact = (⟨m, false, false⟩, t) := by
  have hlog : m.log2 ≤ 52 := by
    rcases Nat.eq_zero_or_pos m with rfl | hpos
    · simp
    · exact Nat.lt_succ_iff.mp ((Nat.log2_lt hpos.ne').mpr hm)
  rw [shiftToTargetExponent_eq (k := 0) (by omega)]
  exact congrArg _ (add_zero t)

/-- The carry of a significand of 53 bits goes into the exponent. -/
theorem shiftToTargetExponent_carry {t : Int} (ht : -1074 ≤ t) :
    shiftToTargetExponent .binary64 (2 ^ 53) t .exact = (⟨2 ^ 52, false, false⟩, t + 1) := by
  have hlog : (2 ^ 53).log2 = 53 := Nat.log2_two_pow
  rw [shiftToTargetExponent_eq (k := 1) (by omega)]
  rfl

/-- A number is less than `overflow` if its exponent is less than the greatest one, or if it is that one and there is no
carry. -/
theorem lt_overflow_iff {em : ExtendedMantissa} {x : Rat} {t : Int} (h : StandsFor em (x / 2 ^ t))
    (hsize : em.mantissa < 2 ^ 53) (hfull : 971 < t → 2 ^ 52 ≤ em.mantissa) :
    x < overflow ↔ t < 971 ∨ t = 971 ∧ em.roundedMantissa < 2 ^ 53 := by
  have hpos : (0 : Rat) < 2 ^ t := zpow_pos two_pos t
  have hgreatest : (0 : Rat) < 2 ^ (971 : Int) := zpow_pos two_pos 971
  rw [overflow_eq]
  rcases lt_trichotomy t 971 with ht | rfl | ht
  · refine iff_of_true ?_ (.inl ht)
    have hx : x < 2 ^ 53 * 2 ^ t := by
      have hle : (em.mantissa : Rat) + 1 ≤ 2 ^ 53 := by exact_mod_cast hsize
      exact (div_lt_iff₀ hpos).mp (h.lt.trans_le hle)
    have hunit : (2 : Rat) ^ t * 2 ≤ 2 ^ (971 : Int) := by
      rw [← zpow_add_one₀ two_ne_zero]
      exact zpow_le_zpow_right₀ one_le_two (by omega)
    generalize (2 : Rat) ^ t = unit, (2 : Rat) ^ (971 : Int) = greatest at hx hunit hgreatest ⊢
    linarith
  · rw [h.roundedMantissa_lt_iff (by decide), div_lt_iff₀ hpos, Nat.cast_pow, Nat.cast_ofNat]
    simp
  · refine iff_of_false (not_lt.mpr ?_) (by omega)
    have hx : 2 ^ 52 * 2 ^ t ≤ x := by
      have hle : (2 ^ 52 : Rat) ≤ em.mantissa := by exact_mod_cast hfull ht
      exact (le_div_iff₀ hpos).mp (hle.trans h.le)
    have hunit : (2 : Rat) ^ (971 : Int) * 2 ≤ 2 ^ t := by
      rw [← zpow_add_one₀ two_ne_zero]
      exact zpow_le_zpow_right₀ one_le_two (by omega)
    generalize (2 : Rat) ^ t = unit, (2 : Rat) ^ (971 : Int) = greatest at hx hunit hgreatest ⊢
    linarith

theorem le_roundedMantissa (em : ExtendedMantissa) : em.mantissa ≤ em.roundedMantissa := by
  rcases em with ⟨m, _ | _, _ | _⟩
  · exact Nat.le_refl m
  · exact Nat.le_refl m
  · exact Nat.le_add_right m _
  · exact Nat.le_succ m

/-- The exponent of a number is no greater than its size asks for, or the least one. -/
theorem exponent_le {em : ExtendedMantissa} {x : Rat} {t top : Int} (h : StandsFor em (x / 2 ^ t))
    (hfull : -1074 < t → 2 ^ 52 ≤ em.mantissa) (htop : -1073 ≤ top) (hx : x ≤ 2 ^ (top + 51)) : t + 1 ≤ top := by
  by_contra hgreater
  have hpos : (0 : Rat) < 2 ^ t := zpow_pos two_pos t
  have hle : (2 : Rat) ^ (52 + t) ≤ 2 ^ (top + 51) := by
    have hbits : (2 ^ 52 : Rat) ≤ em.mantissa := by exact_mod_cast hfull (by omega)
    have hlower : (2 : Rat) ^ 52 * 2 ^ t ≤ x := (le_div_iff₀ hpos).mp (hbits.trans h.le)
    exact (zpow_add₀ two_ne_zero 52 t).trans_le (hlower.trans hx)
  have hexponent := (zpow_le_zpow_iff_right₀ one_lt_two).mp hle
  omega

/-- An unpacked double has an exponent to which numbers of some size are rounded: there is room for it if the number is
less than `overflow`, and it is not much greater than the size asks for. -/
structure Rounds (x : Rat) (u : UnpackedFloat) : Prop where
  fits_iff : Fits u ↔ x < overflow
  within {top : Int} (htop : -1073 ≤ top) (hx : x ≤ 2 ^ (top + 51)) : Within 53 top u

theorem rounds_zero (sign : Sign) : Rounds 0 (.zero sign) where
  fits_iff := iff_of_true trivial overflow_pos
  within _ _ := .zero sign

/-- A number of which enough bits are known is rounded by its size. -/
theorem rounds_roundWithAccuracy {m : Nat} {e : Int} {accuracy : Accuracy} {q : Rat} (sign : Sign)
    (h : StandsFor (.ofMantissaAndAccuracy m accuracy) q) (henough : Enough m e) :
    Rounds (q * 2 ^ e) (roundWithAccuracy .binary64 sign m e accuracy) := by
  obtain ⟨em, t, hfirst, hstands, hsize, hleast, hfull⟩ := shiftToTargetExponent_standsFor h henough
  have hoverflow := lt_overflow_iff hstands hsize fun ht => hfull (by omega)
  have hexponent {top : Int} (htop : -1073 ≤ top) (hx : q * 2 ^ e ≤ 2 ^ (top + 51)) : t + 1 ≤ top :=
    exponent_le hstands hfull htop hx
  have hlower := le_roundedMantissa em
  have hupper := roundedMantissa_le em
  unfold roundWithAccuracy
  rw [hfirst]
  dsimp only
  generalize em.roundedMantissa = rounded at hoverflow hlower hupper ⊢
  rcases Nat.lt_or_ge rounded (2 ^ 53) with hlt | hge
  · rw [shiftToTargetExponent_of_lt hlt hleast]
    dsimp only
    split
    case isTrue hzero =>
      refine ⟨iff_of_true trivial (hoverflow.mpr (by omega)), fun _ _ => .zero sign⟩
    case isFalse =>
      refine ⟨(show t ≤ 971 ↔ _ by omega).trans hoverflow.symm, fun htop hx => .finite hlt ?_⟩
      have hle := hexponent htop hx
      omega
  · obtain rfl : rounded = 2 ^ 53 := by omega
    rw [shiftToTargetExponent_carry hleast]
    refine ⟨(show t + 1 ≤ 971 ↔ _ by omega).trans hoverflow.symm, fun htop hx => ?_⟩
    exact .finite (m := 2 ^ 52) (by decide) (hexponent htop hx)

theorem rounds_round {m : Nat} {e : Int} (sign : Sign) (hpos : 0 < m) :
    Rounds (m * 2 ^ e) (round .binary64 sign m e) := by
  let t := max ((m.log2 : Int) + 1 + e - 53) (-1074)
  let k := (e - t).toNat
  have hround : round .binary64 sign m e = roundWithAccuracy .binary64 sign (m <<< k) (e - k) .exact := rfl
  have henough : Enough (m <<< k) (e - k) := by
    rw [Enough, Nat.shiftLeft_eq]
    rcases le_or_gt t (-1074) with ht | ht
    · exact .inr (by omega)
    · refine .inl ?_
      calc 2 ^ 52 ≤ 2 ^ (m.log2 + k) := Nat.pow_le_pow_right two_pos (by omega)
        _ = 2 ^ m.log2 * 2 ^ k := pow_add 2 _ _
        _ ≤ m * 2 ^ k := Nat.mul_le_mul_right _ (Nat.log2_self_le hpos.ne')
  have hvalue : ((m <<< k : Nat) : Rat) * 2 ^ (e - k) = m * 2 ^ e := by
    rw [Nat.shiftLeft_eq, Nat.cast_mul, Nat.cast_pow, Nat.cast_ofNat, mul_assoc, ← zpow_natCast,
      ← zpow_add₀ two_ne_zero, add_sub_cancel]
  rw [hround, ← hvalue]
  exact rounds_roundWithAccuracy sign (.exact _) henough

theorem rounds_normalize (n e : Int) (zeroSign : Sign) :
    Rounds |n * (2 : Rat) ^ e| (UnpackedFloat.normalize .binary64 n e zeroSign) := by
  have hround (sign : Sign) {m : Nat} (hm : |n| = m) (hpos : 0 < m) :
      Rounds |n * (2 : Rat) ^ e| (round .binary64 sign m e) := by
    have hpower : (0 : Rat) < 2 ^ e := zpow_pos two_pos e
    rw [abs_mul, abs_of_pos hpower, ← Int.cast_abs, hm, Int.cast_natCast]
    exact rounds_round sign hpos
  unfold UnpackedFloat.normalize
  split
  case h_1 hcompare =>
    have hn : n < 0 := Int.compare_eq_lt.mp hcompare
    exact hround .negative (by rw [abs_of_neg hn]; omega) (by omega)
  case h_2 hcompare =>
    have hn : n = 0 := Int.compare_eq_eq.mp hcompare
    simpa [hn] using rounds_zero zeroSign
  case h_3 hcompare =>
    have hn : 0 < n := Int.compare_eq_gt.mp hcompare
    exact hround .positive (by rw [abs_of_pos hn]; omega) (by omega)

/-! ## Operations -/

/-- What a finite double is unpacked to. -/
inductive Regular : UnpackedFloat → Prop
  | zero (sign : Sign) : Regular (.zero sign)
  | finite {sign : Sign} {m : Nat} {e : Int} {hpos : 0 < m} (hsize : m < 2 ^ 53) (hroom : e ≤ 971)
    (hfull : 2 ^ 52 ≤ m ∨ e = -1074) : Regular (.finite sign m e hpos)

namespace Regular

variable {u u' : UnpackedFloat}

theorem fits (h : Regular u) : Fits u := by
  cases h with
  | zero sign => trivial
  | finite _ hroom _ => exact hroom

/-- A finite double is rounded to itself. -/
theorem rounds (h : Regular u) : Rounds |valueOf u| u := by
  cases h with
  | zero sign =>
    have hvalue : |valueOf (.zero sign)| = 0 := abs_zero
    rw [hvalue]
    exact rounds_zero sign
  | @finite sign m e hpos hsize hroom hfull =>
    let em : ExtendedMantissa := ⟨m, false, false⟩
    have hstands : StandsFor em (m * 2 ^ e / 2 ^ e) := mul_div_cancel_right₀ _ (zpow_ne_zero e two_ne_zero)
    have hbits (h : -1074 < e) : 2 ^ 52 ≤ em.mantissa := hfull.resolve_right h.ne'
    rw [abs_valueOf_finite]
    refine ⟨iff_of_true hroom ?_, fun htop hx => .finite hsize ?_⟩
    · refine (lt_overflow_iff hstands hsize fun h => hbits (by omega)).mpr ?_
      exact hroom.lt_or_eq.imp_right fun heq => ⟨heq, hsize⟩
    · have hle := exponent_le hstands hbits htop hx
      omega

theorem rounds_neg (h : Regular u) : Rounds |valueOf u| u.neg := by
  obtain ⟨hfits, hwithin⟩ := h.rounds
  refine ⟨?_, fun htop hx => (hwithin htop hx).neg⟩
  cases h with
  | zero sign => exact hfits
  | finite => exact hfits

theorem enough_mul {m m' : Nat} {e e' : Int} (hpos : 0 < m) (hpos' : 0 < m') (hfull : 2 ^ 52 ≤ m ∨ e = -1074)
    (hfull' : 2 ^ 52 ≤ m' ∨ e' = -1074) : Enough (m * m') (e + e') := by
  rcases hfull with hm | rfl
  · exact .inl (hm.trans (Nat.le_mul_of_pos_right m hpos'))
  · rcases hfull' with hm' | rfl
    · exact .inl (hm'.trans (Nat.le_mul_of_pos_left m' hpos))
    · exact .inr (by decide)

/-- A quotient has enough bits if the dividend has been shifted as far as the target asks for. -/
theorem enough_div {m m' k : Nat} {t : Int} (hpos : 0 < m) (hpos' : 0 < m')
    (hshift : -1074 < t → m'.log2 + 53 ≤ m.log2 + k) : Enough (m <<< k / m') t := by
  rcases le_or_gt t (-1074) with ht | ht
  · exact .inr ht
  · have hlog := hshift ht
    refine .inl ((Nat.le_div_iff_mul_le hpos').mpr ?_)
    calc 2 ^ 52 * m' ≤ 2 ^ 52 * 2 ^ (m'.log2 + 1) := Nat.mul_le_mul_left _ Nat.lt_log2_self.le
      _ = 2 ^ (52 + (m'.log2 + 1)) := (pow_add 2 _ _).symm
      _ ≤ 2 ^ (m.log2 + k) := Nat.pow_le_pow_right two_pos (by omega)
      _ = 2 ^ m.log2 * 2 ^ k := pow_add 2 _ _
      _ ≤ m * 2 ^ k := Nat.mul_le_mul_right _ (Nat.log2_self_le hpos.ne')
      _ = m <<< k := (Nat.shiftLeft_eq m k).symm

end Regular

theorem apply_decreaseExponent (sign : Sign) (m : Nat) {e t : Int} (hle : t ≤ e) :
    ((sign.apply (decreaseExponent m e t).1 : Int) : Rat) * 2 ^ t = (sign.apply m : Int) * 2 ^ e := by
  obtain ⟨k, rfl⟩ := Int.le.dest hle
  have hshift : (decreaseExponent m (t + k) t).1 = m * 2 ^ k := by
    show m <<< (t + k - t).toNat = m * 2 ^ k
    rw [add_sub_cancel_left, Int.toNat_natCast, Nat.shiftLeft_eq]
  rw [hshift, zpow_add₀ two_ne_zero, zpow_natCast]
  cases sign <;> simp only [Sign.apply] <;> push_cast <;> ring

namespace Regular

variable {u u' : UnpackedFloat}

theorem rounds_sub (h : Regular u) (h' : Regular u') :
    Rounds |valueOf u - valueOf u'| (sub .binary64 u u') := by
  cases h with
  | zero sign =>
    have hvalue : valueOf (.zero sign) = 0 := rfl
    rw [hvalue, zero_sub, abs_neg]
    cases h' with
    | zero sign' =>
      have hvalue' : valueOf (.zero sign') = 0 := rfl
      rw [hvalue', abs_zero, UnpackedFloat.sub]
      split <;> exact rounds_zero _
    | finite hsize' hroom' hfull' => exact (Regular.finite hsize' hroom' hfull').rounds_neg
  | @finite sign m e hpos hsize hroom hfull =>
    cases h' with
    | zero sign' =>
      have hvalue : valueOf (.zero sign') = 0 := rfl
      rw [hvalue, sub_zero]
      exact (Regular.finite hsize hroom hfull).rounds
    | @finite sign' m' e' hpos' hsize' hroom' hfull' =>
      have hsub : sub .binary64 (.finite sign m e hpos) (.finite sign' m' e' hpos') =
          UnpackedFloat.normalize .binary64 (sign.apply (decreaseExponent m e (min e e')).1 -
            sign'.apply (decreaseExponent m' e' (min e e')).1) (min e e') .positive := rfl
      have hvalue : valueOf (.finite sign m e hpos) - valueOf (.finite sign' m' e' hpos') =
          (sign.apply (decreaseExponent m e (min e e')).1 - sign'.apply (decreaseExponent m' e' (min e e')).1 : Int) *
            2 ^ min e e' := by
        rw [Int.cast_sub, sub_mul, apply_decreaseExponent sign m (min_le_left e e'),
          apply_decreaseExponent sign' m' (min_le_right e e')]
        rfl
      rw [hsub, hvalue]
      exact rounds_normalize _ _ _

theorem rounds_mul (h : Regular u) (h' : Regular u') : Rounds |valueOf u * valueOf u'| (mul .binary64 u u') := by
  cases h with
  | zero sign =>
    have hvalue : valueOf (.zero sign) = 0 := rfl
    rw [hvalue, zero_mul, abs_zero]
    cases h' <;> exact rounds_zero _
  | @finite sign m e hpos hsize hroom hfull =>
    cases h' with
    | zero sign' =>
      have hvalue : valueOf (.zero sign') = 0 := rfl
      rw [hvalue, mul_zero, abs_zero]
      exact rounds_zero _
    | @finite sign' m' e' hpos' hsize' hroom' hfull' =>
      have hmul : mul .binary64 (.finite sign m e hpos) (.finite sign' m' e' hpos') =
          roundWithAccuracy .binary64 (sign * sign') (m * m') (e + e') .exact := rfl
      have hvalue : |valueOf (.finite sign m e hpos) * valueOf (.finite sign' m' e' hpos')| =
          (m * m' : Nat) * 2 ^ (e + e') := by
        rw [abs_mul, abs_valueOf_finite, abs_valueOf_finite, zpow_add₀ two_ne_zero, Nat.cast_mul]
        ring
      rw [hmul, hvalue]
      exact rounds_roundWithAccuracy _ (.exact _) (enough_mul hpos hpos' hfull hfull')

theorem rounds_div (h : Regular u) (h' : Regular u') (hne : valueOf u' ≠ 0) :
    Rounds |valueOf u / valueOf u'| (div .binary64 u u') := by
  cases h' with
  | zero sign' => exact absurd rfl hne
  | @finite sign' m' e' hpos' hsize' hroom' hfull' =>
    cases h with
    | zero sign =>
      have hvalue : valueOf (.zero sign) = 0 := rfl
      rw [hvalue, zero_div, abs_zero]
      exact rounds_zero _
    | @finite sign m e hpos hsize hroom hfull =>
      let t := min (e - e') (max ((m.log2 : Int) + 1 + e - (m'.log2 + 1 + e') - 53) (-1074))
      let k := (e - e' - t).toNat
      have hdiv : div .binary64 (.finite sign m e hpos) (.finite sign' m' e' hpos') =
          roundWithAccuracy .binary64 (sign / sign') ((m <<< k) / m') t (accuracyOfFraction ((m <<< k) % m') m') := rfl
      have hvalue : |valueOf (.finite sign m e hpos) / valueOf (.finite sign' m' e' hpos')| =
          (m <<< k : Nat) / m' * 2 ^ t := by
        rw [abs_div, abs_valueOf_finite, abs_valueOf_finite, Nat.shiftLeft_eq, Nat.cast_mul, Nat.cast_pow,
          Nat.cast_ofNat, mul_div_mul_comm, ← zpow_sub₀ two_ne_zero, mul_div_right_comm, mul_assoc, ← zpow_natCast,
          ← zpow_add₀ two_ne_zero]
        congr 2
        omega
      rw [hdiv, hvalue]
      exact rounds_roundWithAccuracy _ (.div _ hpos') (enough_div hpos hpos' (by omega))

end Regular

end Waterway.Decimal
