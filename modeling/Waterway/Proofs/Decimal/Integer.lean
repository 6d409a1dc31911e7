import Waterway.Decimal.Integer
import Waterway.Proofs.Instant.Text

/-!
# Integer literals

Which texts are integers of a range, and which integers they are. The reader looks at the value of the digits read so
far, and that value only ever moves away from zero; so a literal is read if its own value lies in the range.

## Main definitions

- `IsNumeral` — decimal digits that stand for a number
- `IntegerRange.IsLiteral` — a text that is an integer of a range

## Main statements

- `IntegerRange.read_eq_ok_iff` — the literals of a range are read as what they are, and nothing else is read

## Design notes

A range is asked to contain zero. All ranges of machine words do, and for another one the reader would refuse literals
that start with zeros.
-/

namespace Waterway.Decimal

/-- Decimal digits, at least one, that stand for a number. -/
structure IsNumeral (digits : List Char) (n : Nat) : Prop where
  nonempty : digits ≠ []
  isDigit : ∀ c ∈ digits, c.isDigit
  value : Nat.ofDigitChars 10 digits 0 = n

theorem le_ofDigitChars (digits : List Char) (n : Nat) : n ≤ Nat.ofDigitChars 10 digits n := by
  rw [Nat.ofDigitChars_eq_ofDigitChars_zero]
  have hpos : 0 < 10 ^ digits.length := Nat.pow_pos (by omega)
  have hle : n ≤ 10 ^ digits.length * n := Nat.le_mul_of_pos_left n hpos
  omega

theorem digitValue?_eq_some {c : Char} (h : c.isDigit) : digitValue? c = some (c.toNat - '0'.toNat) := by
  obtain ⟨hleast, hgreatest⟩ := Instant.toNat_of_isDigit h
  exact if_pos ⟨Char.le_def.mpr hleast, Char.le_def.mpr hgreatest⟩

theorem digitValue?_eq_none {c : Char} (h : ¬c.isDigit) : digitValue? c = none := by
  refine if_neg fun ⟨hleast, hgreatest⟩ => h ?_
  simp only [Char.isDigit, Bool.and_eq_true, decide_eq_true_eq]
  exact ⟨hleast, hgreatest⟩

namespace IntegerRange

variable {r : IntegerRange}

theorem contains_iff {n : Int} : r.contains n ↔ r.least ≤ n ∧ n ≤ r.greatest := by
  rw [contains, Bool.and_eq_true, decide_eq_true_iff, decide_eq_true_iff]

theorem contains_zero_signed (bits : Nat) : (signed bits).contains 0 := by
  have hpos : 0 < Nat.pow 2 (bits - 1) := Nat.pow_pos (by omega)
  rw [contains_iff]
  simp only [signed]
  omega

theorem contains_zero_unsigned (bits : Nat) : (unsigned bits).contains 0 := by
  have hpos : 0 < Nat.pow 2 bits := Nat.pow_pos (by omega)
  rw [contains_iff]
  simp only [unsigned]
  omega

/-- A text that is an integer of the range: digits, with or without a sign. Where there are no negative integers, a
minus sign is none. -/
inductive IsLiteral (r : IntegerRange) : List Char → Int → Prop
  | bare {digits : List Char} {n : Nat} (hdigits : IsNumeral digits n) (hrange : r.contains n) :
      IsLiteral r digits n
  | plus {digits : List Char} {n : Nat} (hdigits : IsNumeral digits n) (hrange : r.contains n) :
      IsLiteral r ('+' :: digits) n
  | minus {digits : List Char} {n : Nat} (hsigned : r.least < 0) (hdigits : IsNumeral digits n)
      (hrange : r.contains (-n)) : IsLiteral r ('-' :: digits) (-n)

/-- The integer of a size, counted downwards if negative. -/
def counted (negative : Bool) (n : Nat) : Int :=
  if negative then -n else n

/-- An integer between zero and one of the range lies in the range. -/
theorem contains_counted_of_le {negative : Bool} {m n : Nat} (hzero : r.contains 0) (hle : m ≤ n)
    (hn : r.contains (counted negative n)) : r.contains (counted negative m) := by
  rw [contains_iff] at *
  cases negative <;>
  · simp only [counted, if_true, Bool.false_eq_true, if_false] at *
    omega

/-- Digits are read as the number that they continue, if that number lies in the range. -/
theorem readDigits_eq_ok_iff (hzero : r.contains 0) {negative : Bool} {cs : List Char} {m : Nat} {n : Int}
    (hm : r.contains (counted negative m)) : r.readDigits negative (counted negative m) cs = .ok n ↔
      (∀ c ∈ cs, c.isDigit) ∧ counted negative (Nat.ofDigitChars 10 cs m) = n ∧ r.contains n := by
  induction cs generalizing m with
  | nil =>
    simp only [readDigits, Except.ok.injEq, List.not_mem_nil, false_implies, implies_true, true_and,
      Nat.ofDigitChars_nil]
    exact ⟨fun h => ⟨h, h ▸ hm⟩, And.left⟩
  | cons c cs ih =>
    by_cases hc : c.isDigit
    case neg =>
      rw [readDigits, digitValue?_eq_none hc]
      exact iff_of_false nofun fun h => hc (h.1 c List.mem_cons_self)
    case pos =>
      -- the digits so far with the next one
      let next := 10 * m + (c.toNat - '0'.toNat)
      have hnext : (if negative then counted negative m * 10 - ((c.toNat - '0'.toNat : Nat) : Int)
          else counted negative m * 10 + ((c.toNat - '0'.toNat : Nat) : Int)) = counted negative next := by
        cases negative <;> simp only [counted, next, if_true, Bool.false_eq_true, if_false] <;> omega
      have hread : r.readDigits negative (counted negative m) (c :: cs) =
          if r.greatest < counted negative next then .error .tooLarge
          else if counted negative next < r.least then .error .tooSmall
          else r.readDigits negative (counted negative next) cs := by
        rw [readDigits, digitValue?_eq_some hc]
        simp only [hnext]
      have hdigits : (∀ d ∈ c :: cs, d.isDigit) ↔ ∀ d ∈ cs, d.isDigit := by
        rw [List.forall_mem_cons]
        exact and_iff_right hc
      rw [hread, hdigits, Nat.ofDigitChars_cons]
      by_cases hin : r.contains (counted negative next)
      case pos =>
        obtain ⟨hleast, hgreatest⟩ := contains_iff.mp hin
        rw [if_neg (Int.not_lt.mpr hgreatest), if_neg (Int.not_lt.mpr hleast)]
        exact ih hin
      case neg =>
        -- what comes after cannot bring the number back
        have hout : ¬r.contains (counted negative (Nat.ofDigitChars 10 cs next)) := fun h =>
          hin (contains_counted_of_le hzero (le_ofDigitChars cs next) h)
        refine iff_of_false (fun h => ?_) fun ⟨_, hvalue, h⟩ => hout (hvalue ▸ h)
        rw [contains_iff] at hin
        split at h
        · cases h
        · split at h
          · cases h
          · omega

theorem readDigits_zero_eq_ok_iff (hzero : r.contains 0) {negative : Bool} {cs : List Char} {n : Int} (hcs : cs ≠ []) :
    r.readDigits negative 0 cs = .ok n ↔
      ∃ m, IsNumeral cs m ∧ counted negative m = n ∧ r.contains n := by
  have hstart : counted negative 0 = 0 := by cases negative <;> rfl
  have hread : r.readDigits negative (counted negative 0) cs = .ok n ↔ _ :=
    readDigits_eq_ok_iff hzero (hstart ▸ hzero)
  rw [hstart] at hread
  rw [hread]
  constructor
  · rintro ⟨hdigits, hvalue, hrange⟩
    exact ⟨_, ⟨hcs, hdigits, rfl⟩, hvalue, hrange⟩
  · rintro ⟨m, ⟨-, hdigits, rfl⟩, hvalue, hrange⟩
    exact ⟨hdigits, hvalue, hrange⟩

theorem read_plus {cs : List Char} (hcs : cs ≠ []) : r.read ('+' :: cs) = r.readDigits false 0 cs := by
  cases cs with
  | nil => exact absurd rfl hcs
  | cons c cs => rfl

theorem read_minus {cs : List Char} (hcs : cs ≠ []) :
    r.read ('-' :: cs) = if r.least < 0 then r.readDigits true 0 cs else .error .invalidDigit := by
  cases cs with
  | nil => exact absurd rfl hcs
  | cons c cs => rfl

theorem read_bare {c : Char} {cs : List Char} (hplus : c ≠ '+') (hminus : c ≠ '-') :
    r.read (c :: cs) = r.readDigits false 0 (c :: cs) := by
  unfold read
  split <;> simp_all

theorem isLiteral_plus_iff {cs : List Char} {n : Int} :
    r.IsLiteral ('+' :: cs) n ↔ ∃ m : Nat, IsNumeral cs m ∧ (m : Int) = n ∧ r.contains n := by
  constructor
  · intro h
    cases h with
    | bare hdigits => exact absurd (hdigits.isDigit '+' List.mem_cons_self) (by decide)
    | plus hdigits hrange => exact ⟨_, hdigits, rfl, hrange⟩
  · rintro ⟨m, hdigits, rfl, hrange⟩
    exact .plus hdigits hrange

theorem isLiteral_minus_iff {cs : List Char} {n : Int} :
    r.IsLiteral ('-' :: cs) n ↔ r.least < 0 ∧ ∃ m : Nat, IsNumeral cs m ∧ -(m : Int) = n ∧ r.contains n := by
  constructor
  · intro h
    cases h with
    | bare hdigits => exact absurd (hdigits.isDigit '-' List.mem_cons_self) (by decide)
    | minus hsigned hdigits hrange => exact ⟨hsigned, _, hdigits, rfl, hrange⟩
  · rintro ⟨hsigned, m, hdigits, rfl, hrange⟩
    exact .minus hsigned hdigits hrange

theorem isLiteral_bare_iff {c : Char} {cs : List Char} {n : Int} (hplus : c ≠ '+') (hminus : c ≠ '-') :
    r.IsLiteral (c :: cs) n ↔ ∃ m : Nat, IsNumeral (c :: cs) m ∧ (m : Int) = n ∧ r.contains n := by
  constructor
  · intro h
    cases h with
    | bare hdigits hrange => exact ⟨_, hdigits, rfl, hrange⟩
    | plus => exact absurd rfl hplus
    | minus => exact absurd rfl hminus
  · rintro ⟨m, hdigits, rfl, hrange⟩
    exact .bare hdigits hrange

/-- The literals of a range are read as what they are, and nothing else is read. -/
theorem read_eq_ok_iff (hzero : r.contains 0) {text : List Char} {n : Int} :
    r.read text = .ok n ↔ r.IsLiteral text n := by
  cases text with
  | nil =>
    refine iff_of_false nofun fun h => ?_
    cases h with
    | bare hdigits => exact hdigits.nonempty rfl
  | cons c cs =>
    by_cases hplus : c = '+'
    · subst hplus
      rw [isLiteral_plus_iff]
      by_cases hcs : cs = []
      · subst hcs
        exact iff_of_false nofun fun ⟨_, hdigits, _⟩ => hdigits.nonempty rfl
      · rw [read_plus hcs, readDigits_zero_eq_ok_iff hzero hcs]
        rfl
    by_cases hminus : c = '-'
    · subst hminus
      rw [isLiteral_minus_iff]
      by_cases hcs : cs = []
      · subst hcs
        exact iff_of_false nofun fun ⟨_, _, hdigits, _⟩ => hdigits.nonempty rfl
      · rw [read_minus hcs]
        split
        case isTrue hsigned =>
          rw [readDigits_zero_eq_ok_iff hzero hcs, and_iff_right hsigned]
          rfl
        case isFalse hsigned => exact iff_of_false nofun fun h => hsigned h.1
    · rw [read_bare hplus hminus, isLiteral_bare_iff hplus hminus,
        readDigits_zero_eq_ok_iff hzero (List.cons_ne_nil c cs)]
      rfl

/-- A text is a literal of one integer at most. -/
theorem IsLiteral.eq (hzero : r.contains 0) {text : List Char} {m n : Int} (hm : r.IsLiteral text m)
    (hn : r.IsLiteral text n) : m = n := by
  rw [← read_eq_ok_iff hzero] at hm hn
  exact Except.ok.inj (hm.symm.trans hn)

theorem IsLiteral.contains {text : List Char} {n : Int} (h : r.IsLiteral text n) : r.contains n := by
  cases h with
  | bare _ hrange => exact hrange
  | plus _ hrange => exact hrange
  | minus _ _ hrange => exact hrange

end IntegerRange

end Waterway.Decimal
