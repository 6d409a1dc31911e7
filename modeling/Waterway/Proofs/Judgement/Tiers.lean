import Mathlib.Tactic.SplitIfs
import Waterway.Alert.Judgement

/-!
# More risk and the tier

The warning band and the critical scores need not meet. A score between them is neither, so it is normal, although
there are lower scores that are a warning. This is the one way in which more risk can have a lower tier.

## Main definitions

- `Thresholds.InGap` — a score between the warning band and the critical scores

## Main statements

- `Thresholds.classify_eq_warning_iff`, `Thresholds.classify_eq_critical_iff`, `Thresholds.classify_eq_normal_iff` —
  which scores have which tier
- `tier_lowered_iff` — when more risk has a lower tier
-/

namespace Waterway

open Decimal

namespace Thresholds

variable {t : Thresholds} {score : UInt8}

/-- A score is above the warning band, and yet not critical. -/
def InGap (t : Thresholds) (score : UInt8) : Prop :=
  t.warningMax.toInt < score.toNat ∧ score.toNat < t.criticalMin.toInt

theorem classify_eq_warning_iff :
    t.classify score = .warning ↔ t.warningMin.toInt ≤ score.toNat ∧ score.toNat ≤ t.warningMax.toInt := by
  rw [classify]
  split_ifs with hwarning hcritical
  · exact iff_of_true rfl hwarning
  · exact iff_of_false not_false hwarning
  · exact iff_of_false not_false hwarning

/-- The band is looked at first, but it ends before the critical scores. -/
theorem classify_eq_critical_iff (hgap : t.warningMax.toInt < t.criticalMin.toInt) :
    t.classify score = .critical ↔ t.criticalMin.toInt ≤ score.toNat := by
  rw [classify]
  split_ifs with hwarning hcritical
  · exact iff_of_false not_false (by omega)
  · exact iff_of_true rfl hcritical
  · exact iff_of_false not_false hcritical

theorem classify_eq_normal_iff (hband : t.warningMin.toInt ≤ t.warningMax.toInt)
    (hgap : t.warningMax.toInt < t.criticalMin.toInt) :
    t.classify score = .normal ↔ score.toNat < t.warningMin.toInt ∨ t.InGap score := by
  rw [classify, InGap]
  split_ifs with hwarning hcritical
  · exact iff_of_false not_false (by omega)
  · exact iff_of_false not_false (by omega)
  · exact iff_of_true rfl (by omega)

/-- Of two scores, the greater one has the lower tier exactly if the other is in the band and it is in the gap. -/
theorem rank_classify_lt_iff (hband : t.warningMin.toInt ≤ t.warningMax.toInt)
    (hgap : t.warningMax.toInt < t.criticalMin.toInt) {score' : UInt8} (hscore : score ≤ score') :
    (t.classify score').rank < (t.classify score).rank ↔ t.classify score = .warning ∧ t.InGap score' := by
  rw [UInt8.le_iff_toNat_le] at hscore
  cases htier : t.classify score with
  | normal => simp [Tier.rank]
  | warning =>
    have hfirst := classify_eq_warning_iff.mp htier
    have hnormal : (t.classify score').rank < Tier.warning.rank ↔ t.classify score' = .normal := by
      cases t.classify score' <;> simp [Tier.rank]
    rw [hnormal, classify_eq_normal_iff hband hgap]
    constructor
    · rintro (hbelow | hin)
      · omega
      · exact ⟨rfl, hin⟩
    · rintro ⟨-, hin⟩
      exact .inr hin
  | critical =>
    have hfirst := (classify_eq_critical_iff hgap).mp htier
    have hsecond : t.classify score' = .critical := (classify_eq_critical_iff hgap).mpr (by omega)
    simp [hsecond]

end Thresholds

variable {α : Type} [Quantity α]

/-- More risk has a lower tier exactly if there was a warning and the score has got into the gap above the band, where
all is normal. Without a gap this does not happen. -/
theorem tier_lowered_iff {e e' : Evidence α} {t : Thresholds} (hband : t.warningMin.toInt ≤ t.warningMax.toInt)
    (hgap : t.warningMax.toInt < t.criticalMin.toInt) (hscore : (judge e t).score ≤ (judge e' t).score) :
    ((judge e' t).tier.rank < (judge e t).tier.rank ↔
      (judge e t).tier = .warning ∧ t.InGap (judge e' t).score) ∧
    (t.InGap (judge e' t).score → (judge e' t).tier = .normal) ∧
    (t.criticalMin.toInt = t.warningMax.toInt + 1 → (judge e t).tier.rank ≤ (judge e' t).tier.rank) := by
  have hlowered := Thresholds.rank_classify_lt_iff hband hgap hscore
  refine ⟨hlowered, fun hin => ?_, fun hclosed => ?_⟩
  · exact (Thresholds.classify_eq_normal_iff hband hgap).mpr (.inr hin)
  · rw [← Nat.not_lt]
    intro hlt
    obtain ⟨-, habove, hbelow⟩ := hlowered.mp hlt
    omega

/-- A waterway of which nothing is known but how blocked it is. -/
def blockedBy (level : BlockageLevel) : Evidence Float where
  blockage := some ⟨level, .year2000⟩

/-- A blocked waterway with high water. -/
def blockedAndHigh : Evidence Float :=
  { blockedBy .blocked with waterLevel := some ⟨190, 2.5, 95, .stable, .year2000⟩ }

/-- The standard thresholds leave no gap, so high water besides does not make a blocked waterway look better. -/
theorem tier_lowered_iff_standard :
    (judge (blockedBy .blocked) ⟨45, 75, 76⟩).score ≤ (judge blockedAndHigh ⟨45, 75, 76⟩).score ∧
    (judge (blockedBy .blocked) ⟨45, 75, 76⟩).tier.rank ≤ (judge blockedAndHigh ⟨45, 75, 76⟩).tier.rank := by
  have hscore : (judge (blockedBy .blocked) ⟨45, 75, 76⟩).score ≤ (judge blockedAndHigh ⟨45, 75, 76⟩).score := by
    decide
  obtain ⟨-, -, hclosed⟩ := tier_lowered_iff (by decide) (by decide) hscore
  exact ⟨hscore, hclosed (by decide)⟩

/-- Where 20 to 25 points are a warning and from 40 on they are critical, a partly blocked waterway is a warning and a
blocked one is normal. -/
theorem tier_lowered_blocked :
    (20 : Int32).toInt ≤ (25 : Int32).toInt ∧ (25 : Int32).toInt < (40 : Int32).toInt ∧
    (judge (blockedBy .partly) ⟨20, 25, 40⟩).score ≤ (judge (blockedBy .blocked) ⟨20, 25, 40⟩).score ∧
    ¬(judge (blockedBy .partly) ⟨20, 25, 40⟩).tier.rank ≤ (judge (blockedBy .blocked) ⟨20, 25, 40⟩).tier.rank := by
  decide

end Waterway
