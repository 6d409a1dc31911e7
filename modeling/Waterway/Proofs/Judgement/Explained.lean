import Waterway.Proofs.Judgement.Findings

/-!
# Alerts without a word

Outside the normal tier a judgement says what the feeds give reason to say, and nothing in its place where they give
none. So an alert may come without a word: the points of the feeds are enough for it, and all of them are in bands
without words.

## Main statements

- `conditionsShown_eq_nil_iff` — when a judgement has no conditions
- `Thresholds.warningMin_le_of_classify` — an alert has the points for a warning
- `alert_wordless_iff` — which alerts come without a word
-/

namespace Waterway

open Decimal

variable {α : Type} [Quantity α]

/-- In the normal tier there is always something to say. -/
theorem conditionsShown_eq_nil_iff {tier : Tier} {found : List Condition} :
    conditionsShown tier found = [] ↔ tier ≠ .normal ∧ found = [] := by
  cases tier <;> cases found <;> simp [conditionsShown, reassurance]

theorem Thresholds.warningMin_le_of_classify {t : Thresholds} (hband : t.warningMin.toInt ≤ t.warningMax.toInt)
    (hgap : t.warningMax.toInt < t.criticalMin.toInt) {score : UInt8} (h : t.classify score ≠ .normal) :
    t.warningMin.toInt ≤ score.toNat := by
  rw [classify] at h
  split_ifs at h with hwarning hcritical
  · exact hwarning.1
  · omega
  · exact absurd rfl h

theorem conditions_judge_eq_nil_iff {e : Evidence α} {t : Thresholds} :
    (judge e t).conditions = [] ↔ (judge e t).tier ≠ .normal ∧ e.Wordless := by
  rw [← Evidence.conditions_eq_nil_iff, ← conditionsShown_eq_nil_iff]
  exact List.map_eq_nil_iff

/-- An alert comes without a word exactly if every feed that has reported is in a band without words. It has the
points for a warning then, but no more than fifty. -/
theorem alert_wordless_iff {e : Evidence α} {t : Thresholds} (hband : t.warningMin.toInt ≤ t.warningMax.toInt)
    (hgap : t.warningMax.toInt < t.criticalMin.toInt) (halert : (judge e t).tier ≠ .normal) :
    ((judge e t).conditions = [] ↔ e.Wordless) ∧
    ((judge e t).conditions = [] →
      t.warningMin.toInt ≤ (judge e t).score.toNat ∧ (judge e t).score.toNat ≤ 50) := by
  have hwordless : (judge e t).conditions = [] ↔ e.Wordless := by
    rw [conditions_judge_eq_nil_iff]
    exact and_iff_right halert
  refine ⟨hwordless, fun h => ⟨?_, ?_⟩⟩
  · exact Thresholds.warningMin_le_of_classify hband hgap halert
  · exact Evidence.score_le_of_wordless (hwordless.mp h)

/-- High water that rises a little, and middling rain. -/
def highWater : Evidence Float where
  waterLevel := some ⟨160.0, 1.2, 80.0, .rising, .year2000⟩
  weather := some ⟨5.0, "Rain", .year2000⟩

/-- It is a warning of fifty points, and nothing is said. -/
theorem alert_wordless_iff_highWater :
    (judge highWater ⟨45, 75, 76⟩).tier = .warning ∧ (judge highWater ⟨45, 75, 76⟩).score = 50 ∧
    (judge highWater ⟨45, 75, 76⟩).conditions = [] ∧ highWater.Wordless := by
  have htier : (judge highWater ⟨45, 75, 76⟩).tier = .warning := by decide
  have hconditions : (judge highWater ⟨45, 75, 76⟩).conditions = [] := by decide
  obtain ⟨hwordless, -⟩ := alert_wordless_iff (e := highWater) (t := ⟨45, 75, 76⟩) (by decide) (by decide)
    (by simp [htier])
  exact ⟨htier, by decide, hconditions, hwordless.mp hconditions⟩

/-- Middling rain alone is a warning where fifteen points are enough for one, and nothing is said. -/
theorem alert_without_reason :
    10 < (11 : Int32).toInt ∧ (11 : Int32).toInt ≤ (20 : Int32).toInt ∧ (20 : Int32).toInt < (21 : Int32).toInt ∧
    judge ({ weather := some ⟨5.0, "Rain", .year2000⟩ } : Evidence Float) ⟨11, 20, 21⟩ = ⟨.warning, 15, []⟩ := by
  decide

end Waterway
