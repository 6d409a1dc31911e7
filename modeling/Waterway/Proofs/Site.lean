import Waterway.Alert.Site

/-!
# Sites that have come about

A site starts with nothing known and changes by taking observations in and by being judged. The analysis
is never taken back, so what a site holds says something about what it has seen.

## Main definitions

- `Site.Reachable` — a site that has come about in this way

## Main statements

- `Evidence.isSome_analysis?` — there is an analysis of exactly the complete evidence
- `Site.Reachable.isComplete_of_analysis` — who has an analysis has heard of all three feeds
- `Site.Reachable.analysis_recompute` — the analysis after a judgement is that of the evidence alone
- `Site.Reachable.recompute_eq` — so is all that comes of a judgement
-/

namespace Waterway

open Decimal

namespace Evidence

variable {α : Type}

/-- There is an analysis of exactly the complete evidence. -/
theorem isSome_analysis? (e : Evidence α) (j : Judgement) : (e.analysis? j).isSome = e.isComplete := by
  obtain ⟨blockage, waterLevel, weather⟩ := e
  cases blockage <;> cases waterLevel <;> cases weather <;> rfl

theorem isComplete_put {e : Evidence α} (h : e.isComplete) (o : Observation α) : (e.put o).isComplete := by
  simp only [isComplete, Bool.and_eq_true] at h ⊢
  obtain ⟨⟨hblockage, hwaterLevel⟩, hweather⟩ := h
  cases o <;> simp [put, hblockage, hwaterLevel, hweather]

theorem of_analysis? {e : Evidence α} {j : Judgement} {a : Analysis α} (h : e.analysis? j = some a) :
    a.judgement = j ∧ e = ⟨some a.blockage, some a.waterLevel, some a.weather⟩ := by
  obtain ⟨blockage, waterLevel, weather⟩ := e
  cases blockage <;> cases waterLevel <;> cases weather <;> simp [analysis?] at h
  subst h
  exact ⟨rfl, rfl⟩

end Evidence

namespace Site

variable {α : Type} [Quantity α]

/-- A site that starts with nothing known, takes observations in and is judged, in any order. -/
inductive Reachable : Site α → Prop where
  | empty : Reachable .empty
  | apply {s : Site α} (o : Observation α) : Reachable s → Reachable (s.apply o)
  | recompute {s : Site α} (t : Thresholds) : Reachable s → Reachable (s.recompute t)

@[simp]
theorem evidence_recompute (s : Site α) (t : Thresholds) : (s.recompute t).evidence = s.evidence :=
  rfl

/-- Who has an analysis has heard of all three feeds. -/
theorem Reachable.isComplete_of_analysis {s : Site α} (h : s.Reachable) (ha : s.analysis.isSome) :
    s.evidence.isComplete := by
  induction h with
  | empty => simp [Site.empty] at ha
  | apply o _ ih => exact Evidence.isComplete_put (ih ha) o
  | recompute t _ ih =>
    -- the analysis is either of the present evidence or an earlier one
    simp only [Site.recompute, Option.isSome_or, Bool.or_eq_true, Evidence.isSome_analysis?] at ha
    exact ha.elim id ih

/-- The analysis after a judgement is that of the evidence alone. -/
theorem Reachable.analysis_recompute {s : Site α} (h : s.Reachable) (t : Thresholds) :
    (s.recompute t).analysis = s.evidence.analysis? (judge s.evidence t) := by
  change (s.evidence.analysis? _).or s.analysis = _
  by_cases hcomplete : s.evidence.isComplete
  · rw [Option.or_of_isSome]
    rwa [Evidence.isSome_analysis?]
  · have hnone : s.analysis = none := by
      rw [← Option.not_isSome_iff_eq_none]
      exact fun ha => hcomplete (h.isComplete_of_analysis ha)
    rw [hnone, Option.or_none]

/-- What comes of a judgement depends on the evidence alone. -/
theorem Reachable.recompute_eq {s : Site α} (h : s.Reachable) (t : Thresholds) :
    s.recompute t = ({ evidence := s.evidence } : Site α).recompute t := by
  have hanalysis := h.analysis_recompute t
  have halone : (({ evidence := s.evidence } : Site α).recompute t).analysis =
      s.evidence.analysis? (judge s.evidence t) := Option.or_none
  rw [← halone] at hanalysis
  exact congrArg (Site.mk s.evidence (judge s.evidence t)) hanalysis

end Site

end Waterway
