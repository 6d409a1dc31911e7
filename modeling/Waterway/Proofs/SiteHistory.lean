import Mathlib.Data.List.Induction
import Waterway.Proofs.Site

/-!
# What a site has seen

A site remembers of its history the last observation of each feed and the last judgement, and nothing
else. The analysis may be older than the evidence, but it is never older than the last judgement.

## Main definitions

- `Site.Change` — an observation is taken in, or the site is judged
- `Site.after` — the site after some changes
- `lastOf` — the last observation of a feed among some changes

## Main statements

- `Site.latest_after` — each feed shows its last observation
- `Site.analysis_after` — an analysis is that of the evidence at the last judgement
- `Site.after_determined` — what a site comes to is determined by the last observations and the thresholds
-/

namespace Waterway

open Decimal

variable {α : Type}

/-- An observation is taken in, or the site is judged. -/
inductive Site.Change (α : Type) where
  | observe (o : Observation α)
  | judge (t : Thresholds)

/-- The observation of a feed that a change brings. -/
def Site.Change.of (source : Source) : Change α → Option (Observation α)
  | .observe o => if o.source = source then some o else none
  | .judge _ => none

/-- The last observation of a feed among some changes. -/
def lastOf (source : Source) (changes : List (Site.Change α)) : Option (Observation α) :=
  (changes.filterMap (Site.Change.of source)).getLast?

theorem lastOf_concat (source : Source) (changes : List (Site.Change α)) (c : Site.Change α) :
    lastOf source (changes ++ [c]) = (c.of source).or (lastOf source changes) := by
  cases hc : c.of source <;> simp [lastOf, hc]

namespace Evidence

/-- A feed that reports shows what it reports, and the others what they showed. -/
theorem latest_put (e : Evidence α) (o : Observation α) (source : Source) :
    (e.put o).latest source = if o.source = source then some o else e.latest source := by
  cases o <;> cases source <;> rfl

theorem ext_latest {e e' : Evidence α} (h : ∀ source, e.latest source = e'.latest source) : e = e' := by
  obtain ⟨blockage, waterLevel, weather⟩ := e
  obtain ⟨blockage', waterLevel', weather'⟩ := e'
  have hblockage : blockage = blockage' :=
    Option.map_injective (fun _ _ => Observation.blockage.inj) (h .blockage)
  have hwaterLevel : waterLevel = waterLevel' :=
    Option.map_injective (fun _ _ => Observation.waterLevel.inj) (h .waterLevel)
  have hweather : weather = weather' :=
    Option.map_injective (fun _ _ => Observation.weather.inj) (h .weather)
  rw [hblockage, hwaterLevel, hweather]

theorem analysis?_eq_some {e : Evidence α} {j : Judgement} {a : Analysis α} :
    e.analysis? j = some a ↔
      e = ⟨some a.blockage, some a.waterLevel, some a.weather⟩ ∧ a.judgement = j := by
  constructor
  · intro h
    exact (of_analysis? h).symm
  · rintro ⟨rfl, rfl⟩
    rfl

end Evidence

namespace Site

variable [Quantity α]

def change (s : Site α) : Change α → Site α
  | .observe o => s.apply o
  | .judge t => s.recompute t

/-- The site after some changes, in order. -/
def after (s : Site α) (changes : List (Change α)) : Site α :=
  changes.foldl change s

theorem after_concat (s : Site α) (changes : List (Change α)) (c : Change α) :
    s.after (changes ++ [c]) = (s.after changes).change c := by
  simp [after]

theorem reachable_after (changes : List (Change α)) : (empty.after changes).Reachable := by
  induction changes using List.reverseRecOn with
  | nil => exact .empty
  | append_singleton changes c ih =>
    rw [after_concat]
    cases c with
    | observe o => exact ih.apply o
    | judge t => exact ih.recompute t

theorem latest_change (s : Site α) (c : Change α) (source : Source) :
    (s.change c).evidence.latest source = (c.of source).or (s.evidence.latest source) := by
  cases c with
  | observe o =>
    change (s.evidence.put o).latest source = _
    rw [Evidence.latest_put, Change.of]
    split <;> rfl
  | judge t => rfl

/-- Each feed shows its last observation. -/
theorem latest_after (changes : List (Change α)) (source : Source) :
    (empty.after changes).evidence.latest source = lastOf source changes := by
  induction changes using List.reverseRecOn with
  | nil => cases source <;> rfl
  | append_singleton changes c ih => rw [after_concat, latest_change, lastOf_concat, ih]

/-- A feed that has reported never shows nothing again. -/
theorem isSome_latest_after {s : Site α} {source : Source} (h : (s.evidence.latest source).isSome)
    (changes : List (Change α)) : ((s.after changes).evidence.latest source).isSome := by
  induction changes using List.reverseRecOn with
  | nil => exact h
  | append_singleton changes c ih =>
    rw [after_concat, latest_change, Option.isSome_or, ih, Bool.or_true]

/-- An analysis is that of the evidence at the last judgement, and so is what the site was judged to be. -/
theorem analysis_after {changes : List (Change α)} {a : Analysis α}
    (h : (empty.after changes).analysis = some a) :
    ∃ before t later, changes = before ++ .judge t :: later ∧ (∀ c ∈ later, ∃ o, c = .observe o) ∧
      (empty.after before).evidence = ⟨some a.blockage, some a.waterLevel, some a.weather⟩ ∧
      (empty.after changes).judgement = judge ⟨some a.blockage, some a.waterLevel, some a.weather⟩ t ∧
      a.judgement = (empty.after changes).judgement := by
  induction changes using List.reverseRecOn with
  | nil => exact nomatch h
  | append_singleton changes c ih =>
    rw [after_concat] at h ⊢
    cases c with
    | observe o =>
      -- an observation changes neither the analysis nor the judgement
      obtain ⟨before, t, later, rfl, hlater, hrest⟩ := ih h
      refine ⟨before, t, later ++ [.observe o], by simp, ?_, hrest⟩
      intro c hc
      rcases List.mem_append.mp hc with hearlier | hlast
      · exact hlater c hearlier
      · exact ⟨o, List.mem_singleton.mp hlast⟩
    | judge t =>
      have hanalysis := (reachable_after changes).analysis_recompute t
      obtain ⟨hevidence, hjudgement⟩ := Evidence.analysis?_eq_some.mp (hanalysis.symm.trans h)
      refine ⟨changes, t, [], rfl, fun c hc => absurd hc List.not_mem_nil, hevidence, ?_, hjudgement⟩
      rw [← hevidence]
      rfl

/-- What a site comes to is determined by the last observation of each feed and the thresholds by which it is
judged. Between judgements it shows what the last one came to. -/
theorem after_determined (changes : List (Change α)) :
    let s := empty.after changes
    (∀ source, s.evidence.latest source = lastOf source changes) ∧
    (∀ source more, (s.evidence.latest source).isSome →
      ((s.after more).evidence.latest source).isSome) ∧
    (∀ a, s.analysis = some a →
      ∃ before t later, changes = before ++ .judge t :: later ∧ (∀ c ∈ later, ∃ o, c = .observe o) ∧
        s.judgement = judge ⟨some a.blockage, some a.waterLevel, some a.weather⟩ t ∧
        a.judgement = s.judgement ∧
        (empty.after before).evidence = ⟨some a.blockage, some a.waterLevel, some a.weather⟩ ∧
        (empty.after (before ++ [.judge t])).analysis = some a) ∧
    (∀ t, (s.recompute t).evidence = s.evidence ∧ (s.recompute t).judgement = judge s.evidence t ∧
      ∀ a, (s.recompute t).analysis = some a ↔
        s.evidence = ⟨some a.blockage, some a.waterLevel, some a.weather⟩ ∧
          a.judgement = judge s.evidence t) ∧
    ∀ others, (∀ source, lastOf source changes = lastOf source others) →
      ∀ t, s.recompute t = (empty.after others).recompute t := by
  intro s
  have hs : s.Reachable := reachable_after changes
  refine ⟨latest_after changes, fun _ more h => isSome_latest_after h more, ?_, ?_, ?_⟩
  · intro a ha
    obtain ⟨before, t, later, hchanges, hlater, hevidence, hjudgement, hsame⟩ := analysis_after ha
    refine ⟨before, t, later, hchanges, hlater, hjudgement, hsame, hevidence, ?_⟩
    rw [after_concat, change, (reachable_after before).analysis_recompute, Evidence.analysis?_eq_some]
    refine ⟨hevidence, ?_⟩
    rw [hsame, hjudgement, hevidence]
  · intro t
    refine ⟨rfl, rfl, fun a => ?_⟩
    rw [hs.analysis_recompute, Evidence.analysis?_eq_some]
  · intro others hlast t
    have hevidence : s.evidence = (empty.after others).evidence := by
      apply Evidence.ext_latest
      intro source
      rw [latest_after, latest_after, hlast]
    rw [hs.recompute_eq, (reachable_after others).recompute_eq, hevidence]

/-- All three feeds report and the site is judged. Then the waterway turns out to be blocked. -/
def blockedSince : List (Change Float) :=
  [.observe (.blockage ⟨.clear, .year2000⟩), .observe (.waterLevel ⟨120, 0, 48, .stable, .year2000⟩),
    .observe (.weather ⟨0.5, "Sunny", .year2000⟩), .judge ⟨45, 75, 76⟩,
    .observe (.blockage ⟨.blocked, .year2000⟩)]

/-- The feed shows that the waterway is blocked, and the analysis what was known before. -/
theorem after_determined_blockedSince :
    (empty.after blockedSince).evidence.latest .blockage = some (.blockage ⟨.blocked, .year2000⟩) ∧
    ∃ a t, (empty.after blockedSince).analysis = some a ∧ a.blockage.level = .clear ∧
      (empty.after blockedSince).judgement =
        judge ⟨some a.blockage, some a.waterLevel, some a.weather⟩ t := by
  obtain ⟨hlatest, -, hanalysis, -⟩ := after_determined blockedSince
  refine ⟨hlatest .blockage, ?_⟩
  obtain ⟨-, t, -, -, -, hjudgement, -⟩ := hanalysis _ rfl
  exact ⟨_, t, rfl, rfl, hjudgement⟩

end Site

end Waterway
