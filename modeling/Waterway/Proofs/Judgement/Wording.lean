import Waterway.Proofs.Decimal.Order
import Waterway.Proofs.Judgement.Explained

/-!
# The wording of a judgement

The conditions of a judgement are about five topics, and of each of them one thing at most is said. The normal tier has
a sentence of its own in front, or says that all is well. That everything has come together is said beside the three
conditions that it is made of, and never without them.

## Main definitions

- `Topic` — what a condition is about
- `Evidence.said` — what is said of a topic
- `OnePerTopic` — conditions in the order of the topics, one at most of each
- `Evidence.IsNumeric` — the quantities that are judged are numbers

## Main statements

- `Evidence.conditions_eq_filterMap` — the conditions are what is said of the topics, one after the other
- `Evidence.mem_conditions_iff` — a condition is found exactly if it is what is said of its topic
- `Evidence.isCriticalCombination_iff_said` — everything has come together exactly if all three parts are said
- `judge_worded` — the shape of the list of conditions
-/

namespace Waterway

open Decimal

namespace Condition

def all : List Condition :=
  [.blocked, .partlyBlocked, .nearingCritical, .atCritical, .aboveCritical, .risingQuickly, .rising, .lightRain,
    .heavyRain, .multipleCritical, .routineMonitoring, .systemsNormal, .drainageClear, .levelsSafe]

theorem mem_all (c : Condition) : c ∈ all := by
  cases c <;> decide

theorem nodup_messages : (all.map message).Nodup := by
  decide

theorem message_injective : Function.Injective message :=
  fun c c' h => List.inj_on_of_nodup_map nodup_messages (mem_all c) (mem_all c') h

end Condition

/-- What a condition is about. -/
inductive Topic where
  | blockage
  | level
  | speed
  | rain
  | combination
deriving Repr, DecidableEq

namespace Topic

/-- All topics, in the order in which they are spoken of. -/
def all : List Topic :=
  [.blockage, .level, .speed, .rain, .combination]

/-- The conditions that are about a topic. -/
def conditions : Topic → List Condition
  | .blockage => [.blocked, .partlyBlocked]
  | .level => [.nearingCritical, .atCritical, .aboveCritical]
  | .speed => [.risingQuickly, .rising]
  | .rain => [.lightRain, .heavyRain]
  | .combination => [.multipleCritical]

theorem mem_all (topic : Topic) : topic ∈ all := by
  cases topic <;> decide

theorem nodup_all : all.Nodup := by
  decide

/-- A condition is about one topic at most. -/
theorem eq_of_mem_conditions {topic topic' : Topic} {c : Condition} (h : c ∈ topic.conditions)
    (h' : c ∈ topic'.conditions) : topic = topic' := by
  have hall : ∀ topic ∈ all, ∀ topic' ∈ all, ∀ c ∈ topic.conditions, c ∈ topic'.conditions → topic = topic' := by
    decide
  exact hall topic topic.mem_all topic' topic'.mem_all c h h'

end Topic

/-- What is said is about a topic, and it is one thing at most. -/
def Topic.Admits (topic : Topic) (said : List Condition) : Prop :=
  said = [] ∨ ∃ c ∈ topic.conditions, said = [c]

namespace Topic.Admits

variable {topic : Topic} {l : List Condition}

theorem eq_toList (h : topic.Admits l) : l = l.head?.toList := by
  rcases h with rfl | ⟨c, -, rfl⟩ <;> rfl

theorem mem_of_head? (h : topic.Admits l) {c : Condition} (hc : l.head? = some c) : c ∈ topic.conditions := by
  rcases h with rfl | ⟨c', hc', rfl⟩
  · cases hc
  · exact Option.some_inj.mp hc ▸ hc'

end Topic.Admits

/-- Conditions in the order of the topics, one at most of each. -/
def OnePerTopic (said : List Condition) : Prop :=
  List.SublistForall₂ (fun c topic => c ∈ topic.conditions) said Topic.all

theorem sublistForall₂_filterMap {α β : Type} {R : β → α → Prop} {f : α → Option β} (h : ∀ a b, f a = some b → R b a)
    (l : List α) : List.SublistForall₂ R (l.filterMap f) l := by
  induction l with
  | nil => exact .nil
  | cons a l ih =>
    cases hb : f a with
    | none =>
      rw [List.filterMap_cons_none hb]
      exact .cons_right ih
    | some b =>
      rw [List.filterMap_cons_some hb]
      exact .cons (h a b hb) ih

namespace Finding

variable {α : Type} [Quantity α]

theorem admits_ofBlockage (s : Blockage) : Topic.blockage.Admits (ofBlockage s).conditions := by
  rw [ofBlockage]
  cases s.level <;> simp [Topic.Admits, Topic.conditions, nothing]

theorem admits_ofPercentage (p : α) : Topic.level.Admits (ofPercentage p).conditions := by
  rw [ofPercentage]
  split_ifs <;> simp [Topic.Admits, Topic.conditions]

theorem admits_speedConditions (rate : α) : Topic.speed.Admits (speedConditions rate) := by
  rw [speedConditions]
  split_ifs <;> simp [Topic.Admits, Topic.conditions]

theorem admits_ofWeather (s : Weather α) : Topic.rain.Admits (ofWeather s).conditions := by
  simp only [ofWeather]
  split_ifs <;> simp [Topic.Admits, Topic.conditions]

end Finding

namespace Evidence

section

variable {α : Type} [Quantity α] {e : Evidence α}

/-- What is said of a topic. -/
def said (e : Evidence α) : Topic → Option Condition
  | .blockage => e.blockage.bind fun s => (Finding.ofBlockage s).conditions.head?
  | .level => e.waterLevel.bind fun s => (Finding.ofPercentage s.criticalPercentage).conditions.head?
  | .speed => e.waterLevel.bind fun s => (Finding.speedConditions s.changeRate).head?
  | .rain => e.weather.bind fun s => (Finding.ofWeather s).conditions.head?
  | .combination => if e.isCriticalCombination then some .multipleCritical else none

/-- The conditions are what is said of the topics, one after the other. -/
theorem conditions_eq_filterMap (e : Evidence α) : e.conditions = Topic.all.filterMap e.said := by
  have hblockage : e.blockageFinding.conditions = (e.said .blockage).toList := by
    rw [blockageFinding, said]
    cases e.blockage with
    | none => rfl
    | some s => exact (Finding.admits_ofBlockage s).eq_toList
  have hwaterLevel : e.waterLevelFinding.conditions = (e.said .level).toList ++ (e.said .speed).toList := by
    rw [waterLevelFinding, said, said]
    cases e.waterLevel with
    | none => rfl
    | some s =>
      exact congrArg₂ _ (Finding.admits_ofPercentage _).eq_toList (Finding.admits_speedConditions _).eq_toList
  have hweather : e.weatherFinding.conditions = (e.said .rain).toList := by
    rw [weatherFinding, said]
    cases e.weather with
    | none => rfl
    | some s => exact (Finding.admits_ofWeather s).eq_toList
  have hcombination : (if e.isCriticalCombination then [.multipleCritical] else []) =
      (e.said .combination).toList := by
    rw [said]
    split_ifs <;> rfl
  rw [conditions, hblockage, hwaterLevel, hweather, hcombination, List.filterMap_eq_flatMap_toList]
  simp [Topic.all]

/-- What is said of a topic is about it. -/
theorem mem_conditions_of_said {topic : Topic} {c : Condition} (h : e.said topic = some c) :
    c ∈ topic.conditions := by
  cases topic with
  | blockage =>
    obtain ⟨s, -, hs⟩ := Option.bind_eq_some_iff.mp h
    exact (Finding.admits_ofBlockage s).mem_of_head? hs
  | level =>
    obtain ⟨s, -, hs⟩ := Option.bind_eq_some_iff.mp h
    exact (Finding.admits_ofPercentage _).mem_of_head? hs
  | speed =>
    obtain ⟨s, -, hs⟩ := Option.bind_eq_some_iff.mp h
    exact (Finding.admits_speedConditions _).mem_of_head? hs
  | rain =>
    obtain ⟨s, -, hs⟩ := Option.bind_eq_some_iff.mp h
    exact (Finding.admits_ofWeather s).mem_of_head? hs
  | combination =>
    obtain ⟨-, ⟨⟩⟩ := Option.ite_none_right_eq_some.mp h
    exact List.mem_singleton_self _

theorem onePerTopic_conditions (e : Evidence α) : OnePerTopic e.conditions := by
  rw [conditions_eq_filterMap]
  exact sublistForall₂_filterMap (fun _ _ => mem_conditions_of_said) Topic.all

theorem nodup_conditions (e : Evidence α) : e.conditions.Nodup := by
  rw [conditions_eq_filterMap]
  refine Topic.nodup_all.filterMap fun topic topic' c h h' => ?_
  exact Topic.eq_of_mem_conditions (mem_conditions_of_said h) (mem_conditions_of_said h')

/-- A condition is found exactly if it is what is said of its topic. -/
theorem mem_conditions_iff {topic : Topic} {c : Condition} (hc : c ∈ topic.conditions) :
    c ∈ e.conditions ↔ e.said topic = some c := by
  rw [conditions_eq_filterMap, List.mem_filterMap]
  constructor
  · rintro ⟨topic', -, h⟩
    rwa [Topic.eq_of_mem_conditions hc (mem_conditions_of_said h)]
  · intro h
    exact ⟨topic, topic.mem_all, h⟩

theorem said_blocked_iff : e.said .blockage = some .blocked ↔ ∃ s ∈ e.blockage, s.level = .blocked := by
  have hlevel (s : Blockage) : (Finding.ofBlockage s).conditions.head? = some .blocked ↔ s.level = .blocked := by
    rw [Finding.ofBlockage]
    cases s.level <;> simp [Finding.nothing]
  simp [said, Option.bind_eq_some_iff, hlevel]

/-- Something is said of the level in the three highest bands. -/
theorem said_level_iff : (∃ c ∈ Topic.level.conditions, e.said .level = some c) ↔
    ∃ s ∈ e.waterLevel, ¬(s.criticalPercentage < (50.0 : α) ∨ s.criticalPercentage < (75.0 : α) ∨
      s.criticalPercentage < (90.0 : α)) := by
  have hband (p : α) : (∃ c, (Finding.ofPercentage p).conditions.head? = some c) ↔
      ¬(p < (50.0 : α) ∨ p < (75.0 : α) ∨ p < (90.0 : α)) := by
    rw [← Option.ne_none_iff_exists', Ne, List.head?_eq_none_iff, Finding.ofPercentage_wordless_iff]
  constructor
  · rintro ⟨c, -, h⟩
    obtain ⟨s, hs, hc⟩ := Option.bind_eq_some_iff.mp h
    exact ⟨s, hs, (hband s.criticalPercentage).mp ⟨c, hc⟩⟩
  · rintro ⟨s, hs, h⟩
    obtain ⟨c, hc⟩ := (hband s.criticalPercentage).mpr h
    have hsaid : e.said .level = some c := Option.bind_eq_some_iff.mpr ⟨s, hs, hc⟩
    exact ⟨c, mem_conditions_of_said hsaid, hsaid⟩

theorem said_heavyRain_iff : e.said .rain = some .heavyRain ↔ ∃ s ∈ e.weather,
    ¬s.precipitation < (1.0 : α) ∧ ¬s.precipitation < (2.55 : α) ∧ ¬s.precipitation < (7.5 : α) := by
  have hrain (s : Weather α) : (Finding.ofWeather s).conditions.head? = some .heavyRain ↔
      ¬s.precipitation < (1.0 : α) ∧ ¬s.precipitation < (2.55 : α) ∧ ¬s.precipitation < (7.5 : α) := by
    simp only [Finding.ofWeather]
    split_ifs <;> simp [*]
  simp only [said, Option.bind_eq_some_iff, hrain, Option.mem_def]

theorem said_combination_iff : e.said .combination = some .multipleCritical ↔ e.isCriticalCombination := by
  simp [said]

end

/-- The quantities that are judged are numbers. -/
structure IsNumeric (e : Evidence Float) : Prop where
  waterLevel : ∀ s ∈ e.waterLevel, s.criticalPercentage.isNaN = false
  weather : ∀ s ∈ e.weather, s.precipitation.isNaN = false

/-- From 90 percent on the level is in the three highest bands. -/
theorem ninety_le_iff {p : Float} (h : p.isNaN = false) : (90.0 : Float) ≤ p ↔ ¬(p < 50.0 ∨ p < 75.0 ∨ p < 90.0) := by
  constructor
  · rintro hle (hlow | hmiddling | hhigh)
    · exact absurd (LawfulQuantity.lt_of_le_of_lt hle hlow) (by decide)
    · exact absurd (LawfulQuantity.lt_of_le_of_lt hle hmiddling) (by decide)
    · exact absurd (LawfulQuantity.lt_of_le_of_lt hle hhigh) (by decide)
  · intro hbands
    exact (not_lt_iff h (by decide)).mp fun hhigh => hbands (.inr (.inr hhigh))

/-- From seven and a half millimetres on the rain is in the highest band. -/
theorem heavy_le_iff {mm : Float} (h : mm.isNaN = false) :
    (7.5 : Float) ≤ mm ↔ ¬mm < 1.0 ∧ ¬mm < 2.55 ∧ ¬mm < 7.5 := by
  constructor
  · intro hle
    refine ⟨fun hnone => ?_, fun hlight => ?_, (not_lt_iff h (by decide)).mpr hle⟩
    · exact absurd (LawfulQuantity.lt_of_le_of_lt hle hnone) (by decide)
    · exact absurd (LawfulQuantity.lt_of_le_of_lt hle hlight) (by decide)
  · rintro ⟨-, -, hbelow⟩
    exact (not_lt_iff h (by decide)).mp hbelow

/-- Everything has come together exactly if all three parts of it are said. -/
theorem isCriticalCombination_iff_said {e : Evidence Float} (h : e.IsNumeric) :
    e.isCriticalCombination ↔ e.said .blockage = some .blocked ∧ e.said .rain = some .heavyRain ∧
      ∃ c ∈ Topic.level.conditions, e.said .level = some c := by
  have hlevel : (e.waterLevel.any fun s => decide ((90.0 : Float) ≤ s.criticalPercentage)) ↔
      ∃ c ∈ Topic.level.conditions, e.said .level = some c := by
    rw [said_level_iff, Option.any_eq_true]
    refine exists_congr fun s => and_congr_right fun hs => ?_
    rw [decide_eq_true_iff]
    exact ninety_le_iff (h.waterLevel s hs)
  have hrain : (e.weather.any fun s => decide ((7.5 : Float) ≤ s.precipitation)) ↔
      e.said .rain = some .heavyRain := by
    rw [said_heavyRain_iff, Option.any_eq_true]
    refine exists_congr fun s => and_congr_right fun hs => ?_
    rw [decide_eq_true_iff]
    exact heavy_le_iff (h.weather s hs)
  have hblocked : (e.blockage.any fun s => s.level == .blocked) ↔ e.said .blockage = some .blocked := by
    rw [said_blocked_iff, Option.any_eq_true]
    refine exists_congr fun s => and_congr_right fun _ => ?_
    exact beq_iff_eq
  rw [isCriticalCombination, Bool.and_eq_true, Bool.and_eq_true, hlevel, hrain, hblocked, and_assoc,
    and_comm (b := e.said .rain = _)]

end Evidence

/-! ## What is shown -/

section

variable {tier : Tier} {found : List Condition}

theorem conditionsShown_of_ne (h : tier ≠ .normal) : conditionsShown tier found = found := by
  cases tier with
  | normal => exact absurd rfl h
  | warning => rfl
  | critical => rfl

theorem conditionsShown_normal (h : found ≠ []) : conditionsShown .normal found = .routineMonitoring :: found := by
  cases found with
  | nil => exact absurd rfl h
  | cons => rfl

theorem conditionsShown_eq_reassurance_iff : conditionsShown .normal found = reassurance ↔ found = [] := by
  cases found <;> simp [conditionsShown, reassurance]

/-- What belongs to the normal tier is about no topic. -/
theorem Topic.not_mem_conditions {c : Condition} (h : c ∈ Condition.routineMonitoring :: reassurance) (topic : Topic) :
    c ∉ topic.conditions := by
  have hall : ∀ c ∈ Condition.routineMonitoring :: reassurance, ∀ topic ∈ all, c ∉ topic.conditions := by
    decide
  exact hall c h topic topic.mem_all

theorem mem_conditionsShown_iff {topic : Topic} {c : Condition} (hc : c ∈ topic.conditions) :
    c ∈ conditionsShown tier found ↔ c ∈ found := by
  have hother : c ∉ Condition.routineMonitoring :: reassurance := fun h => topic.not_mem_conditions h hc
  rw [List.mem_cons, not_or] at hother
  by_cases htier : tier = .normal
  · by_cases hfound : found = []
    · rw [htier, hfound]
      exact iff_of_false hother.2 List.not_mem_nil
    · rw [htier, conditionsShown_normal hfound, List.mem_cons]
      exact or_iff_right hother.1
  · rw [conditionsShown_of_ne htier]

theorem nodup_conditionsShown (h : found.Nodup) (hroutine : .routineMonitoring ∉ found) :
    (conditionsShown tier found).Nodup := by
  by_cases htier : tier = .normal
  · by_cases hfound : found = []
    · rw [htier, hfound]
      decide
    · rw [htier, conditionsShown_normal hfound]
      exact List.nodup_cons.mpr ⟨hroutine, h⟩
  · rwa [conditionsShown_of_ne htier]

end

namespace Evidence

variable {α : Type} [Quantity α]

/-- What belongs to the normal tier is never found. -/
theorem not_mem_conditions {c : Condition} (h : c ∈ Condition.routineMonitoring :: reassurance) (e : Evidence α) :
    c ∉ e.conditions := by
  rw [conditions_eq_filterMap, List.mem_filterMap]
  rintro ⟨topic, -, hsaid⟩
  exact topic.not_mem_conditions h (mem_conditions_of_said hsaid)

end Evidence

/-- The text of a condition that is about a topic is shown exactly if it is what is said of the topic. -/
theorem mem_conditions_judge_iff {α : Type} [Quantity α] {e : Evidence α} {t : Thresholds} {topic : Topic}
    {c : Condition} (hc : c ∈ topic.conditions) : c.message ∈ (judge e t).conditions ↔ e.said topic = some c := by
  have hshown : c ∈ conditionsShown (judge e t).tier e.conditions ↔ c ∈ e.conditions := mem_conditionsShown_iff hc
  rw [← Evidence.mem_conditions_iff hc, ← hshown]
  exact List.mem_map_of_injective Condition.message_injective

/-- The conditions of a judgement differ from each other. Outside the normal tier they are about the topics in order,
one at most about each, and nothing else is said. In the normal tier all is well exactly if every feed is in a band
without words; otherwise the sentence about monitoring comes first, and then at least one condition. That everything
has come together is said exactly if the three conditions that it is made of are. -/
theorem judge_worded {e : Evidence Float} (h : e.IsNumeric) (t : Thresholds) :
    (judge e t).conditions.Nodup ∧
    ((judge e t).tier ≠ .normal →
      (∃ said, OnePerTopic said ∧ (judge e t).conditions = said.map Condition.message) ∧
      ∀ c ∈ Condition.routineMonitoring :: reassurance, c.message ∉ (judge e t).conditions) ∧
    ((judge e t).tier = .normal →
      (judge e t).conditions ≠ [] ∧
      ((judge e t).conditions = reassurance.map Condition.message ↔ e.Wordless) ∧
      (¬e.Wordless → ∃ said, said ≠ [] ∧ OnePerTopic said ∧
        (judge e t).conditions = (Condition.routineMonitoring :: said).map Condition.message)) ∧
    (Condition.multipleCritical.message ∈ (judge e t).conditions ↔
      Condition.blocked.message ∈ (judge e t).conditions ∧ Condition.heavyRain.message ∈ (judge e t).conditions ∧
      ∃ c ∈ Topic.level.conditions, c.message ∈ (judge e t).conditions) := by
  have hshown : (judge e t).conditions = (conditionsShown (judge e t).tier e.conditions).map Condition.message := rfl
  have hmem (c : Condition) (found : List Condition) : c.message ∈ found.map Condition.message ↔ c ∈ found :=
    List.mem_map_of_injective Condition.message_injective
  refine ⟨?_, fun htier => ⟨?_, fun c hc => ?_⟩, fun htier => ⟨fun hnil => ?_, ?_, fun hwords => ?_⟩, ?_⟩
  · have hroutine := e.not_mem_conditions (c := .routineMonitoring) List.mem_cons_self
    exact (nodup_conditionsShown e.nodup_conditions hroutine).map Condition.message_injective
  · refine ⟨e.conditions, e.onePerTopic_conditions, ?_⟩
    rw [hshown, conditionsShown_of_ne htier]
  · rw [hshown, conditionsShown_of_ne htier, hmem]
    exact e.not_mem_conditions hc
  · exact (conditions_judge_eq_nil_iff.mp hnil).1 htier
  · rw [hshown, htier, List.map_inj_right Condition.message_injective, conditionsShown_eq_reassurance_iff]
    exact Evidence.conditions_eq_nil_iff
  · rw [← Evidence.conditions_eq_nil_iff] at hwords
    refine ⟨e.conditions, hwords, e.onePerTopic_conditions, ?_⟩
    rw [hshown, htier, conditionsShown_normal hwords]
  · have hlevel : (∃ c ∈ Topic.level.conditions, c.message ∈ (judge e t).conditions) ↔
        ∃ c ∈ Topic.level.conditions, e.said .level = some c :=
      exists_congr fun c => and_congr_right fun hc => mem_conditions_judge_iff hc
    have hcombination : Condition.multipleCritical ∈ Topic.combination.conditions := by decide
    have hblocked : Condition.blocked ∈ Topic.blockage.conditions := by decide
    have hrain : Condition.heavyRain ∈ Topic.rain.conditions := by decide
    rw [hlevel, mem_conditions_judge_iff hcombination, mem_conditions_judge_iff hblocked,
      mem_conditions_judge_iff hrain, Evidence.said_combination_iff]
    exact Evidence.isCriticalCombination_iff_said h

/-- A blocked waterway, water that is high and rises, and a downpour. -/
def downpour : Evidence Float where
  blockage := some ⟨.blocked, .year2000⟩
  waterLevel := some ⟨190, 2.5, 95, .rising, .year2000⟩
  weather := some ⟨8, "Thunderstorm", .year2000⟩

/-- Where not even a hundred points are a warning, monitoring goes on as usual, and then comes everything there is to
say. -/
theorem judge_worded_downpour :
    downpour.IsNumeric ∧ (judge downpour ⟨101, 102, 103⟩).tier = .normal ∧
    Condition.multipleCritical.message ∈ (judge downpour ⟨101, 102, 103⟩).conditions ∧
    ∃ said, said ≠ [] ∧ OnePerTopic said ∧
      (judge downpour ⟨101, 102, 103⟩).conditions = (Condition.routineMonitoring :: said).map Condition.message := by
  have hnumeric : downpour.IsNumeric := by
    constructor
    · rintro s ⟨⟩
      decide
    · rintro s ⟨⟩
      decide
  have htier : (judge downpour ⟨101, 102, 103⟩).tier = .normal := by decide
  have hwords : ¬downpour.Wordless := fun h => absurd (h.blockage _ rfl) (by decide)
  obtain ⟨-, -, hnormal, hcombination⟩ := judge_worded hnumeric ⟨101, 102, 103⟩
  obtain ⟨-, -, hsaid⟩ := hnormal htier
  exact ⟨hnumeric, htier, hcombination.mpr (by decide), hsaid hwords⟩

end Waterway
