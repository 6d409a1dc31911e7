import Waterway.Alert.Site
import Waterway.Observation.Json

/-!
# The JSON form of judgements and analyses

## Main definitions

- `Judgement.toJson`, `Analysis.toJson` — the written form
- `Judgement.read`, `Analysis.read` — the readers
-/

namespace Waterway

open Json

variable {δ : Type} [Document δ]

namespace Tier

def toJson (t : Tier) : Json :=
  .text t.name

def read (d : δ) : Except ReadError Tier :=
  readVariant (all.map fun t => (t.name, t)) d

end Tier

namespace Judgement

def toJson (j : Judgement) : Json :=
  .record [("alert_tier", j.tier.toJson), ("risk_score", .integer j.score.toNat),
    ("triggered_conditions", .list (j.conditions.map .text))]

def read (d : δ) : Except ReadError Judgement := do
  let fields ← readRecord "FusionData"
    [.of "alert_tier" Tier.read, .of "risk_score" readByte,
     .of "triggered_conditions" (readList readText)] d
  let tier ← required fields "alert_tier" Tier.read
  let score ← required fields "risk_score" readByte
  let conditions ← required fields "triggered_conditions" (readList readText)
  .ok { tier, score := score.toUInt8, conditions }

end Judgement

namespace Analysis

def toJson (a : Analysis Float) : Json :=
  .record [("blockage", a.blockage.toJson), ("fusion_data", a.judgement.toJson),
    ("water_level", a.waterLevel.toJson), ("weather", a.weather.toJson)]

def read (d : δ) : Except ReadError (Analysis Float) := do
  let fields ← readRecord "FusionAnalysisData"
    [.of "fusion_data" Judgement.read, .of "blockage" Blockage.read,
     .of "water_level" WaterLevel.read, .of "weather" Weather.read] d
  let judgement ← required fields "fusion_data" Judgement.read
  let blockage ← required fields "blockage" Blockage.read
  let waterLevel ← required fields "water_level" WaterLevel.read
  let weather ← required fields "weather" Weather.read
  .ok { judgement, blockage, waterLevel, weather }

end Analysis

end Waterway
