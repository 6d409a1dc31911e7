import Waterway.Error
import Waterway.Json.Reader

/-!
# Alert tiers and their thresholds

The three tiers of risk, and the stored boundaries by which a score is given a tier.

## Main definitions

- `Tier` — normal, warning, critical
- `Thresholds` — the boundaries
- `Thresholds.classify` — the tier of a score
- `Thresholds.ofSetting` — the boundaries out of the JSON value of a setting

## Design notes

Nothing asks the boundaries to be monotonic or to leave no overlap: the warning band is looked at
first.
-/

namespace Waterway

open Json in
/-- Reads an integer of 32 bits into a machine word. -/
def readWord {α : Type} [Document α] (d : α) : Except ReadError Int32 :=
  (readInt32 d).map Int32.ofInt

inductive Tier where
  | normal
  | warning
  | critical
deriving Repr, DecidableEq, Inhabited

namespace Tier

def name : Tier → String
  | .normal => "normal"
  | .warning => "warning"
  | .critical => "critical"

def all : List Tier :=
  [.normal, .warning, .critical]

/-- The place of a tier in the order from good to bad. -/
def rank : Tier → Nat
  | .normal => 0
  | .warning => 1
  | .critical => 2

end Tier

structure Thresholds where
  /-- The least score of the warning band. -/
  warningMin : Int32
  /-- The greatest score of the warning band. -/
  warningMax : Int32
  /-- The least critical score. -/
  criticalMin : Int32
deriving Repr, DecidableEq

namespace Thresholds

/-- The tier of a score: warning inside the warning band, else critical from `criticalMin` on. -/
def classify (t : Thresholds) (score : UInt8) : Tier :=
  let s : Int := score.toNat
  if t.warningMin.toInt ≤ s ∧ s ≤ t.warningMax.toInt then .warning
  else if t.criticalMin.toInt ≤ s then .critical
  else .normal

/-- The key of the setting that holds the thresholds. -/
def settingKey : String :=
  "alert_thresholds"

def toJson (t : Thresholds) : Json :=
  .record [("tier_2_max", .integer t.warningMax.toInt), ("tier_2_min", .integer t.warningMin.toInt),
    ("tier_3_min", .integer t.criticalMin.toInt)]

open Json in
def read {α : Type} [Document α] (d : α) : Except ReadError Thresholds := do
  let fields ← readRecord "ThresholdConfig"
    [.of "tier_2_min" readInt32, .of "tier_2_max" readInt32, .of "tier_3_min" readInt32] d
  let warningMin ← required fields "tier_2_min" readWord
  let warningMax ← required fields "tier_2_max" readWord
  let criticalMin ← required fields "tier_3_min" readWord
  .ok { warningMin, warningMax, criticalMin }

/-- The thresholds that the JSON value of the setting holds. -/
def ofSetting (value : Json) : Except DomainError Thresholds :=
  match read value with
  | .ok t => .ok t
  | .error e =>
    .error (.configuration ("malformed " ++ settingKey ++ " setting: " ++ e.message))

end Thresholds

end Waterway
