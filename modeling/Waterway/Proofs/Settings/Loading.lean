import Waterway.Proofs.Decimal.Integer
import Waterway.Proofs.Json.Documents
import Waterway.Proofs.Settings

/-!
# Which settings are loaded

The settings of the engine are loaded when the variables that are set are in order, and then each of them is what its
own variable gives, or its default.

## Main definitions

- `Environment.Gives` — what a variable gives: the integer that it holds, or a default
- `EngineSettings.numbers` — the variables that hold the numbers of the engine
- `Environment.InOrder` — the variables are in order
- `EngineSettings.GivenBy` — the settings are those that the variables give

## Main statements

- `Environment.integer_eq_ok_iff` — a variable is read as the integer that it gives
- `EngineSettings.load_eq_ok_iff` — which settings are loaded
- `EngineSettings.load_exact` — when settings are loaded, which they are, and what happens otherwise
-/

namespace Waterway

open Decimal

theorem bind_eq_ok_iff {ε α β : Type} {x : Except ε α} {f : α → Except ε β} {b : β} :
    x >>= f = .ok b ↔ ∃ a, x = .ok a ∧ f a = .ok b := by
  constructor
  · exact Json.bind_eq_ok
  · rintro ⟨a, rfl, h⟩
    exact h

theorem mapError_eq_ok_iff {ε ε' α : Type} {x : Except ε α} {f : ε → ε'} {a : α} :
    x.mapError f = .ok a ↔ x = .ok a := by
  constructor
  · exact eq_ok_of_mapError
  · rintro rfl
    rfl

namespace Environment

variable {env : Environment} {name : String}

/-- What a variable gives: the integer that its text is, blanks aside, or the default if it is not set. -/
def Gives (env : Environment) (name : String) (range : IntegerRange) (default n : Int) : Prop :=
  match env.value? name with
  | none => n = default
  | some raw => range.IsLiteral (Text.trimBlankChars raw.toList) n

/-- A variable is read as the integer that it gives. -/
theorem integer_eq_ok_iff {range : IntegerRange} (hzero : range.contains 0) {default n : Int} :
    env.integer name range default = .ok n ↔ env.Gives name range default n := by
  rw [integer, Gives]
  cases env.value? name with
  | none => simp only [Except.ok.injEq, eq_comm]
  | some raw =>
    simp only
    rw [← IntegerRange.read_eq_ok_iff hzero]
    cases range.read (Text.trimBlankChars raw.toList) <;> simp

/-- A variable for natural numbers gives no other. -/
theorem Gives.nonneg {bits default : Nat} {n : Int} (h : env.Gives name (.unsigned bits) default n) : 0 ≤ n := by
  rw [Gives] at h
  cases hvalue : env.value? name with
  | none =>
    rw [hvalue] at h
    exact h ▸ Int.natCast_nonneg default
  | some raw =>
    rw [hvalue] at h
    exact (IntegerRange.contains_iff.mp (IntegerRange.IsLiteral.contains h)).1

theorem natural_eq_ok_iff {bits default n : Nat} :
    env.natural name bits default = .ok n ↔ env.Gives name (.unsigned bits) default n := by
  have hzero := IntegerRange.contains_zero_unsigned bits
  rw [← integer_eq_ok_iff hzero, natural]
  cases hinteger : env.integer name (.unsigned bits) default with
  | error e => exact iff_of_false nofun nofun
  | ok m =>
    have hpos : 0 ≤ m := ((integer_eq_ok_iff hzero).mp hinteger).nonneg
    simp only [Except.map, Except.ok.injEq]
    omega

/-- A variable gives one integer at most. -/
theorem Gives.eq {range : IntegerRange} (hzero : range.contains 0) {default m n : Int}
    (hm : env.Gives name range default m) (hn : env.Gives name range default n) : m = n := by
  rw [← integer_eq_ok_iff hzero] at hm hn
  exact Except.ok.inj (hm.symm.trans hn)

/-- A variable gives something if it is not set to what is no integer of its range. -/
theorem exists_gives_iff {range : IntegerRange} {default : Int} :
    (∃ n, env.Gives name range default n) ↔
      ∀ raw, env.value? name = some raw → ∃ n, range.IsLiteral (Text.trimBlankChars raw.toList) n := by
  simp only [Gives]
  cases env.value? name with
  | none => exact iff_of_true ⟨default, rfl⟩ nofun
  | some raw => simp

theorem exists_gives_natural_iff {bits default : Nat} :
    (∃ n : Nat, env.Gives name (.unsigned bits) default n) ↔
      ∀ raw, env.value? name = some raw →
        ∃ n, (IntegerRange.unsigned bits).IsLiteral (Text.trimBlankChars raw.toList) n := by
  refine Iff.trans (b := ∃ n, env.Gives name (.unsigned bits) default n) ?_ exists_gives_iff
  constructor
  · rintro ⟨n, h⟩
    exact ⟨n, h⟩
  · rintro ⟨n, h⟩
    obtain ⟨m, rfl⟩ := Int.eq_ofNat_of_zero_le h.nonneg
    exact ⟨m, h⟩

/-- The policy that the variable for unknown locations gives. -/
def GivesPolicy (env : Environment) (policy : UnknownPolicy) : Prop :=
  match env.value? "UNKNOWN_LOCATION_POLICY" with
  | none => policy = .ignore
  | some raw => policy.name = Text.lowerAscii (Text.trimBlank raw)

end Environment

theorem UnknownPolicy.name_injective {p q : UnknownPolicy} (h : p.name = q.name) : p = q := by
  cases p <;> cases q <;> first | rfl | exact absurd h (by decide)

theorem UnknownPolicy.ofName_eq_ok_iff {s : String} {policy : UnknownPolicy} :
    ofName s = .ok policy ↔ policy.name = Text.lowerAscii (Text.trimBlank s) := by
  have hall : policy ∈ all := by cases policy <;> decide
  rw [ofName]
  cases hfind : all.find? (·.name == Text.lowerAscii (Text.trimBlank s)) with
  | none =>
    have hnot := List.find?_eq_none.mp hfind policy hall
    simpa using hnot
  | some found =>
    have hname : found.name = Text.lowerAscii (Text.trimBlank s) := by simpa using List.find?_some hfind
    simp only [Except.ok.injEq, ← hname]
    exact ⟨fun h => h ▸ rfl, fun h => (name_injective h).symm⟩

namespace EngineSettings

variable {env : Environment}

/-- The variables that hold the numbers of the engine, with their ranges. -/
def numbers : List (String × IntegerRange) :=
  [("SENSOR_GRACE_PERIOD_MINUTES", .signed 64), ("SENSOR_WARNING_PERIOD_MINUTES", .signed 64),
    ("DETECTION_GRACE_PERIOD_MINUTES", .signed 64), ("DETECTION_WARNING_PERIOD_MINUTES", .signed 64),
    ("WEATHER_GRACE_PERIOD_MINUTES", .signed 64), ("WEATHER_WARNING_PERIOD_MINUTES", .signed 64),
    ("SUBSCRIBER_SEND_TIMEOUT_MS", .unsigned 64), ("SUBSCRIBER_QUEUE_CAPACITY", .unsigned 64),
    ("LOCATION_QUEUE_CAPACITY", .unsigned 64), ("THRESHOLD_CACHE_TTL_SECS", .unsigned 64)]

/-- A window is the one that two variables give in minutes: the warning period is not shorter than the grace period. -/
def GivenWindow (env : Environment) (graceName warningName : String) (standard : Int × Int) (w : Window) : Prop :=
  ∃ grace warning, env.Gives graceName (.signed 64) standard.1 grace ∧
    env.Gives warningName (.signed 64) standard.2 warning ∧ grace ≤ warning ∧ w = .ofMinutes grace warning

/-- The settings are those that the variables give. -/
structure GivenBy (env : Environment) (s : EngineSettings) : Prop where
  waterLevel :
    GivenWindow env "SENSOR_GRACE_PERIOD_MINUTES" "SENSOR_WARNING_PERIOD_MINUTES" (4, 8) s.windows.waterLevel
  blockage :
    GivenWindow env "DETECTION_GRACE_PERIOD_MINUTES" "DETECTION_WARNING_PERIOD_MINUTES" (5, 10) s.windows.blockage
  weather :
    GivenWindow env "WEATHER_GRACE_PERIOD_MINUTES" "WEATHER_WARNING_PERIOD_MINUTES" (65, 130) s.windows.weather
  policy : env.GivesPolicy s.policy
  sendTimeout : env.Gives "SUBSCRIBER_SEND_TIMEOUT_MS" (.unsigned 64) 2000 s.sendTimeout
  subscriberQueue : env.Gives "SUBSCRIBER_QUEUE_CAPACITY" (.unsigned 64) 64 s.subscriberQueue
  locationQueue : env.Gives "LOCATION_QUEUE_CAPACITY" (.unsigned 64) 64 s.locationQueue
  thresholdLifetime : env.Gives "THRESHOLD_CACHE_TTL_SECS" (.unsigned 64) 86400 s.thresholdLifetime

end EngineSettings

/-- The variables of the engine are in order: those that are set to numbers hold integers of their ranges, the policy is
one of the three, and no warning period, given or standard, is shorter than its grace period. -/
structure Environment.InOrder (env : Environment) : Prop where
  numbers : ∀ number ∈ EngineSettings.numbers, ∀ raw, env.value? number.1 = some raw →
    ∃ n, number.2.IsLiteral (Text.trimBlankChars raw.toList) n
  policy : ∀ raw, env.value? "UNKNOWN_LOCATION_POLICY" = some raw →
    ∃ policy : UnknownPolicy, policy.name = Text.lowerAscii (Text.trimBlank raw)
  windows : ∀ feed standard, (feed, standard) ∈ EngineSettings.feeds → ∀ grace warning,
    env.Gives (feed ++ "_GRACE_PERIOD_MINUTES") (.signed 64) standard.1 grace →
    env.Gives (feed ++ "_WARNING_PERIOD_MINUTES") (.signed 64) standard.2 warning → grace ≤ warning

namespace EngineSettings

variable {env : Environment}

theorem loadWindow_eq_ok_iff (hfit : env.PeriodsFit) {feed : String} {standard : Int × Int} {w : Window}
    (hfeed : (feed, standard) ∈ feeds) : loadWindow env feed standard = .ok w ↔
      GivenWindow env (feed ++ "_GRACE_PERIOD_MINUTES") (feed ++ "_WARNING_PERIOD_MINUTES") standard w := by
  have hzero := IntegerRange.contains_zero_signed 64
  rw [loadWindow]
  simp only [bind_eq_ok_iff, mapError_eq_ok_iff]
  constructor
  · rintro ⟨grace, hgrace, warning, hwarning, h⟩
    by_cases hshorter : warning < grace
    · rw [if_pos hshorter] at h
      cases h
    · rw [if_neg hshorter] at h
      -- the window has the periods out of which it was made
      have hwindow : w = .ofMinutes grace warning := by
        rw [Window.ofMinutes?] at h
        split at h
        · next window hsome =>
          split at hsome
          · cases hsome
            exact (Except.ok.inj h).symm
          · cases hsome
        · cases h
      exact ⟨grace, warning, (Environment.integer_eq_ok_iff hzero).mp hgrace,
        (Environment.integer_eq_ok_iff hzero).mp hwarning, Int.not_lt.mp hshorter, hwindow⟩
  · rintro ⟨grace, warning, hgrace, hwarning, hordered, rfl⟩
    have hgrace := (Environment.integer_eq_ok_iff hzero).mpr hgrace
    have hwarning := (Environment.integer_eq_ok_iff hzero).mpr hwarning
    refine ⟨grace, hgrace, warning, hwarning, ?_⟩
    rw [if_neg (Int.not_lt.mpr hordered)]
    have hsome := hfit feed standard hfeed grace warning ⟨hgrace, hwarning⟩ hordered
    rw [Window.ofMinutes?] at hsome ⊢
    split at hsome
    · next hshort => rw [if_pos hshort]; rfl
    · cases hsome

theorem loadPolicy_eq_ok_iff {policy : UnknownPolicy} : loadPolicy env = .ok policy ↔ env.GivesPolicy policy := by
  rw [loadPolicy, Environment.GivesPolicy]
  cases env.value? "UNKNOWN_LOCATION_POLICY" with
  | none => simp only [Except.ok.injEq, eq_comm]
  | some raw => exact UnknownPolicy.ofName_eq_ok_iff

/-- The settings that are loaded are those that the variables give. -/
theorem load_eq_ok_iff (hfit : env.PeriodsFit) {s : EngineSettings} : load env = .ok s ↔ s.GivenBy env := by
  have hwaterLevel {w : Window} := loadWindow_eq_ok_iff hfit (w := w) (show ("SENSOR", 4, 8) ∈ feeds by decide)
  have hblockage {w : Window} := loadWindow_eq_ok_iff hfit (w := w) (show ("DETECTION", 5, 10) ∈ feeds by decide)
  have hweather {w : Window} := loadWindow_eq_ok_iff hfit (w := w) (show ("WEATHER", 65, 130) ∈ feeds by decide)
  simp only [load, bind_eq_ok_iff, mapError_eq_ok_iff, hwaterLevel, hblockage, hweather, loadPolicy_eq_ok_iff,
    Environment.natural_eq_ok_iff]
  constructor
  · rintro ⟨waterLevel, h1, blockage, h2, weather, h3, policy, h4, sendTimeout, h5, subscriberQueue, h6,
      locationQueue, h7, thresholdLifetime, h8, ⟨⟩⟩
    exact ⟨h1, h2, h3, h4, h5, h6, h7, h8⟩
  · intro h
    exact ⟨_, h.waterLevel, _, h.blockage, _, h.weather, _, h.policy, _, h.sendTimeout, _, h.subscriberQueue, _,
      h.locationQueue, _, h.thresholdLifetime, rfl⟩

theorem exists_givesPolicy_iff : (∃ policy, env.GivesPolicy policy) ↔
    ∀ raw, env.value? "UNKNOWN_LOCATION_POLICY" = some raw →
      ∃ policy : UnknownPolicy, policy.name = Text.lowerAscii (Text.trimBlank raw) := by
  simp only [Environment.GivesPolicy]
  cases env.value? "UNKNOWN_LOCATION_POLICY" with
  | none => exact iff_of_true ⟨.ignore, rfl⟩ nofun
  | some raw => simp

/-- Two periods that are given make a window, if variables in order give no other. -/
theorem exists_givenWindow {graceName warningName : String} {standard : Int × Int}
    (hgrace : ∃ grace, env.Gives graceName (.signed 64) standard.1 grace)
    (hwarning : ∃ warning, env.Gives warningName (.signed 64) standard.2 warning)
    (hordered : ∀ grace warning, env.Gives graceName (.signed 64) standard.1 grace →
      env.Gives warningName (.signed 64) standard.2 warning → grace ≤ warning) :
    ∃ w, GivenWindow env graceName warningName standard w := by
  obtain ⟨grace, hgrace⟩ := hgrace
  obtain ⟨warning, hwarning⟩ := hwarning
  exact ⟨_, grace, warning, hgrace, hwarning, hordered grace warning hgrace hwarning, rfl⟩

/-- Variables give settings if they are in order. -/
theorem exists_givenBy_iff : (∃ s, GivenBy env s) ↔ env.InOrder := by
  constructor
  · rintro ⟨s, h⟩
    refine ⟨?_, exists_givesPolicy_iff.mp ⟨_, h.policy⟩, ?_⟩
    · have hgiven : ∀ number ∈ numbers, ∃ default n, env.Gives number.1 number.2 default n := by
        obtain ⟨_, _, hgrace, hwarning, -⟩ := h.waterLevel
        obtain ⟨_, _, hgrace', hwarning', -⟩ := h.blockage
        obtain ⟨_, _, hgrace'', hwarning'', -⟩ := h.weather
        simp only [numbers, List.forall_mem_cons]
        exact ⟨⟨_, _, hgrace⟩, ⟨_, _, hwarning⟩, ⟨_, _, hgrace'⟩, ⟨_, _, hwarning'⟩, ⟨_, _, hgrace''⟩,
          ⟨_, _, hwarning''⟩, ⟨_, _, h.sendTimeout⟩, ⟨_, _, h.subscriberQueue⟩, ⟨_, _, h.locationQueue⟩,
          ⟨_, _, h.thresholdLifetime⟩, nofun⟩
      intro number hnumber
      obtain ⟨default, hgives⟩ := hgiven number hnumber
      exact Environment.exists_gives_iff.mp hgives
    · have hordered {graceName warningName : String} {standard : Int × Int} {w : Window}
          (hw : GivenWindow env graceName warningName standard w) (grace warning : Int)
          (hgrace : env.Gives graceName (.signed 64) standard.1 grace)
          (hwarning : env.Gives warningName (.signed 64) standard.2 warning) : grace ≤ warning := by
        obtain ⟨_, _, hgrace', hwarning', hordered, -⟩ := hw
        rw [hgrace.eq (IntegerRange.contains_zero_signed 64) hgrace',
          hwarning.eq (IntegerRange.contains_zero_signed 64) hwarning']
        exact hordered
      intro feed standard hfeed
      simp only [feeds, List.mem_cons, Prod.mk.injEq, List.not_mem_nil, or_false] at hfeed
      rcases hfeed with ⟨rfl, rfl⟩ | ⟨rfl, rfl⟩ | ⟨rfl, rfl⟩
      · exact hordered h.waterLevel
      · exact hordered h.blockage
      · exact hordered h.weather
  · intro h
    have hinteger {name : String} (hname : (name, IntegerRange.signed 64) ∈ numbers) (default : Int) :
        ∃ n, env.Gives name (.signed 64) default n :=
      Environment.exists_gives_iff.mpr (h.numbers _ hname)
    have hnatural (name : String) (hname : (name, IntegerRange.unsigned 64) ∈ numbers) (default : Nat) :
        ∃ n : Nat, env.Gives name (.unsigned 64) default n :=
      Environment.exists_gives_natural_iff.mpr (h.numbers _ hname)
    obtain ⟨waterLevel, hwaterLevel⟩ := exists_givenWindow (hinteger (by decide) 4) (hinteger (by decide) 8)
      (h.windows "SENSOR" (4, 8) (by decide))
    obtain ⟨blockage, hblockage⟩ := exists_givenWindow (hinteger (by decide) 5) (hinteger (by decide) 10)
      (h.windows "DETECTION" (5, 10) (by decide))
    obtain ⟨weather, hweather⟩ := exists_givenWindow (hinteger (by decide) 65) (hinteger (by decide) 130)
      (h.windows "WEATHER" (65, 130) (by decide))
    obtain ⟨policy, hpolicy⟩ := exists_givesPolicy_iff.mpr h.policy
    obtain ⟨sendTimeout, hsendTimeout⟩ := hnatural "SUBSCRIBER_SEND_TIMEOUT_MS" (by decide) 2000
    obtain ⟨subscriberQueue, hsubscriberQueue⟩ := hnatural "SUBSCRIBER_QUEUE_CAPACITY" (by decide) 64
    obtain ⟨locationQueue, hlocationQueue⟩ := hnatural "LOCATION_QUEUE_CAPACITY" (by decide) 64
    obtain ⟨thresholdLifetime, hthresholdLifetime⟩ := hnatural "THRESHOLD_CACHE_TTL_SECS" (by decide) 86400
    exact ⟨⟨⟨waterLevel, blockage, weather⟩, sendTimeout, subscriberQueue, locationQueue, thresholdLifetime, policy⟩,
      hwaterLevel, hblockage, hweather, hpolicy, hsendTimeout, hsubscriberQueue, hlocationQueue, hthresholdLifetime⟩

/-- If the windows that are in order can be represented, the settings of the engine are loaded exactly when the
variables are in order. Each of them is then what its own variable gives, or its default, and the registry gets the
windows, the policy and the length of the queues from them. Otherwise the load fails with a configuration error. -/
theorem load_exact (hfit : env.PeriodsFit) :
    ((∃ s, load env = .ok s) ↔ env.InOrder) ∧
    (∀ s, load env = .ok s → s.GivenBy env ∧ s.registry.windows = s.windows ∧ s.registry.policy = s.policy ∧
      s.registry.queueCapacity = s.locationQueue) ∧
    (¬env.InOrder → ∃ reason, load env = .error (.refused (.configuration reason))) := by
  have hloaded : (∃ s, load env = .ok s) ↔ env.InOrder := by
    simp only [load_eq_ok_iff hfit]
    exact exists_givenBy_iff
  refine ⟨hloaded, fun s hs => ⟨(load_eq_ok_iff hfit).mp hs, rfl, rfl, rfl⟩, fun hnot => ?_⟩
  cases hload : load env with
  | ok s => exact absurd (hloaded.mp ⟨s, hload⟩) hnot
  | error fault =>
    obtain ⟨_, rfl, reason, rfl, -⟩ := load_fails hfit fault hload
    exact ⟨reason, rfl⟩

/-- A sensor that may be silent for longer, a verdict that is trusted for a shorter time, and another policy. -/
def patientSettings : Environment :=
  [("SENSOR_WARNING_PERIOD_MINUTES", "+0012"), ("DETECTION_GRACE_PERIOD_MINUTES", " -1\t"),
    ("UNKNOWN_LOCATION_POLICY", " Register "), ("LOCATION_QUEUE_CAPACITY", "8")]

/-- Each setting is what its own variable gives, or its default. -/
theorem load_exact_patient : ∃ s, load patientSettings = .ok s ∧ s.GivenBy patientSettings ∧
    s.registry = ⟨8, .register, ⟨.ofMinutes 4 12, .ofMinutes (-1) 10, .ofMinutes 65 130⟩⟩ := by
  have hfit : patientSettings.PeriodsFit := by
    rintro feed standard hfeed grace warning ⟨hgrace, hwarning⟩ -
    simp only [feeds, List.mem_cons, Prod.mk.injEq, List.not_mem_nil, or_false] at hfeed
    rcases hfeed with ⟨rfl, rfl⟩ | ⟨rfl, rfl⟩ | ⟨rfl, rfl⟩ <;> cases hgrace <;> cases hwarning <;> rfl
  obtain ⟨-, hgiven, -⟩ := load_exact hfit
  obtain ⟨s, hs⟩ : ∃ s, load patientSettings = .ok s := ⟨_, rfl⟩
  refine ⟨s, hs, (hgiven s hs).1, ?_⟩
  cases hs
  rfl

end EngineSettings

end Waterway
