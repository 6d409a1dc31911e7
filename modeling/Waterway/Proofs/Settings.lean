import Waterway.Http.Origin
import Waterway.Settings.Basic

/-!
# Bad settings are reported

Settings are loaded, or the load fails with a configuration error that says what is wrong with a variable that is set.
The pages that may call are the one thing about which nothing is said while loading: an origin that can stand in no
header is found out when the policy is made.

## Main definitions

- `FailsWith` — what is known of every error of a computation
- `EngineSettings.feeds`, `Environment.numericVariables` — the variables that hold numbers
- `Environment.Complaint` — what there is to report of some variables
- `Environment.PeriodsFit` — the windows that are in order can be represented

## Main statements

- `ServerSettings.load_fails`, `EngineSettings.load_fails` — every error is a complaint
- `Http.OriginPolicy.ofOrigins_eq_unprintable_iff` — the first origin that can stand in no header
- `settings_reported` — loading the settings, and making the policy of origins out of them
-/

namespace Waterway

open Decimal

section

variable {α β ε ε' : Type} {P : ε → Prop}

/-- Every error of a computation is of some kind. -/
def FailsWith (P : ε → Prop) (x : Except ε α) : Prop :=
  ∀ e, x = .error e → P e

namespace FailsWith

theorem ok (a : α) : FailsWith P (.ok a : Except ε α) := by
  intro e h
  cases h

theorem error {e : ε} (h : P e) : FailsWith P (.error e : Except ε α) := by
  rintro _ ⟨⟩
  exact h

theorem bind {x : Except ε α} {f : α → Except ε β} (hx : FailsWith P x)
    (hf : ∀ a, x = .ok a → FailsWith P (f a)) : FailsWith P (x >>= f) := by
  cases x with
  | error e => exact error (hx e rfl)
  | ok a => exact hf a rfl

theorem map {x : Except ε α} (hx : FailsWith P x) (f : α → β) : FailsWith P (x.map f) := by
  cases x with
  | error e => exact error (hx e rfl)
  | ok a => exact ok (f a)

theorem mapError {Q : ε' → Prop} {x : Except ε α} {f : ε → ε'} (hx : FailsWith P x) (hf : ∀ e, P e → Q (f e)) :
    FailsWith Q (x.mapError f) := by
  cases x with
  | error e => exact error (hf e (hx e rfl))
  | ok a => exact ok a

end FailsWith

theorem eq_ok_of_mapError {x : Except ε α} {f : ε → ε'} {a : α} (h : x.mapError f = .ok a) : x = .ok a := by
  cases x with
  | error e => cases h
  | ok b => exact congrArg Except.ok (Except.ok.inj h)

end

/-- The feeds by the words that their variables begin with, each with its standard periods in minutes. -/
def EngineSettings.feeds : List (String × Int × Int) :=
  [("SENSOR", 4, 8), ("DETECTION", 5, 10), ("WEATHER", 65, 130)]

namespace Environment

/-- The variables that hold the two periods of a feed. -/
def periodVariables (feed : String) : List String :=
  [feed ++ "_GRACE_PERIOD_MINUTES", feed ++ "_WARNING_PERIOD_MINUTES"]

/-- The variables that hold numbers, with the ranges of these. -/
def numericVariables : List (String × IntegerRange) :=
  [("PORT", .unsigned 16), ("REQUEST_TIMEOUT_SECS", .unsigned 64), ("SHUTDOWN_TIMEOUT_SECS", .unsigned 64),
    ("SUBSCRIBER_SEND_TIMEOUT_MS", .unsigned 64), ("SUBSCRIBER_QUEUE_CAPACITY", .unsigned 64),
    ("LOCATION_QUEUE_CAPACITY", .unsigned 64), ("THRESHOLD_CACHE_TTL_SECS", .unsigned 64)] ++
  EngineSettings.feeds.flatMap fun (feed, _) => (periodVariables feed).map fun name => (name, .signed 64)

/-- The window that is given for a feed, each period being the standard one where no other is set. -/
def GivesWindow (env : Environment) (feed : String) (standard : Int × Int) (grace warning : Int) : Prop :=
  env.integer (feed ++ "_GRACE_PERIOD_MINUTES") (.signed 64) standard.1 = .ok grace ∧
  env.integer (feed ++ "_WARNING_PERIOD_MINUTES") (.signed 64) standard.2 = .ok warning

/-- What there is to report of the variables. -/
inductive Complaint (env : Environment) : String → Prop where
  /-- A variable is set to something that is no number of its range. -/
  | number {name raw : String} {range : IntegerRange} {error : IntegerError}
      (hname : (name, range) ∈ numericVariables) (hset : env.value? name = some raw)
      (hread : range.read (Text.trimBlankChars raw.toList) = .error error) :
      Complaint env (name ++ " is invalid: " ++ error.message)
  /-- A feed has a warning period that is shorter than its grace period. -/
  | order {feed : String} {standard : Int × Int} {grace warning : Int}
      (hfeed : (feed, standard) ∈ EngineSettings.feeds) (hgiven : env.GivesWindow feed standard grace warning)
      (hshorter : warning < grace) :
      Complaint env (feed ++ "_WARNING_PERIOD_MINUTES (" ++ toString warning ++
        ") must not be shorter than the grace period (" ++ toString grace ++ ")")
  /-- The policy for unknown locations is none of the three. -/
  | policy {raw name : String} (hset : env.value? "UNKNOWN_LOCATION_POLICY" = some raw)
      (hname : name = Text.lowerAscii (Text.trimBlank raw)) (hunknown : ∀ p : UnknownPolicy, p.name ≠ name) :
      Complaint env ("unknown location policy '" ++ name ++ "', expected ignore, reject or register")

/-- The windows that are in order can be represented. -/
def PeriodsFit (env : Environment) : Prop :=
  ∀ feed standard, (feed, standard) ∈ EngineSettings.feeds → ∀ grace warning,
    env.GivesWindow feed standard grace warning → grace ≤ warning → (Window.ofMinutes? grace warning).isSome

/-- A configuration error that says what is wrong with some variables. -/
def Reported (env : Environment) (e : DomainError) : Prop :=
  ∃ reason, e = .configuration reason ∧ env.Complaint reason

variable {env : Environment}

theorem integer_fails {name : String} {range : IntegerRange} (hname : (name, range) ∈ numericVariables)
    (standard : Int) : FailsWith env.Reported (env.integer name range standard) := by
  rw [integer]
  cases hset : env.value? name with
  | none => exact .ok _
  | some raw =>
    simp only
    cases hread : range.read (Text.trimBlankChars raw.toList) with
    | ok n => exact .ok n
    | error error => exact .error ⟨_, rfl, .number hname hset hread⟩

theorem natural_fails {name : String} {bits : Nat} (hname : (name, .unsigned bits) ∈ numericVariables)
    (standard : Nat) : FailsWith env.Reported (env.natural name bits standard) :=
  (integer_fails hname standard).map _

end Environment

/-- A text that names no policy is refused under that name. -/
theorem UnknownPolicy.ofName_fails (s : String) :
    FailsWith (fun e => ∃ name, name = Text.lowerAscii (Text.trimBlank s) ∧ (∀ p : UnknownPolicy, p.name ≠ name) ∧
      e = .configuration ("unknown location policy '" ++ name ++ "', expected ignore, reject or register"))
      (ofName s) := by
  rw [ofName]
  cases hfind : all.find? (·.name == Text.lowerAscii (Text.trimBlank s)) with
  | some policy => exact .ok policy
  | none =>
    refine .error ⟨_, rfl, fun p => ?_, rfl⟩
    have hall : p ∈ all := by cases p <;> decide
    simpa using List.find?_eq_none.mp hfind p hall

/-- An error in the settings of the server is reported. -/
theorem ServerSettings.load_fails (env : Environment) : FailsWith env.Reported (ServerSettings.load env) := by
  refine .bind (Environment.natural_fails (by decide) 3000) fun port _ => ?_
  refine .bind (Environment.natural_fails (by decide) 30) fun requestTimeout _ => ?_
  refine .bind (Environment.natural_fails (by decide) 30) fun shutdownTimeout _ => ?_
  exact .ok _

namespace EngineSettings

variable {env : Environment}

/-- An error of the domain that is reported. -/
def Refused (env : Environment) (fault : SettingsFault) : Prop :=
  ∃ e, fault = .refused e ∧ env.Reported e

theorem refused_of_reported {e : DomainError} (h : env.Reported e) : Refused env (.refused e) :=
  ⟨e, rfl, h⟩

theorem period_fails {feed name : String} {standard : Int × Int} (hfeed : (feed, standard) ∈ feeds)
    (hname : name ∈ Environment.periodVariables feed) (n : Int) :
    FailsWith (Refused env) ((env.integer name (.signed 64) n).mapError SettingsFault.refused) := by
  have hmem : (name, IntegerRange.signed 64) ∈ Environment.numericVariables := by
    refine List.mem_append_right _ (List.mem_flatMap.mpr ⟨_, hfeed, ?_⟩)
    exact List.mem_map_of_mem hname
  exact (Environment.integer_fails hmem n).mapError fun _ => refused_of_reported

theorem loadWindow_fails (hfit : env.PeriodsFit) {feed : String} {standard : Int × Int}
    (hfeed : (feed, standard) ∈ feeds) : FailsWith (Refused env) (loadWindow env feed standard) := by
  refine .bind (period_fails hfeed (by simp [Environment.periodVariables]) _) fun grace hgrace => ?_
  refine .bind (period_fails hfeed (by simp [Environment.periodVariables]) _) fun warning hwarning => ?_
  have hgiven : env.GivesWindow feed standard grace warning := ⟨eq_ok_of_mapError hgrace, eq_ok_of_mapError hwarning⟩
  by_cases hshorter : warning < grace
  · simp only [if_pos hshorter]
    exact .error (refused_of_reported ⟨_, rfl, .order hfeed hgiven hshorter⟩)
  · simp only [if_neg hshorter]
    have hsome := hfit feed standard hfeed grace warning hgiven (by omega)
    obtain ⟨window, hwindow⟩ := Option.isSome_iff_exists.mp hsome
    rw [hwindow]
    exact .ok window

theorem loadPolicy_fails (env : Environment) : FailsWith env.Reported (loadPolicy env) := by
  rw [loadPolicy]
  cases hset : env.value? "UNKNOWN_LOCATION_POLICY" with
  | none => exact .ok _
  | some raw =>
    intro e he
    obtain ⟨name, hname, hunknown, rfl⟩ := UnknownPolicy.ofName_fails raw e he
    exact ⟨_, rfl, .policy hset hname hunknown⟩

/-- An error in the settings of the engine is reported, if the periods can be represented. -/
theorem load_fails (hfit : env.PeriodsFit) : FailsWith (Refused env) (load env) := by
  have hnatural {name : String} (hname : (name, IntegerRange.unsigned 64) ∈ Environment.numericVariables)
      (n : Nat) : FailsWith (Refused env) ((env.natural name 64 n).mapError SettingsFault.refused) :=
    (Environment.natural_fails hname n).mapError fun _ => refused_of_reported
  refine .bind (loadWindow_fails hfit (by decide)) fun waterLevel _ => ?_
  refine .bind (loadWindow_fails hfit (by decide)) fun blockage _ => ?_
  refine .bind (loadWindow_fails hfit (by decide)) fun weather _ => ?_
  refine .bind ((loadPolicy_fails env).mapError fun _ => refused_of_reported) fun policy _ => ?_
  refine .bind (hnatural (by decide) 2000) fun sendTimeout _ => ?_
  refine .bind (hnatural (by decide) 64) fun subscriberQueue _ => ?_
  refine .bind (hnatural (by decide) 64) fun locationQueue _ => ?_
  refine .bind (hnatural (by decide) 86400) fun thresholdLifetime _ => ?_
  exact .ok _

end EngineSettings

namespace Http.OriginPolicy

/-- The policy is refused because of the first origin that can stand in no header. -/
theorem ofOrigins_eq_unprintable_iff {origins : List String} {origin : String} :
    ofOrigins origins = .error (.unprintable origin) ↔
      ∃ before later, origins = before ++ origin :: later ∧ (∀ o ∈ before, isHeaderValue o) ∧
        ¬isHeaderValue origin := by
  have hfirst : ofOrigins origins = .error (.unprintable origin) ↔
      origins.find? (!isHeaderValue ·) = some origin := by
    rw [ofOrigins]
    cases hfind : origins.find? (!isHeaderValue ·) with
    | some first => simp
    | none =>
      -- a list that is refused all the same is refused for another reason
      simp only [reduceCtorEq, iff_false]
      split <;> simp
  rw [hfirst, List.find?_eq_some_iff_append]
  constructor
  · rintro ⟨hvalue, before, later, hsplit, hbefore⟩
    exact ⟨before, later, hsplit, by simpa using hbefore, by simpa using hvalue⟩
  · rintro ⟨before, later, hsplit, hbefore, hvalue⟩
    exact ⟨by simpa using hvalue, before, later, hsplit, by simpa using hbefore⟩

theorem ofOrigins_eq_ok {origins : List String} (hvalues : ∀ o ∈ origins, isHeaderValue o) (hlist : "*" ∉ origins) :
    ofOrigins origins = .ok ⟨origins⟩ := by
  have hfind : origins.find? (!isHeaderValue ·) = none := by
    rw [List.find?_eq_none]
    intro o ho
    simp [hvalues o ho]
  have hcontains : origins.contains "*" = false := by simpa using hlist
  rw [ofOrigins, hfind]
  simp only [hcontains]
  rfl

end Http.OriginPolicy

open Http.OriginPolicy in
/-- Settings are loaded, or the load fails with a configuration error that says what is wrong with a variable. For the
settings of the engine this is so if the windows that are in order can be represented. Out of the origins that have been
loaded a policy is made, unless one of them can stand in no header, and then the first of these is named. -/
theorem settings_reported (env : Environment) :
    ((∃ s, ServerSettings.load env = .ok s) ∨
      ∃ reason, ServerSettings.load env = .error (.configuration reason) ∧ env.Complaint reason) ∧
    (env.PeriodsFit → (∃ s, EngineSettings.load env = .ok s) ∨
      ∃ reason, EngineSettings.load env = .error (.refused (.configuration reason)) ∧ env.Complaint reason) ∧
    ∀ s, ServerSettings.load env = .ok s →
      ((∀ o ∈ s.origins, isHeaderValue o) → "*" ∉ s.origins → ofOrigins s.origins = .ok ⟨s.origins⟩) ∧
      ∀ origin, ofOrigins s.origins = .error (.unprintable origin) ↔
        ∃ before later, s.origins = before ++ origin :: later ∧ (∀ o ∈ before, isHeaderValue o) ∧
          ¬isHeaderValue origin := by
  refine ⟨?_, fun hfit => ?_, fun s _ => ⟨ofOrigins_eq_ok, fun origin => ofOrigins_eq_unprintable_iff⟩⟩
  · cases hload : ServerSettings.load env with
    | ok s => exact .inl ⟨s, rfl⟩
    | error e =>
      obtain ⟨reason, rfl, hcomplaint⟩ := ServerSettings.load_fails env e hload
      exact .inr ⟨reason, rfl, hcomplaint⟩
  · cases hload : EngineSettings.load env with
    | ok s => exact .inl ⟨s, rfl⟩
    | error fault =>
      obtain ⟨_, rfl, reason, rfl, hcomplaint⟩ := EngineSettings.load_fails hfit fault hload
      exact .inr ⟨reason, rfl, hcomplaint⟩

/-- A grace period that is longer than the standard warning period, and an origin with a character that no header may
hold. -/
def carelessSettings : Environment :=
  [("SENSOR_GRACE_PERIOD_MINUTES", " 9 "), ("CORS_ORIGINS", "http://weir.example, http://gauge\x7f")]

/-- The period is reported, and so is the origin when the policy is made. -/
theorem settings_reported_careless :
    (∃ reason, EngineSettings.load carelessSettings = .error (.refused (.configuration reason)) ∧
      carelessSettings.Complaint reason) ∧
    ∃ s, ServerSettings.load carelessSettings = .ok s ∧
      Http.OriginPolicy.ofOrigins s.origins = .error (.unprintable "http://gauge\x7f") := by
  have hfit : carelessSettings.PeriodsFit := by
    rintro feed standard hfeed grace warning ⟨hgrace, hwarning⟩ horder
    simp only [EngineSettings.feeds, List.mem_cons, Prod.mk.injEq, List.not_mem_nil, or_false] at hfeed
    rcases hfeed with ⟨rfl, rfl⟩ | ⟨rfl, rfl⟩ | ⟨rfl, rfl⟩ <;> cases hgrace <;> cases hwarning
    · -- nine minutes of grace are more than the standard eight minutes
      exact absurd horder (by decide)
    · rfl
    · rfl
  obtain ⟨-, hengine, hpolicy⟩ := settings_reported carelessSettings
  constructor
  · rcases hengine hfit with ⟨s, hs⟩ | hrefused
    · cases hs
    · exact hrefused
  · refine ⟨_, rfl, ?_⟩
    refine ((hpolicy _ rfl).2 "http://gauge\x7f").mpr ⟨["http://weir.example"], [], rfl, ?_, ?_⟩
    · decide
    · decide

/-- An origin that can stand in no header is loaded, and no policy is made. -/
theorem unprintable_origin_loaded :
    ∃ s, ServerSettings.load [("CORS_ORIGINS", "http://gauge\x7f")] = .ok s ∧
      Http.OriginPolicy.ofOrigins s.origins = .error (.unprintable "http://gauge\x7f") := by
  refine ⟨_, rfl, ?_⟩
  rfl

end Waterway
