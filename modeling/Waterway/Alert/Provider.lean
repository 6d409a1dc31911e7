import Waterway.Alert.Thresholds

/-!
# Where thresholds come from

A provider of thresholds, and a cache that keeps what a provider answered for a while.

## Main definitions

- `ThresholdCache` — the kept thresholds and their lifetime
- `ThresholdCache.lookup`, `ThresholdCache.keep`, `ThresholdCache.invalidate` — its three steps
- `ThresholdCache.askTaking`, `ThresholdCache.ask` — asks through the cache, a provider that takes its time or one that
  answers at once
- `Provision` — a provider whose answers are laid down in advance

## Design notes

Time is counted in milliseconds. What has been kept is served while strictly less than the lifetime
has passed. A failure of the provider is passed on and leaves the cache as it is.
-/

namespace Waterway

/-- Thresholds kept for a while. -/
structure ThresholdCache where
  /-- How long thresholds are served, in milliseconds. -/
  lifetime : Nat
  /-- The kept thresholds and the time at which they came. -/
  entry : Option (Thresholds × Nat) := none
deriving Repr, DecidableEq

namespace ThresholdCache

/-- A day, the usual lifetime. -/
def defaultLifetime : Nat :=
  24 * 60 * 60 * 1000

/-- The thresholds that may be served at a time. -/
def lookup (c : ThresholdCache) (now : Nat) : Option Thresholds :=
  match c.entry with
  | some (t, since) => if now - since < c.lifetime then some t else none
  | none => none

def keep (c : ThresholdCache) (t : Thresholds) (now : Nat) : ThresholdCache :=
  { c with entry := some (t, now) }

def invalidate (c : ThresholdCache) : ThresholdCache :=
  { c with entry := none }

/-- Asks a provider that takes its time through the cache: what is kept is served, else the provider is asked and a
good answer kept from the time at which it has come. -/
def askTaking {σ : Type} (c : ThresholdCache) (now took : Nat)
    (provider : StateM σ (Except EngineError Thresholds)) :
    StateM σ (Except EngineError Thresholds × ThresholdCache) := do
  match c.lookup now with
  | some t => return (.ok t, c)
  | none =>
    match ← provider with
    | .ok t => return (.ok t, c.keep t (now + took))
    | .error e => return (.error e, c)

/-- Asks a provider that answers at once. -/
def ask {σ : Type} (c : ThresholdCache) (now : Nat) (provider : StateM σ (Except EngineError Thresholds)) :
    StateM σ (Except EngineError Thresholds × ThresholdCache) :=
  c.askTaking now 0 provider

end ThresholdCache

/-- A provider whose answers are laid down in advance. -/
structure Provision where
  /-- The answer to the calls that come first. -/
  answer : Except EngineError Thresholds
  /-- How many calls get that answer; all of them if absent. -/
  calls : Option Nat := none

namespace Provision

/-- The thresholds of a fresh installation. -/
def standard : Thresholds :=
  ⟨45, 75, 76⟩

/-- The error for a setting that does not exist. -/
def settingNotFound : EngineError :=
  .configuration (Thresholds.settingKey ++ " setting not found")

/-- The answer to a call, and what is left. -/
def next (p : Provision) : Except EngineError Thresholds × Provision :=
  match p.calls with
  | none => (p.answer, p)
  | some 0 => (.error settingNotFound, p)
  | some (n + 1) => (p.answer, { p with calls := some n })

end Provision

/-- A provider with a record of how often it has been asked, and perhaps a cache in front of it. -/
structure Supply where
  provision : Provision := ⟨.ok Provision.standard, none⟩
  asked : Nat := 0
  cache : Option ThresholdCache := none

namespace Supply

def askProvider : StateM Supply (Except EngineError Thresholds) := do
  let s ← get
  let (answer, provision) := s.provision.next
  set { s with provision, asked := s.asked + 1 }
  return answer

/-- Asks for thresholds at a time, through the cache if there is one. -/
def ask (now : Nat) : StateM Supply (Except EngineError Thresholds) := do
  match (← get).cache with
  | none => askProvider
  | some cache =>
    let (answer, cache) ← cache.ask now askProvider
    modify ({ · with cache := some cache })
    return answer

end Supply

end Waterway
