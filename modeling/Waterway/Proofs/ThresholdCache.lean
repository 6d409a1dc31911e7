import Mathlib.Data.List.Induction
import Waterway.Alert.Provider

/-!
# Thresholds kept for a while

A cache is asked and invalidated while time passes, and beside it stands a record of what its provider answered
and when. What the cache serves without its provider can be read off that record: the last good answer, while it
is younger than the lifetime and nothing has been forgotten since.

## Main definitions

- `ThresholdCache.Usage` — a cache in use, with the record
- `ThresholdCache.Live` — what may be served, by the record alone

## Main statements

- `ThresholdCache.Usage.sound_after` — what is kept is the last good answer of the record
- `ThresholdCache.Usage.serves_live` — the cache serves what is live, and passes on all else
-/

namespace Waterway.ThresholdCache

/-- What a provider answers. -/
abbrev Answer := Except EngineError Thresholds

/-- What is served is what is kept, while it is young. -/
theorem lookup_eq_some_iff {c : ThresholdCache} {now : Nat}
    (hpast : ∀ t since, c.entry = some (t, since) → since ≤ now) {t : Thresholds} :
    c.lookup now = some t ↔ ∃ since, c.entry = some (t, since) ∧ now < since + c.lifetime := by
  rw [lookup]
  cases hentry : c.entry with
  | none => simp
  | some kept =>
    obtain ⟨t', since⟩ := kept
    have hage : now - since < c.lifetime ↔ now < since + c.lifetime := by
      have := hpast t' since hentry
      omega
    simp only [hage]
    constructor
    · intro h
      split at h
      · next hyoung =>
        cases h
        exact ⟨since, rfl, hyoung⟩
      · cases h
    · rintro ⟨since', heq, hyoung⟩
      cases heq
      exact if_pos hyoung

/-- What is on record about a cache. -/
inductive Note where
  /-- The provider was asked, and its answer had come at a time. -/
  | answered (answer : Answer) (time : Nat)
  | invalidated

/-- A provider whose answer has come at a time, and goes on record. -/
def answering (answer : Answer) (time : Nat) : StateM (List Note) Answer := do
  modify (· ++ [.answered answer time])
  return answer

/-- What may be served: the last good answer, if nothing but failures has come after it and less than the
lifetime has passed. -/
def Live (lifetime clock : Nat) (record : List Note) (t : Thresholds) : Prop :=
  ∃ earlier time later, record = earlier ++ .answered (.ok t) time :: later ∧
    (∀ note ∈ later, ∃ error time, note = .answered (.error error) time) ∧ clock < time + lifetime

/-- What is left to serve after one more note. -/
def recollect : Option (Thresholds × Nat) → Note → Option (Thresholds × Nat)
  | _, .answered (.ok t) time => some (t, time)
  | last, .answered (.error _) _ => last
  | _, .invalidated => none

/-- The last good answer that has not been forgotten, and its time. -/
def lastGood (record : List Note) : Option (Thresholds × Nat) :=
  record.foldl recollect none

theorem lastGood_concat (record : List Note) (note : Note) :
    lastGood (record ++ [note]) = recollect (lastGood record) note := by
  simp [lastGood]

theorem lastGood_eq_some_iff {record : List Note} {t : Thresholds} {time : Nat} :
    lastGood record = some (t, time) ↔
      ∃ earlier later, record = earlier ++ .answered (.ok t) time :: later ∧
        ∀ note ∈ later, ∃ error time, note = .answered (.error error) time := by
  induction record using List.reverseRecOn with
  | nil => simp [lastGood]
  | append_singleton record note ih =>
    rw [lastGood_concat]
    constructor
    · intro h
      match note with
      | .answered (.ok t') time' =>
        cases h
        exact ⟨record, [], rfl, by simp⟩
      | .answered (.error error) time' =>
        obtain ⟨earlier, later, rfl, hlater⟩ := ih.mp h
        refine ⟨earlier, later ++ [.answered (.error error) time'], by simp, ?_⟩
        intro n hn
        rcases List.mem_append.mp hn with hmem | hlast
        · exact hlater n hmem
        · exact ⟨error, time', List.mem_singleton.mp hlast⟩
    · rintro ⟨earlier, later, heq, hlater⟩
      -- the note that came last is the good answer itself or one of the failures after it
      rcases List.eq_nil_or_concat later with rfl | ⟨front, last, rfl⟩
      · obtain ⟨-, rfl⟩ := List.append_inj' heq rfl |>.imp_right List.singleton_inj.mp
        rfl
      · rw [List.concat_eq_append, ← List.cons_append, ← List.append_assoc] at heq
        obtain ⟨rfl, hnote⟩ := List.append_inj' heq rfl
        obtain ⟨error, time', rfl⟩ := hlater last (by simp)
        rw [List.singleton_inj.mp hnote]
        exact ih.mpr ⟨earlier, front, rfl, fun n hn => hlater n (by simp [hn])⟩

/-- A cache in use, with the record of its provider. -/
structure Usage where
  cache : ThresholdCache
  clock : Nat := 0
  record : List Note := []

namespace Usage

/-- What can happen to a cache. The clock never goes back. -/
inductive Event where
  /-- Somebody asks. If it comes to that, the provider takes some time and gives an answer. -/
  | ask (answer : Answer) (took : Nat)
  | invalidate
  | pass (time : Nat)

variable {s : Usage} {lifetime : Nat} {events : List Event}

/-- A call, and what it leaves behind. It takes no time if the cache can serve it. -/
def ask (s : Usage) (answer : Answer) (took : Nat) : Answer × Usage :=
  let ((reply, cache), record) :=
    (s.cache.askTaking s.clock took (answering answer (s.clock + took))).run s.record
  (reply, { cache, record, clock := if (s.cache.lookup s.clock).isSome then s.clock else s.clock + took })

def step (s : Usage) : Event → Usage
  | .ask answer took => (s.ask answer took).2
  | .invalidate => { s with cache := s.cache.invalidate, record := s.record ++ [.invalidated] }
  | .pass time => { s with clock := s.clock + time }

/-- A cache with a lifetime after some events. -/
def after (lifetime : Nat) (events : List Event) : Usage :=
  events.foldl step { cache := { lifetime } }

theorem after_concat (lifetime : Nat) (events : List Event) (e : Event) :
    after lifetime (events ++ [e]) = (after lifetime events).step e := by
  simp [after]

/-- What the calls among some events are answered. -/
def replies : Usage → List Event → List Answer
  | _, [] => []
  | s, .ask answer took :: events => (s.ask answer took).1 :: replies (s.ask answer took).2 events
  | s, e :: events => replies (s.step e) events

theorem ask_of_lookup {t : Thresholds} (h : s.cache.lookup s.clock = some t) (answer : Answer) (took : Nat) :
    s.ask answer took = (.ok t, s) := by
  simp [ask, askTaking, h]
  rfl

/-- Without anything to serve, the answer of the provider is passed on, and kept if it is good. -/
theorem ask_of_lookup_eq_none (h : s.cache.lookup s.clock = none) (answer : Answer) (took : Nat) :
    s.ask answer took = (answer,
      { cache := match answer with
          | .ok t => s.cache.keep t (s.clock + took)
          | .error _ => s.cache
        clock := s.clock + took
        record := s.record ++ [.answered answer (s.clock + took)] }) := by
  cases answer <;> simp [ask, askTaking, h, answering] <;> rfl

/-- What is kept is the last good answer of the record, which came in the past. -/
structure Sound (lifetime : Nat) (s : Usage) : Prop where
  lifetime : s.cache.lifetime = lifetime
  entry : s.cache.entry = lastGood s.record
  past : ∀ t since, s.cache.entry = some (t, since) → since ≤ s.clock

theorem Sound.step (hs : s.Sound lifetime) (e : Event) : (s.step e).Sound lifetime := by
  cases e with
  | ask answer took =>
    rw [Usage.step]
    cases hlookup : s.cache.lookup s.clock with
    | some t =>
      rw [ask_of_lookup hlookup]
      exact hs
    | none =>
      rw [ask_of_lookup_eq_none hlookup]
      cases answer with
      | ok t =>
        refine ⟨hs.lifetime, ?_, ?_⟩
        · rw [lastGood_concat]
          rfl
        · intro t' since h
          cases h
          exact Nat.le_refl _
      | error error =>
        -- the entry stays, though it may have expired
        refine ⟨hs.lifetime, ?_, ?_⟩
        · rw [lastGood_concat]
          exact hs.entry
        · intro t since h
          exact Nat.le_add_right_of_le (hs.past t since h)
  | invalidate =>
    refine ⟨hs.lifetime, ?_, ?_⟩
    · rw [Usage.step, lastGood_concat]
      rfl
    · intro t since h
      cases h
  | pass time => exact ⟨hs.lifetime, hs.entry, fun t since h => Nat.le_add_right_of_le (hs.past t since h)⟩

theorem sound_after (lifetime : Nat) (events : List Event) : (after lifetime events).Sound lifetime := by
  induction events using List.reverseRecOn with
  | nil => exact ⟨rfl, rfl, fun _ _ h => nomatch h⟩
  | append_singleton events e ih =>
    rw [after_concat]
    exact ih.step e

/-- What is found in the cache is what is live by the record. -/
theorem Sound.lookup_eq_some_iff (hs : s.Sound lifetime) {t : Thresholds} :
    s.cache.lookup s.clock = some t ↔ Live lifetime s.clock s.record t := by
  have hlive : Live lifetime s.clock s.record t ↔
      ∃ time, s.cache.entry = some (t, time) ∧ s.clock < time + lifetime := by
    rw [hs.entry]
    constructor
    · rintro ⟨earlier, time, later, hrecord, hlater, htime⟩
      exact ⟨time, lastGood_eq_some_iff.mpr ⟨earlier, later, hrecord, hlater⟩, htime⟩
    · rintro ⟨time, hlast, htime⟩
      obtain ⟨earlier, later, hrecord, hlater⟩ := lastGood_eq_some_iff.mp hlast
      exact ⟨earlier, time, later, hrecord, hlater, htime⟩
  rw [hlive, ThresholdCache.lookup_eq_some_iff hs.past, hs.lifetime]

/-- The replies do not depend on the record. -/
theorem replies_congr {s s' : Usage} (hcache : s'.cache = s.cache) (hclock : s'.clock = s.clock)
    (events : List Event) : s'.replies events = s.replies events := by
  induction events generalizing s s' with
  | nil => rfl
  | cons e events ih =>
    cases e with
    | ask answer took =>
      rw [replies, replies]
      cases hlookup : s.cache.lookup s.clock with
      | some t =>
        have hlookup' : s'.cache.lookup s'.clock = some t := by rw [hcache, hclock, hlookup]
        rw [ask_of_lookup hlookup, ask_of_lookup hlookup', ih hcache hclock]
      | none =>
        have hlookup' : s'.cache.lookup s'.clock = none := by rw [hcache, hclock, hlookup]
        rw [ask_of_lookup_eq_none hlookup, ask_of_lookup_eq_none hlookup', hcache, hclock]
        exact congrArg _ (ih rfl rfl)
    | invalidate => exact ih (congrArg invalidate hcache) hclock
    | pass time => exact ih hcache (congrArg (· + time) hclock)

/-- A call is served without the provider exactly if something is live, and with that. Every other call has the
provider asked once and gets its answer, whatever it is. So only what the provider has answered is ever served,
and a failure has no consequences but the time that it took. -/
theorem serves_live (lifetime : Nat) (events : List Event) (answer : Answer) (took : Nat) :
    let s := after lifetime events
    let reply := (s.ask answer took).1
    let s' := (s.ask answer took).2
    (∀ t, reply = .ok t ∧ s'.record = s.record ↔ Live lifetime s.clock s.record t) ∧
    ((∀ t, ¬Live lifetime s.clock s.record t) →
      reply = answer ∧ s'.record = s.record ++ [.answered answer (s.clock + took)]) ∧
    (∀ t, reply = .ok t → ∃ time, .answered (.ok t) time ∈ s'.record) ∧
    ((∀ t, ¬Live lifetime s.clock s.record t) → ∀ error later,
      (after lifetime (events ++ [.ask (.error error) took])).replies later =
        (after lifetime (events ++ [.pass took])).replies later) := by
  intro s reply s'
  have hs : s.Sound lifetime := sound_after lifetime events
  cases hlookup : s.cache.lookup s.clock with
  | some t =>
    have hlive : Live lifetime s.clock s.record t := hs.lookup_eq_some_iff.mp hlookup
    have hask : s.ask answer took = (.ok t, s) := ask_of_lookup hlookup answer took
    have hreply : reply = .ok t := congrArg Prod.fst hask
    have hsame : s' = s := congrArg Prod.snd hask
    refine ⟨fun t' => ?_, fun hnone => absurd hlive (hnone t), fun t' h => ?_, fun hnone => absurd hlive (hnone t)⟩
    · rw [hreply, hsame, ← hs.lookup_eq_some_iff, hlookup]
      simp
    · rw [hreply] at h
      cases h
      obtain ⟨earlier, time, later, hrecord, -⟩ := hlive
      exact ⟨time, by rw [hsame, hrecord]; simp⟩
  | none =>
    have hnone (t : Thresholds) : ¬Live lifetime s.clock s.record t := by
      rw [← hs.lookup_eq_some_iff, hlookup]
      exact nofun
    have hask := ask_of_lookup_eq_none hlookup answer took
    have hreply : reply = answer := congrArg Prod.fst hask
    have hrecord : s'.record = s.record ++ [.answered answer (s.clock + took)] :=
      congrArg (fun r => r.2.record) hask
    refine ⟨fun t => ?_, fun _ => ⟨hreply, hrecord⟩, fun t h => ?_, fun _ error later => ?_⟩
    · rw [hrecord]
      simp [hnone t]
    · rw [hreply] at h
      exact ⟨s.clock + took, by rw [hrecord, h]; simp⟩
    · rw [after_concat, after_concat, Usage.step, Usage.step, ask_of_lookup_eq_none hlookup]
      refine replies_congr ?_ ?_ later
      · rfl
      · rfl

/-- Thresholds that have been kept for one unit less than their lifetime of ten. -/
def almostExpired : List Event :=
  [.ask (.ok Provision.standard) 5, .pass 9]

/-- They are served although the provider would fail, and no longer one unit later. From then on it makes no
difference that the provider has failed. -/
theorem serves_live_almostExpired :
    ((after 10 almostExpired).ask (.error Provision.settingNotFound) 3).1 = .ok Provision.standard ∧
    ((after 10 (almostExpired ++ [.pass 1])).ask (.error Provision.settingNotFound) 3).1 =
      .error Provision.settingNotFound ∧
    ∀ later,
      (after 10 (almostExpired ++ [.pass 1] ++ [.ask (.error Provision.settingNotFound) 3])).replies later =
        (after 10 (almostExpired ++ [.pass 1] ++ [.pass 3])).replies later := by
  have hlive : Live 10 (after 10 almostExpired).clock (after 10 almostExpired).record Provision.standard :=
    ⟨[], 5, [], rfl, by simp, by decide⟩
  have hexpired (t : Thresholds) : ¬Live 10 (after 10 (almostExpired ++ [.pass 1])).clock
      (after 10 (almostExpired ++ [.pass 1])).record t := by
    rw [← (sound_after 10 _).lookup_eq_some_iff]
    exact nofun
  obtain ⟨hserved, -⟩ := serves_live 10 almostExpired (.error Provision.settingNotFound) 3
  obtain ⟨-, hpassed, -, hharmless⟩ :=
    serves_live 10 (almostExpired ++ [.pass 1]) (.error Provision.settingNotFound) 3
  exact ⟨((hserved _).mpr hlive).1, (hpassed hexpired).1, hharmless hexpired _⟩

end Usage

end Waterway.ThresholdCache
