import Waterway.Proofs.Keyed
import Waterway.Proofs.ThresholdCache

/-!
# Thresholds kept for many

Several callers share a cache. A call looks into it, asks the provider if nothing is found there, and stores a good
answer. Between these steps other calls go on, the cache is invalidated, and the provider changes its mind.

## Main definitions

- `ThresholdCache.Call` — how far a call has got
- `ThresholdCache.Traffic` — a cache with its calls, and what the provider has answered
- `ThresholdCache.Traffic.Stepped` — the ways in which an event can go
- `ThresholdCache.Traffic.Resurfaced` — an invalidation is undone for a call

## Main statements

- `ThresholdCache.Traffic.run_uninterrupted` — the steps of a call without anything in between are `askTaking`
- `ThresholdCache.Traffic.invalidate_undone_iff` — who undoes an invalidation, and when nobody can

## Design notes

The answers of the provider are numbered, and a call that returns thresholds tells the number of the answer that
they come from, so that an old answer is told apart from a new one with the same thresholds. An answer is as old as
the time at which it came, however long its caller takes to store it.
-/

namespace Waterway.ThresholdCache

/-- How far a call has got. -/
inductive Call where
  /-- Nothing has been found, and the provider is asked. -/
  | asking
  /-- The provider has answered, for the `n`-th time, and that is to be stored. -/
  | holding (t : Thresholds) (n since : Nat)
  | served (t : Thresholds) (n : Nat)
  | failed (error : EngineError)
deriving Repr, DecidableEq

/-- What a call returns, if it is over. -/
def Call.reply : Call → Option Answer
  | .asking | .holding .. => none
  | .served t _ => some (.ok t)
  | .failed error => some (.error error)

/-- A cache with its calls, counted from the oldest, and a provider with its answers. -/
structure Traffic where
  cache : ThresholdCache
  clock : Nat := 0
  /-- What the provider would answer now. -/
  provider : Answer
  answers : List Answer := []
  /-- The number of the answer that was stored last. -/
  source : Nat := 0
  calls : List Call := []

namespace Traffic

/-- What can happen, step by step. The clock never goes back. -/
inductive Event where
  /-- Somebody calls, and looks into the cache. -/
  | call
  /-- The provider answers a call. -/
  | fetch (i : Nat)
  /-- A call stores what it holds, and returns it. -/
  | store (i : Nat)
  | invalidate
  | change (provider : Answer)
  | pass (time : Nat)
deriving Repr, DecidableEq

variable {s : Traffic} {lifetime : Nat} {later : List Event}

/-- A call that has looked into the cache. -/
def entering (s : Traffic) : Call :=
  match s.cache.lookup s.clock with
  | some t => .served t s.source
  | none => .asking

/-- A call that has heard from the provider. -/
def answered (s : Traffic) : Call :=
  match s.provider with
  | .ok t => .holding t s.answers.length s.clock
  | .error error => .failed error

def step (s : Traffic) : Event → Traffic
  | .call => { s with calls := s.calls ++ [s.entering] }
  | .fetch i =>
    match s.calls[i]? with
    | some .asking => { s with answers := s.answers ++ [s.provider], calls := s.calls.set i s.answered }
    | _ => s
  | .store i =>
    match s.calls[i]? with
    | some (.holding t n since) =>
      { s with cache := s.cache.keep t since, source := n, calls := s.calls.set i (.served t n) }
    | _ => s
  | .invalidate => { s with cache := s.cache.invalidate }
  | .change provider => { s with provider }
  | .pass time => { s with clock := s.clock + time }

def run (s : Traffic) (events : List Event) : Traffic :=
  events.foldl step s

theorem run_append (s : Traffic) (events later : List Event) : s.run (events ++ later) = (s.run events).run later :=
  List.foldl_append

theorem run_concat (s : Traffic) (events : List Event) (e : Event) : s.run (events ++ [e]) = (s.run events).step e :=
  s.run_append events [e]

/-- A cache with a lifetime, and a provider, after some events. -/
def after (lifetime : Nat) (provider : Answer) (events : List Event) : Traffic :=
  run { cache := { lifetime }, provider } events

/-- The steps of a call without anything in between are a call that asks a provider which takes its time. -/
theorem run_uninterrupted (s : Traffic) (took : Nat) :
    let n := s.calls.length
    let s' := s.run [.call, .pass took, .fetch n, .store n]
    (∃ call, s'.calls[n]? = some call ∧ call.reply = some (s.cache.askTaking s.clock took (pure s.provider) ()).1.1) ∧
      s'.cache = (s.cache.askTaking s.clock took (pure s.provider) ()).1.2 := by
  cases hlookup : s.cache.lookup s.clock with
  | some t =>
    have hask : (s.cache.askTaking s.clock took (pure s.provider) ()).1 = (.ok t, s.cache) := by
      rw [askTaking, hlookup]
      rfl
    rw [hask]
    simp [run, step, entering, hlookup, Call.reply]
  | none =>
    cases hprovider : s.provider with
    | ok t =>
      have hask : (s.cache.askTaking s.clock took (pure (.ok t)) ()).1 = (.ok t, s.cache.keep t (s.clock + took)) := by
        rw [askTaking, hlookup]
        rfl
      rw [hask]
      simp [run, step, entering, answered, hlookup, hprovider, Call.reply]
    | error error =>
      have hask : (s.cache.askTaking s.clock took (pure (.error error)) ()).1 = (.error error, s.cache) := by
        rw [askTaking, hlookup]
        rfl
      rw [hask]
      simp [run, step, entering, answered, hlookup, hprovider, Call.reply]

/-- The ways in which an event can go. -/
inductive Stepped (s : Traffic) : Event → Traffic → Prop where
  /-- There is no such call, or it is not at that point. -/
  | idle (e : Event) : Stepped s e s
  | found {t : Thresholds} (hlookup : s.cache.lookup s.clock = some t) :
      Stepped s .call { s with calls := s.calls ++ [.served t s.source] }
  | missed (hlookup : s.cache.lookup s.clock = none) : Stepped s .call { s with calls := s.calls ++ [.asking] }
  | fetched {i : Nat} {t : Thresholds} (hi : s.calls[i]? = some .asking) (hprovider : s.provider = .ok t) :
      Stepped s (.fetch i) { s with
        answers := s.answers ++ [s.provider], calls := s.calls.set i (.holding t s.answers.length s.clock) }
  | refused {i : Nat} {error : EngineError} (hi : s.calls[i]? = some .asking) (hprovider : s.provider = .error error) :
      Stepped s (.fetch i) { s with answers := s.answers ++ [s.provider], calls := s.calls.set i (.failed error) }
  | stored {i n since : Nat} {t : Thresholds} (hi : s.calls[i]? = some (.holding t n since)) :
      Stepped s (.store i)
        { s with cache := s.cache.keep t since, source := n, calls := s.calls.set i (.served t n) }
  | invalidated : Stepped s .invalidate { s with cache := s.cache.invalidate }
  | changed (provider : Answer) : Stepped s (.change provider) { s with provider }
  | passed (time : Nat) : Stepped s (.pass time) { s with clock := s.clock + time }

theorem stepped (s : Traffic) (e : Event) : Stepped s e (s.step e) := by
  cases e with
  | call =>
    rw [step, entering]
    split
    · next hlookup => exact .found hlookup
    · next hlookup => exact .missed hlookup
  | fetch i =>
    rw [step]
    split
    · next hi =>
      rw [answered]
      split
      · next hprovider => exact .fetched hi hprovider
      · next hprovider => exact .refused hi hprovider
    · exact .idle _
  | store i =>
    rw [step]
    split
    · next hi => exact .stored hi
    · exact .idle _
  | invalidate => exact .invalidated
  | change provider => exact .changed provider
  | pass time => exact .passed time

namespace Stepped

variable {s' : Traffic} {e : Event} {i n since : Nat} {t : Thresholds} (h : Stepped s e s')
include h

/-- Time passes, calls and answers come in, and nothing is taken back. -/
theorem grows : s.clock ≤ s'.clock ∧ s.calls.length ≤ s'.calls.length ∧ s.answers <+: s'.answers ∧
    s'.cache.lifetime = s.cache.lifetime := by
  cases h with
  | idle | invalidated | changed => simp [invalidate]
  | found | missed | passed => simp
  | fetched | refused => simp
  | stored => simp [keep]

/-- What a call holds it has held, or just been given. -/
theorem holding (hi : s'.calls[i]? = some (.holding t n since)) :
    s.calls[i]? = some (.holding t n since) ∨
      n = s.answers.length ∧ since = s.clock ∧ s'.answers = s.answers ++ [.ok t] := by
  cases h with
  | idle | invalidated | changed | passed => exact .inl hi
  | found | missed =>
    rcases getElem?_concat_eq_some hi with ⟨-, hnew⟩ | ⟨-, hold⟩
    · cases hnew
    · exact .inl hold
  | fetched _ hprovider =>
    rcases getElem?_set_eq_some hi with ⟨-, hnew⟩ | ⟨-, hold⟩
    · cases hnew
      exact .inr ⟨rfl, rfl, by rw [hprovider]⟩
    · exact .inl hold
  | refused | stored =>
    rcases getElem?_set_eq_some hi with ⟨-, hnew⟩ | ⟨-, hold⟩
    · cases hnew
    · exact .inl hold

/-- A call that has returned thresholds had done so before, or has just found them in the cache or stored them. -/
theorem served (hi : s'.calls[i]? = some (.served t n)) :
    s.calls[i]? = some (.served t n) ∨
      (e = .call ∧ i = s.calls.length ∧ s.cache.lookup s.clock = some t ∧ n = s.source) ∨
      ∃ since, s.calls[i]? = some (.holding t n since) := by
  cases h with
  | idle | invalidated | changed | passed => exact .inl hi
  | found hlookup =>
    rcases getElem?_concat_eq_some hi with ⟨hlast, hnew⟩ | ⟨-, hold⟩
    · cases hnew
      exact .inr (.inl ⟨rfl, hlast, hlookup, rfl⟩)
    · exact .inl hold
  | missed =>
    rcases getElem?_concat_eq_some hi with ⟨-, hnew⟩ | ⟨-, hold⟩
    · cases hnew
    · exact .inl hold
  | fetched | refused =>
    rcases getElem?_set_eq_some hi with ⟨-, hnew⟩ | ⟨-, hold⟩
    · cases hnew
    · exact .inl hold
  | stored hheld =>
    rcases getElem?_set_eq_some hi with ⟨rfl, hnew⟩ | ⟨-, hold⟩
    · cases hnew
      exact .inr (.inr ⟨_, hheld⟩)
    · exact .inl hold

/-- What is kept has been kept, or just been stored. -/
theorem kept (hentry : s'.cache.entry = some (t, since)) :
    s.cache.entry = some (t, since) ∧ s'.source = s.source ∨
      ∃ i, e = .store i ∧ s.calls[i]? = some (.holding t s'.source since) := by
  cases h with
  | idle | found | missed | fetched | refused | changed | passed => exact .inl ⟨hentry, rfl⟩
  | stored hheld =>
    cases hentry
    exact .inr ⟨_, rfl, hheld⟩
  | invalidated => cases hentry

end Stepped

/-- The numbers of the answers are right, and their times have come. -/
structure Sound (lifetime : Nat) (s : Traffic) : Prop where
  lifetime : s.cache.lifetime = lifetime
  held : ∀ (i : Nat) t n since, s.calls[i]? = some (Call.holding t n since) →
    s.answers[n]? = some (Except.ok t) ∧ since ≤ s.clock
  served : ∀ (i : Nat) t n, s.calls[i]? = some (Call.served t n) → s.answers[n]? = some (Except.ok t)
  kept : ∀ t since, s.cache.entry = some (t, since) → s.answers[s.source]? = some (Except.ok t) ∧ since ≤ s.clock

theorem Sound.lookup_eq_some_iff (hs : s.Sound lifetime) {t : Thresholds} :
    s.cache.lookup s.clock = some t ↔ ∃ since, s.cache.entry = some (t, since) ∧ s.clock < since + lifetime := by
  rw [ThresholdCache.lookup_eq_some_iff fun t since h => (hs.kept t since h).2, hs.lifetime]

theorem Sound.step (hs : s.Sound lifetime) (e : Event) : (s.step e).Sound lifetime := by
  have h : Stepped s e (s.step e) := s.stepped e
  obtain ⟨hclock, -, hanswers, hlifetime⟩ := h.grows
  have hanswer {t : Thresholds} {n : Nat} (hn : s.answers[n]? = some (Except.ok t)) :
      (s.step e).answers[n]? = some (Except.ok t) := by
    obtain ⟨hlt, -⟩ := List.getElem?_eq_some_iff.mp hn
    obtain ⟨new, hnew⟩ := hanswers
    rw [← hnew, List.getElem?_append_left hlt, hn]
  constructor
  · exact hlifetime.trans hs.lifetime
  · intro i t n since hi
    rcases h.holding hi with hold | ⟨rfl, rfl, hnew⟩
    · obtain ⟨hn, hpast⟩ := hs.held i t n since hold
      exact ⟨hanswer hn, Nat.le_trans hpast hclock⟩
    · rw [hnew]
      exact ⟨List.getElem?_concat_length, hclock⟩
  · intro i t n hi
    rcases h.served hi with hold | ⟨-, -, hlookup, rfl⟩ | ⟨since, hheld⟩
    · exact hanswer (hs.served i t n hold)
    · obtain ⟨since, hentry, -⟩ := hs.lookup_eq_some_iff.mp hlookup
      exact hanswer (hs.kept t since hentry).1
    · exact hanswer (hs.held i t n since hheld).1
  · intro t since hentry
    rcases h.kept hentry with ⟨hold, hsource⟩ | ⟨i, -, hheld⟩
    · obtain ⟨hn, hpast⟩ := hs.kept t since hold
      rw [hsource]
      exact ⟨hanswer hn, Nat.le_trans hpast hclock⟩
    · obtain ⟨hn, hpast⟩ := hs.held i t _ since hheld
      exact ⟨hanswer hn, Nat.le_trans hpast hclock⟩

theorem Sound.run (hs : s.Sound lifetime) (events : List Event) : (s.run events).Sound lifetime := by
  induction events generalizing s with
  | nil => exact hs
  | cons e events ih => exact ih (hs.step e)

theorem sound_after (lifetime : Nat) (provider : Answer) (events : List Event) :
    (after lifetime provider events).Sound lifetime := by
  have hstart : Sound lifetime { cache := { lifetime }, provider } := ⟨rfl, by simp, by simp, by simp⟩
  exact hstart.run events

/-- A call that held an answer has since stored it, and another call has found it while it was young. -/
def Resurfaced (lifetime : Nat) (s : Traffic) (later : List Event) (i : Nat) (t : Thresholds) (n : Nat) : Prop :=
  ∃ middle rest, ∃ j since : Nat, later = middle ++ .call :: rest ∧ i = (s.run middle).calls.length ∧
    Event.store j ∈ middle ∧ s.calls[j]? = some (Call.holding t n since) ∧ (s.run middle).clock < since + lifetime

theorem Resurfaced.concat {i n : Nat} {t : Thresholds} (h : Resurfaced lifetime s later i t n) (e : Event) :
    Resurfaced lifetime s (later ++ [e]) i t n := by
  obtain ⟨middle, rest, j, since, rfl, hi, hstored, hheld, hyoung⟩ := h
  exact ⟨middle, rest ++ [e], j, since, by simp, hi, hstored, hheld, hyoung⟩

/-- Where answers from before a state can be after some more events, if nothing is kept in that state. -/
structure Confined (lifetime : Nat) (s : Traffic) (later : List Event) : Prop where
  clock : s.clock ≤ (s.run later).clock
  calls : s.calls.length ≤ (s.run later).calls.length
  answers : s.answers.length ≤ (s.run later).answers.length
  held : ∀ (i : Nat) t n since, (s.run later).calls[i]? = some (Call.holding t n since) → n < s.answers.length →
    s.calls[i]? = some (Call.holding t n since)
  kept : ∀ t since, (s.run later).cache.entry = some (t, since) → (s.run later).source < s.answers.length →
    ∃ j : Nat, Event.store j ∈ later ∧ s.calls[j]? = some (Call.holding t (s.run later).source since)
  served : ∀ (i : Nat) t n, (s.run later).calls[i]? = some (Call.served t n) → s.calls.length ≤ i →
    n < s.answers.length → Resurfaced lifetime s later i t n

theorem Confined.step (h : Confined lifetime s later) (hs : (s.run later).Sound lifetime) (e : Event) :
    Confined lifetime s (later ++ [e]) := by
  have hstepped : Stepped (s.run later) e ((s.run later).step e) := (s.run later).stepped e
  obtain ⟨hclock, hcalls, hanswers, -⟩ := hstepped.grows
  constructor <;> rw [run_concat]
  · exact Nat.le_trans h.clock hclock
  · exact Nat.le_trans h.calls hcalls
  · exact Nat.le_trans h.answers hanswers.length_le
  · intro i t n since hi hn
    rcases hstepped.holding hi with hold | ⟨hnew, -, -⟩
    · exact h.held i t n since hold hn
    · have := h.answers
      omega
  · intro t since hentry hn
    rcases hstepped.kept hentry with ⟨hold, hsource⟩ | ⟨j, rfl, hheld⟩
    · rw [hsource] at hn ⊢
      obtain ⟨j, hstored, hheld⟩ := h.kept t since hold hn
      exact ⟨j, List.mem_append_left _ hstored, hheld⟩
    · exact ⟨j, by simp, h.held j t _ since hheld hn⟩
  · intro i t n hi hnew hn
    rcases hstepped.served hi with hold | ⟨rfl, rfl, hlookup, rfl⟩ | ⟨since, hheld⟩
    · exact (h.served i t n hold hnew hn).concat e
    · obtain ⟨since, hentry, hyoung⟩ := hs.lookup_eq_some_iff.mp hlookup
      obtain ⟨j, hstored, hheld⟩ := h.kept t since hentry hn
      exact ⟨later, [], j, since, rfl, rfl, hstored, hheld, hyoung⟩
    · -- a call that begins later holds nothing from before
      have hheld' := h.held i t n since hheld hn
      obtain ⟨hlt, -⟩ := List.getElem?_eq_some_iff.mp hheld'
      omega

theorem confined (hs : s.Sound lifetime) (hempty : s.cache.entry = none) (later : List Event) :
    Confined lifetime s later := by
  induction later using List.reverseRecOn with
  | nil =>
    refine ⟨Nat.le_refl _, Nat.le_refl _, Nat.le_refl _, fun _ _ _ _ hi _ => hi, fun t since hentry => ?_,
      fun i t n hi hnew => ?_⟩
    · rw [run, List.foldl_nil, hempty] at hentry
      cases hentry
    · obtain ⟨hlt, -⟩ := List.getElem?_eq_some_iff.mp hi
      rw [run, List.foldl_nil] at hlt
      omega
  | append_singleton later e ih => exact ih.step (hs.run later) e

/-- A young answer that is held is stored, whatever has been invalidated, and the next call finds it. -/
theorem served_of_holding (hs : s.Sound lifetime) {j n since : Nat} {t : Thresholds}
    (hheld : s.calls[j]? = some (.holding t n since)) (hyoung : s.clock < since + lifetime) :
    (s.run [.store j, .call]).calls[s.calls.length]? = some (.served t n) := by
  obtain ⟨-, hpast⟩ := hs.held j t n since hheld
  have hstored : s.step (.store j) =
      { s with cache := s.cache.keep t since, source := n, calls := s.calls.set j (.served t n) } := by
    rw [step, hheld]
  have hlookup : (s.cache.keep t since).lookup s.clock = some t := by
    have hage : s.clock - since < s.cache.lifetime := by
      rw [hs.lifetime]
      omega
    exact if_pos hage
  show ((s.step (.store j)).step .call).calls[s.calls.length]? = _
  rw [hstored, step, entering, hlookup]
  show (s.calls.set j (.served t n) ++ [.served t n])[s.calls.length]? = _
  have hlength : (s.calls.set j (.served t n)).length = s.calls.length := List.length_set
  rw [← hlength]
  exact List.getElem?_concat_length

/-- A call that begins after an invalidation returns an older answer of the provider only if some call held that
answer when the cache was invalidated, and has stored it since and before the lifetime of the answer was over. So
an invalidation stands, whatever happens afterwards, exactly if at its time no answer that is still young is held
by a call. -/
theorem invalidate_undone_iff (lifetime : Nat) (provider : Answer) (before : List Event) :
    let s := after lifetime provider before
    let calls (later : List Event) := (after lifetime provider (before ++ .invalidate :: later)).calls
    (∀ later (i : Nat) t n, (calls later)[i]? = some (.served t n) → s.calls.length ≤ i → n < s.answers.length →
      s.answers[n]? = some (.ok t) ∧ Resurfaced lifetime (s.step .invalidate) later i t n) ∧
    ((∀ later (i : Nat) t n, (calls later)[i]? = some (.served t n) → s.calls.length ≤ i → s.answers.length ≤ n) ↔
      ∀ t n since, .holding t n since ∈ s.calls → since + lifetime ≤ s.clock) := by
  intro s calls
  have hcalls (later : List Event) : calls later = ((s.step .invalidate).run later).calls :=
    congrArg Traffic.calls (run_append _ before (.invalidate :: later))
  have hs : (s.step .invalidate).Sound lifetime := (sound_after lifetime provider before).step .invalidate
  have hresurfaced (later : List Event) (i : Nat) (t : Thresholds) (n : Nat)
      (hi : (calls later)[i]? = some (.served t n)) (hnew : s.calls.length ≤ i) (hold : n < s.answers.length) :
      Resurfaced lifetime (s.step .invalidate) later i t n := by
    rw [hcalls] at hi
    exact (confined hs rfl later).served i t n hi hnew hold
  refine ⟨fun later i t n hi hnew hold => ?_, fun hstands t n since hheld => ?_, fun hnone later i t n hi hnew => ?_⟩
  · obtain ⟨-, -, j, since, -, -, -, hheld, -⟩ := hresurfaced later i t n hi hnew hold
    exact ⟨(hs.held j t n since hheld).1, hresurfaced later i t n hi hnew hold⟩
  · by_contra hyoung
    obtain ⟨j, hj⟩ := List.getElem?_of_mem hheld
    have hserved : (calls [.store j, .call])[s.calls.length]? = some (.served t n) := by
      rw [hcalls]
      exact served_of_holding hs hj (Nat.not_le.mp hyoung)
    have hfresh : s.answers.length ≤ n := hstands _ _ t n hserved (Nat.le_refl _)
    obtain ⟨hold, -⟩ := List.getElem?_eq_some_iff.mp (hs.held j t n since hj).1
    exact absurd hold (Nat.not_lt.mpr hfresh)
  · by_contra hold
    obtain ⟨middle, -, j, since, -, -, -, hheld, hyoung⟩ :=
      hresurfaced later i t n hi hnew (Nat.not_le.mp hold)
    have hexpired : since + lifetime ≤ s.clock := hnone t n since (List.mem_of_getElem? hheld)
    have hclock : s.clock ≤ ((s.step .invalidate).run middle).clock := (confined hs rfl middle).clock
    omega

/-- A call has been answered, but has not stored the answer yet, when the thresholds are changed. -/
def answerUnderWay : List Event :=
  [.call, .fetch 0, .change (.ok ⟨10, 20, 30⟩)]

/-- If the cache is invalidated now, the next call is served the thresholds from before: the call under way has
stored them in between. Had it stored them already, they would be gone for good. -/
theorem invalidate_undone_iff_answerUnderWay :
    let s := after 10 (.ok Provision.standard) answerUnderWay
    let s' := after 10 (.ok Provision.standard) (answerUnderWay ++ .invalidate :: [.store 0, .call])
    (s'.calls[1]? = some (.served Provision.standard 0) ∧ s'.provider = .ok ⟨10, 20, 30⟩ ∧ s'.answers = s.answers ∧
      Resurfaced 10 (s.step .invalidate) [.store 0, .call] 1 Provision.standard 0) ∧
    ∀ later (i : Nat) t n,
      (after 10 (.ok Provision.standard) (answerUnderWay ++ [.store 0] ++ .invalidate :: later)).calls[i]? =
        some (.served t n) → 1 ≤ i → 1 ≤ n := by
  intro s s'
  have hserved : s'.calls[1]? = some (.served Provision.standard 0) := by decide
  obtain ⟨hresurfaced, -⟩ := invalidate_undone_iff 10 (.ok Provision.standard) answerUnderWay
  obtain ⟨-, hstands⟩ := invalidate_undone_iff 10 (.ok Provision.standard) (answerUnderWay ++ [.store 0])
  refine ⟨⟨hserved, rfl, rfl, (hresurfaced _ 1 _ 0 hserved (by decide) (by decide)).2⟩, ?_⟩
  refine hstands.mpr fun t n since hheld => ?_
  have hcalls : (after 10 (.ok Provision.standard) (answerUnderWay ++ [.store 0])).calls =
      [.served Provision.standard 0] := rfl
  rw [hcalls] at hheld
  cases List.mem_singleton.mp hheld

/-- So it is not the case that a call which begins after an invalidation returns only what the provider has answered
after it. -/
theorem invalidate_undone :
    ¬∀ lifetime provider before later (i : Nat) t n,
      (after lifetime provider (before ++ .invalidate :: later)).calls[i]? = some (.served t n) →
        (after lifetime provider before).calls.length ≤ i → (after lifetime provider before).answers.length ≤ n := by
  intro hstands
  have hserved : (after 10 (.ok Provision.standard) (answerUnderWay ++ .invalidate :: [.store 0, .call])).calls[1]? =
      some (.served Provision.standard 0) := by decide
  have hfresh := hstands 10 (.ok Provision.standard) answerUnderWay [.store 0, .call] 1 _ 0 hserved (by decide)
  exact absurd hfresh (by decide)

end Traffic

end Waterway.ThresholdCache
