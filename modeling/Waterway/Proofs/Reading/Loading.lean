import Mathlib.Data.List.Induction
import Mathlib.Data.List.Nodup
import Waterway.Proofs.Reading
import Waterway.Reading.Shelf

/-!
# Each feed starts on its own

A site starts from what the store answers, and what it takes of one feed has nothing to do with the others. The store
may answer as it likes, and may answer differently each time it is asked; a record of what it is asked and what it
answers is all that the state of the site depends on, apart from the thresholds.

## Main definitions

- `Exchange` — a question to the store with its answer
- `ReadingStore.recorded` — a store that keeps a record of the exchanges
- `ReadingStore.Gives`, `ReadingStore.Answers` — an exchange that a store can have, and a store that answers a question
  in one way
- `Loading` — all that the start-up of a site goes by
- `Loading.outcome`, `Loading.exchanges`, `Loading.answer` — what comes of it, what the store was asked, and what the
  provider of thresholds answered

## Main statements

- `run_loadEvidence_recorded` — the feeds are asked one after the other, each at most once
- `latest_foldl_taken` — a site holds of a feed what is admitted of its one exchange
- `Loading.about_of_answers` — what a store that answers a question in one way is asked and answers about a feed
- `Loading.feeds_decided` — what a site starts from
-/

namespace Waterway

variable {σ : Type}

/-- A question to a store, with its answer. -/
structure Exchange where
  inquiry : Inquiry
  answer : StoreAnswer (Observation Float)

/-- The question about a feed, if its device is known. -/
def Devices.inquiry? (d : Devices) (source : Source) : Option Inquiry :=
  (d.key source).map (⟨source, ·⟩)

theorem Devices.inquiry?_eq_some {d : Devices} {source : Source} {q : Inquiry} :
    d.inquiry? source = some q ↔ q.source = source ∧ d.key source = some q.key := by
  rw [inquiry?, Option.map_eq_some_iff]
  constructor
  · rintro ⟨key, hkey, rfl⟩
    exact ⟨rfl, hkey⟩
  · rintro ⟨rfl, hkey⟩
    exact ⟨q.key, hkey, rfl⟩

/-- The question about a feed is the only one about it. -/
theorem Devices.filter_inquiries (d : Devices) (source : Source) :
    (Source.all.filterMap d.inquiry?).filter (·.source = source) = (d.inquiry? source).toList := by
  have hown (other : Source) : (d.inquiry? other).filter (·.source = source) =
      if other = source then d.inquiry? source else none := by
    rw [inquiry?]
    split_ifs with h
    · subst h
      cases hkey : d.key other <;> simp [inquiry?, hkey]
    · cases d.key other <;> simp [h]
  rw [List.filter_filterMap]
  simp only [hown]
  cases d.inquiry? source <;> cases source <;> simp [Source.all]

/-- No two questions are about the same feed. -/
theorem Devices.nodup_sources (d : Devices) : ((Source.all.filterMap d.inquiry?).map (·.source)).Nodup := by
  have hall : Source.all.Nodup := by decide
  rw [List.map_filterMap]
  refine hall.filterMap fun source source' feed h h' => ?_
  obtain ⟨q, hq, rfl⟩ := Option.map_eq_some_iff.mp h
  obtain ⟨q', hq', hsame⟩ := Option.map_eq_some_iff.mp h'
  rw [← (inquiry?_eq_some.mp hq).1, ← (inquiry?_eq_some.mp hq').1, hsame]

namespace ReadingStore

section

variable {m : Type → Type} [Monad m] {store : ReadingStore m} {devices : Devices} {source : Source}

theorem latest_of_none (h : devices.key source = none) : store.latest devices source = pure (.ok none) := by
  rw [latest, h]

theorem latest_of_some {key : RowId} (h : devices.key source = some key) :
    store.latest devices source = store.ask source key := by
  rw [latest, h]

end

/-- Asks a question and puts it on record with its answer. -/
def recording {α : Type} (source : Source) (wrap : α → Observation Float)
    (ask : RowId → StateM σ (StoreAnswer α)) (key : RowId) : StateT (List Exchange) (StateM σ) (StoreAnswer α) := do
  let answer ← ask key
  modify (· ++ [⟨⟨source, key⟩, answer.map (·.map wrap)⟩])
  return answer

/-- The same store, with a record of the exchanges. -/
def recorded (store : ReadingStore (StateM σ)) : ReadingStore (StateT (List Exchange) (StateM σ)) where
  waterLevel := recording .waterLevel .waterLevel store.waterLevel
  blockage := recording .blockage .blockage store.blockage
  weather := recording .weather .weather store.weather

theorem run_ask_recorded (store : ReadingStore (StateM σ)) (source : Source) (key : RowId) (log : List Exchange)
    (s : σ) :
    ((store.recorded.ask source key).run log).run s =
      ((((store.ask source key).run s).1, log ++ [⟨⟨source, key⟩, ((store.ask source key).run s).1⟩]),
        ((store.ask source key).run s).2) := by
  cases source <;> rfl

/-- An exchange that the store can have: it is asked the question in some surroundings, and that is its answer. -/
def Gives (store : ReadingStore (StateM σ)) (x : Exchange) : Prop :=
  ∃ s, ((store.ask x.inquiry.source x.inquiry.key).run s).1 = x.answer

/-- A store that answers a question in one way, whatever has been asked before. -/
def Answers (store : ReadingStore (StateM σ)) (answers : Inquiry → StoreAnswer (Observation Float)) : Prop :=
  ∀ source key s, ((store.ask source key).run s).1 = answers ⟨source, key⟩

theorem Answers.answer_eq {store : ReadingStore (StateM σ)} {answers : Inquiry → StoreAnswer (Observation Float)}
    (h : store.Answers answers) {x : Exchange} (hx : store.Gives x) : x.answer = answers x.inquiry := by
  obtain ⟨s, hs⟩ := hx
  rw [← hs]
  exact h x.inquiry.source x.inquiry.key s

/-- A store answers with readings of the feed it is asked for. -/
theorem Gives.source_eq {store : ReadingStore (StateM σ)} {x : Exchange} (hx : store.Gives x) {o : Observation Float}
    (ho : x.answer = .ok (some o)) : o.source = x.inquiry.source := by
  rcases x with ⟨⟨source, key⟩, answer⟩
  obtain ⟨s, hs⟩ := hx
  rw [ho] at hs
  cases source <;> obtain ⟨_, rfl⟩ := StoreAnswer.exists_of_map hs <;> rfl

end ReadingStore

/-! ## One feed after the other -/

/-- The evidence with what is admitted of an answer about a feed. -/
def Windows.taken (windows : Windows) (now : Instant) (e : Evidence Float) (source : Source)
    (answer : StoreAnswer (Observation Float)) : Evidence Float :=
  ((windows.admitted source now answer).map e.put).getD e

theorem loadEvidence_cons {m : Type → Type} [Monad m] (store : ReadingStore m) (devices : Devices)
    (windows : Windows) (now : Instant) (source : Source) (rest : List Source) (e : Evidence Float) :
    loadEvidence store devices windows now (source :: rest) e =
      store.latest devices source >>= fun answer =>
        loadEvidence store devices windows now rest (windows.taken now e source answer) := by
  rw [loadEvidence]
  refine congrArg _ (funext fun answer => ?_)
  rw [Windows.taken]
  cases windows.admitted source now answer <;> rfl

/-- The feeds are asked one after the other, each at most once, and only those whose device is known. The record
changes nothing, and the evidence is made of what is on it. -/
theorem run_loadEvidence_recorded (store : ReadingStore (StateM σ)) (devices : Devices) (windows : Windows)
    (now : Instant) (sources : List Source) (e : Evidence Float) (log : List Exchange) (s : σ) :
    ∃ exchanges : List Exchange,
      ((loadEvidence store.recorded devices windows now sources e).run log).run s =
        ((((loadEvidence store devices windows now sources e).run s).1, log ++ exchanges),
          ((loadEvidence store devices windows now sources e).run s).2) ∧
      exchanges.map (·.inquiry) = sources.filterMap devices.inquiry? ∧
      (∀ x ∈ exchanges, store.Gives x) ∧
      ((loadEvidence store devices windows now sources e).run s).1 =
        exchanges.foldl (fun e x => windows.taken now e x.inquiry.source x.answer) e := by
  induction sources generalizing e log s with
  | nil => exact ⟨[], by rw [List.append_nil]; rfl, rfl, fun x hx => absurd hx List.not_mem_nil, rfl⟩
  | cons source rest ih =>
    rw [loadEvidence_cons, loadEvidence_cons]
    cases hkey : devices.key source with
    | none =>
      have hinquiry : devices.inquiry? source = none := Option.map_eq_none_iff.mpr hkey
      rw [ReadingStore.latest_of_none hkey, ReadingStore.latest_of_none hkey, List.filterMap_cons_none hinquiry]
      exact ih e log s
    | some key =>
      have hinquiry : devices.inquiry? source = some ⟨source, key⟩ := Devices.inquiry?_eq_some.mpr ⟨rfl, hkey⟩
      rw [ReadingStore.latest_of_some hkey, ReadingStore.latest_of_some hkey, List.filterMap_cons_some hinquiry]
      let answer := ((store.ask source key).run s).1
      obtain ⟨exchanges, hrun, hinquiries, hgives, hevidence⟩ :=
        ih (windows.taken now e source answer) (log ++ [⟨⟨source, key⟩, answer⟩]) ((store.ask source key).run s).2
      rw [List.append_assoc, List.singleton_append] at hrun
      refine ⟨⟨⟨source, key⟩, answer⟩ :: exchanges, ?_, ?_, ?_, ?_⟩
      · rw [StateT.run_bind, StateT.run_bind, StateT.run_bind, ReadingStore.run_ask_recorded]
        exact hrun
      · rw [List.map_cons, hinquiries]
      · rintro x (_ | ⟨_, hx⟩)
        · exact ⟨s, rfl⟩
        · exact hgives x hx
      · exact hevidence

/-! ## What is held of a feed -/

theorem Window.admits_iff {w : Window} {observedAt now : Instant} :
    w.admits observedAt now ↔ now.since observedAt ≤ w.grace := by
  rw [admits, decide_eq_true_iff, classify]
  split_ifs with hfresh hstale
  · exact iff_of_true rfl hfresh
  · exact iff_of_false not_false hfresh
  · exact iff_of_false not_false hfresh

/-- A reading is admitted exactly if the store has answered with it and it is within the grace period. -/
theorem Windows.admitted_eq_some_iff {windows : Windows} {source : Source} {now : Instant}
    {answer : StoreAnswer (Observation Float)} {o : Observation Float} :
    windows.admitted source now answer = some o ↔
      answer = .ok (some o) ∧ now.since o.observedAt ≤ (windows.of source).grace := by
  constructor
  · intro h
    obtain rfl := admitted_eq_some h
    rw [admitted, Option.ite_none_right_eq_some] at h
    exact ⟨rfl, Window.admits_iff.mp h.1⟩
  · rintro ⟨rfl, hage⟩
    exact if_pos (Window.admits_iff.mpr hage)

/-- An exchange changes what is held of its own feed. -/
theorem latest_taken {store : ReadingStore (StateM σ)} {x : Exchange} (hx : store.Gives x) (windows : Windows)
    (now : Instant) (e : Evidence Float) (source : Source) :
    (windows.taken now e x.inquiry.source x.answer).latest source =
      if x.inquiry.source = source then (windows.admitted source now x.answer).or (e.latest source)
      else e.latest source := by
  rw [Windows.taken]
  cases hadmitted : windows.admitted x.inquiry.source now x.answer with
  | none =>
    split_ifs with hsource
    · rw [← hsource, hadmitted]
      rfl
    · rfl
  | some o =>
    have hown : o.source = x.inquiry.source := hx.source_eq (Windows.admitted_eq_some hadmitted)
    rw [Option.map_some, Option.getD_some, Evidence.latest_put, hown]
    split_ifs with hsource
    · rw [← hsource, hadmitted]
      rfl
    · rfl

/-- If there is one exchange at most about each feed, then what is held of a feed is what is admitted of that
exchange. -/
theorem latest_foldl_taken {store : ReadingStore (StateM σ)} {exchanges : List Exchange}
    (hgives : ∀ x ∈ exchanges, store.Gives x) (hnodup : (exchanges.map (·.inquiry.source)).Nodup) (windows : Windows)
    (now : Instant) (source : Source) :
    ∀ o, (exchanges.foldl (fun e x => windows.taken now e x.inquiry.source x.answer) {}).latest source = some o ↔
      ∃ x ∈ exchanges, x.inquiry.source = source ∧ windows.admitted source now x.answer = some o := by
  induction exchanges using List.reverseRecOn with
  | nil => cases source <;> simp [Evidence.latest]
  | append_singleton exchanges x ih =>
    rw [List.map_append, List.nodup_append] at hnodup
    obtain ⟨hearlier, -, hdistinct⟩ := hnodup
    have hx : store.Gives x := hgives x (List.mem_append_right _ List.mem_cons_self)
    have hlatest := ih (fun y hy => hgives y (List.mem_append_left _ hy)) hearlier
    intro o
    rw [List.foldl_append, List.foldl_cons, List.foldl_nil, latest_taken hx]
    split_ifs with hsource
    · -- no earlier exchange is about this feed
      have hother : ∀ y ∈ exchanges, y.inquiry.source ≠ source := fun y hy =>
        hsource ▸ hdistinct _ (List.mem_map_of_mem hy) _ (List.mem_singleton_self _)
      have hnone : (exchanges.foldl (fun e x => windows.taken now e x.inquiry.source x.answer) {}).latest source =
          none := by
        rw [Option.eq_none_iff_forall_ne_some]
        intro o' ho'
        obtain ⟨y, hy, hysource, -⟩ := (hlatest o').mp ho'
        exact hother y hy hysource
      rw [hnone, Option.or_none]
      constructor
      · intro hadmitted
        exact ⟨x, List.mem_append_right _ List.mem_cons_self, hsource, hadmitted⟩
      · rintro ⟨y, hy, hysource, hadmitted⟩
        rcases List.mem_append.mp hy with hy | hy
        · exact absurd hysource (hother y hy)
        · rwa [← List.mem_singleton.mp hy]
    · rw [hlatest]
      simp [hsource]

/-! ## The site -/

/-- All that the start-up of a site goes by. -/
structure Loading (σ : Type) where
  store : ReadingStore (StateM σ)
  /-- The provider of thresholds. -/
  thresholds : StateM σ (Except EngineError Thresholds)
  devices : Devices
  windows : Windows
  now : Instant
  /-- What the answers of the store and of the provider depend on. -/
  surroundings : σ

namespace Loading

/-- The site, or the error. -/
def outcome (l : Loading σ) : Except EngineError (Site Float) :=
  ((loadSite l.store l.thresholds l.devices l.windows l.now).run l.surroundings).1

/-- What the store is asked in the course of it, with its answers. -/
def exchanges (l : Loading σ) : List Exchange :=
  (((loadSite l.store.recorded (StateT.lift l.thresholds) l.devices l.windows l.now).run []).run l.surroundings).1.2

/-- The evidence, and the surroundings after the store has been asked for it. -/
def heard (l : Loading σ) : Evidence Float × σ :=
  (loadEvidence l.store l.devices l.windows l.now Source.all {}).run l.surroundings

/-- The answer of the provider of thresholds, who is asked after the store. -/
def answer (l : Loading σ) : Except EngineError Thresholds :=
  (l.thresholds.run l.heard.2).1

/-- The exchanges about a feed. -/
def about (l : Loading σ) (source : Source) : List Exchange :=
  l.exchanges.filter (·.inquiry.source = source)

variable (l : Loading σ)

theorem outcome_eq : l.outcome = l.answer.map fun t => Site.recompute { evidence := l.heard.1 } t := by
  rw [outcome, answer, heard, loadSite, StateT.run_bind]
  rcases (loadEvidence l.store l.devices l.windows l.now Source.all {}).run l.surroundings with ⟨evidence, s⟩
  change ((l.thresholds >>= _).run s).1 = (l.thresholds.run s).1.map _
  rw [StateT.run_bind]
  rcases l.thresholds.run s with ⟨answer, s'⟩
  cases answer <;> rfl

theorem exchanges_spec :
    l.exchanges.map (·.inquiry) = Source.all.filterMap l.devices.inquiry? ∧ (∀ x ∈ l.exchanges, l.store.Gives x) ∧
    l.heard.1 = l.exchanges.foldl (fun e x => l.windows.taken l.now e x.inquiry.source x.answer) {} := by
  obtain ⟨exchanges, hrun, hinquiries, hgives, hevidence⟩ :=
    run_loadEvidence_recorded l.store l.devices l.windows l.now Source.all {} [] l.surroundings
  have hexchanges : l.exchanges = exchanges := by
    rw [Loading.exchanges, loadSite, StateT.run_bind, StateT.run_bind, hrun]
    rcases (loadEvidence l.store l.devices l.windows l.now Source.all {}).run l.surroundings with ⟨evidence, s⟩
    change (((StateT.lift l.thresholds >>= _).run exchanges).run s).1.2 = exchanges
    rw [StateT.run_bind, StateT.run_lift, StateT.run_bind, StateT.run_bind]
    rcases l.thresholds.run s with ⟨answer, s'⟩
    cases answer <;> rfl
  rw [hexchanges]
  exact ⟨hinquiries, hgives, hevidence⟩

theorem nodup_sources : (l.exchanges.map (·.inquiry.source)).Nodup := by
  have hnodup := l.devices.nodup_sources
  rwa [← l.exchanges_spec.1, List.map_map] at hnodup

variable {l}

theorem key_of_mem {x : Exchange} (hx : x ∈ l.exchanges) : l.devices.key x.inquiry.source = some x.inquiry.key := by
  have hinquiry : x.inquiry ∈ Source.all.filterMap l.devices.inquiry? := by
    rw [← l.exchanges_spec.1]
    exact List.mem_map_of_mem hx
  obtain ⟨source, -, hsource⟩ := List.mem_filterMap.mp hinquiry
  obtain ⟨rfl, hkey⟩ := Devices.inquiry?_eq_some.mp hsource
  exact hkey

theorem mem_about {source : Source} {x : Exchange} :
    x ∈ l.about source ↔ x ∈ l.exchanges ∧ x.inquiry.source = source := by
  rw [about, List.mem_filter, decide_eq_true_iff]

theorem evidence_of_outcome {site : Site Float} (h : l.outcome = .ok site) : site.evidence = l.heard.1 := by
  rw [outcome_eq] at h
  cases hanswer : l.answer with
  | error e =>
    rw [hanswer] at h
    cases h
  | ok t =>
    rw [hanswer] at h
    rw [← Except.ok.inj h, Site.evidence_recompute]

/-- If the store answers a question in one way, then the device of a feed decides what comes of asking about it. -/
theorem about_of_answers {answers : Inquiry → StoreAnswer (Observation Float)} (h : l.store.Answers answers)
    (source : Source) : l.about source = (l.devices.inquiry? source).toList.map fun q => ⟨q, answers q⟩ := by
  obtain ⟨hinquiries, hgives, -⟩ := l.exchanges_spec
  have hexchanges : l.exchanges = (Source.all.filterMap l.devices.inquiry?).map fun q => ⟨q, answers q⟩ := by
    rw [← hinquiries, List.map_map]
    refine (List.map_id' _).symm.trans (List.map_congr_left fun x hx => ?_)
    exact congrArg (Exchange.mk x.inquiry) (h.answer_eq (hgives x hx))
  rw [about, hexchanges, List.filter_map, ← l.devices.filter_inquiries]
  rfl

/-- A site holds of a feed what the store has answered about it, as long as that is within the grace period. -/
theorem latest_eq_some_iff {site : Site Float} (h : l.outcome = .ok site) {source : Source} {o : Observation Float} :
    site.evidence.latest source = some o ↔ ∃ x ∈ l.about source, x.answer = .ok (some o) ∧
      l.now.since o.observedAt ≤ (l.windows.of source).grace := by
  obtain ⟨-, hgives, hevidence⟩ := l.exchanges_spec
  rw [evidence_of_outcome h, hevidence, latest_foldl_taken hgives l.nodup_sources]
  constructor
  · rintro ⟨x, hx, hsource, hadmitted⟩
    exact ⟨x, mem_about.mpr ⟨hx, hsource⟩, Windows.admitted_eq_some_iff.mp hadmitted⟩
  · rintro ⟨x, hx, hadmitted⟩
    obtain ⟨hmem, hsource⟩ := mem_about.mp hx
    exact ⟨x, hmem, hsource, Windows.admitted_eq_some_iff.mpr hadmitted⟩

/-- What the store is asked and answers about a feed, the window of the feed and the time decide what a site holds of
it. -/
theorem latest_congr {σ' : Type} {l' : Loading σ'} {site site' : Site Float} (h : l.outcome = .ok site)
    (h' : l'.outcome = .ok site') {source : Source} (hnow : l'.now = l.now)
    (hwindow : l'.windows.of source = l.windows.of source) (habout : l'.about source = l.about source) :
    site'.evidence.latest source = site.evidence.latest source := by
  apply Option.ext
  intro o
  rw [latest_eq_some_iff h, latest_eq_some_iff h', hnow, hwindow, habout]

/-- The store is asked about each feed whose device is known, once and in order. A site fails to start exactly if the
thresholds cannot be had. If they can, it holds of each feed the reading that the store has answered with, if that is
within the grace period of the feed, and nothing otherwise; it is judged on that by the thresholds, and has an analysis
exactly if there is something of every feed. What it holds of a feed stays the same whatever is different about the
others, as long as the store is asked and answers the same about this one; for a store that answers a question in one
way, this is up to the device of the feed alone. -/
theorem feeds_decided (l : Loading σ) :
    l.exchanges.map (·.inquiry) = Source.all.filterMap l.devices.inquiry? ∧
    (l.exchanges.map (·.inquiry.source)).Nodup ∧
    (∀ e, l.outcome = .error e ↔ l.answer = .error e) ∧
    (∀ answers, l.store.Answers answers → ∀ source,
      l.about source = (l.devices.inquiry? source).toList.map fun q => ⟨q, answers q⟩) ∧
    ∀ t, l.answer = .ok t → ∃ site, l.outcome = .ok site ∧
      (∀ source o, site.evidence.latest source = some o ↔
        ∃ key, l.devices.key source = some key ∧ ⟨⟨source, key⟩, .ok (some o)⟩ ∈ l.exchanges ∧
          l.now.since o.observedAt ≤ (l.windows.of source).grace) ∧
      site.judgement = judge site.evidence t ∧
      (site.analysis.isSome ↔ ∀ source, (site.evidence.latest source).isSome) ∧
      ∀ {σ' : Type} (l' : Loading σ') (site' : Site Float) (source : Source), l'.outcome = .ok site' →
        l'.now = l.now → l'.windows.of source = l.windows.of source → l'.about source = l.about source →
        site'.evidence.latest source = site.evidence.latest source := by
  refine ⟨l.exchanges_spec.1, l.nodup_sources, fun e => ?_, fun answers h => about_of_answers h, fun t hanswer => ?_⟩
  · rw [outcome_eq]
    cases l.answer <;> simp [Except.map]
  · have houtcome : l.outcome = .ok (Site.recompute { evidence := l.heard.1 } t) := by
      rw [outcome_eq, hanswer]
      rfl
    refine ⟨_, houtcome, fun source o => ?_, rfl, ?_, ?_⟩
    · rw [latest_eq_some_iff houtcome]
      constructor
      · rintro ⟨⟨⟨_, key⟩, _⟩, hx, rfl, hage⟩
        obtain ⟨hmem, rfl⟩ := mem_about.mp hx
        exact ⟨key, key_of_mem hmem, hmem, hage⟩
      · rintro ⟨key, -, hmem, hage⟩
        exact ⟨_, mem_about.mpr ⟨hmem, rfl⟩, rfl, hage⟩
    · rw [Site.evidence_recompute, ← Evidence.isComplete_iff, ← Evidence.isSome_analysis?]
      exact iff_of_eq (congrArg (Option.isSome · = true) Option.or_none)
    · intro σ' l' site' source houtcome' hnow hwindow habout
      exact latest_congr houtcome houtcome' hnow hwindow habout

/-- A store that fails from the second question on. -/
def failing : ReadingStore (StateM Nat) where
  waterLevel _ := answering (some ⟨120, 0, 48, .stable, .year2000⟩)
  blockage _ := answering (some ⟨.clear, .year2000⟩)
  weather _ := answering none
where
  answering {α : Type} (found : Option α) : StateM Nat (StoreAnswer α) := fun asked =>
    (if asked = 0 then .ok found else .error (.collaborator "connection lost"), asked + 1)

/-- The start-up of a weir with both devices, from a store that has not been asked before. -/
def weir : Loading Nat where
  store := failing
  thresholds := pure (.ok ⟨45, 75, 76⟩)
  devices := ⟨7, "Weir", some 1, some 2⟩
  windows := {}
  now := .year2000
  surroundings := 0

/-- The water level is known, the other feeds are not, and the site starts all the same. -/
theorem feeds_decided_weir :
    weir.exchanges.map (·.inquiry) = [⟨.waterLevel, 1⟩, ⟨.blockage, 2⟩, ⟨.weather, 7⟩] ∧
    ∃ site, weir.outcome = .ok site ∧
      site.evidence.latest .waterLevel = some (.waterLevel ⟨120, 0, 48, .stable, .year2000⟩) ∧
      site.evidence.latest .blockage = none ∧ site.judgement.score = 10 ∧ site.analysis.isSome = false := by
  obtain ⟨hinquiries, -, -, -, hstarts⟩ := feeds_decided weir
  obtain ⟨site, hsite, hheld, -, hanalysis, -⟩ := hstarts ⟨45, 75, 76⟩ rfl
  have hexchanges : weir.exchanges =
      [⟨⟨.waterLevel, 1⟩, .ok (some (.waterLevel ⟨120, 0, 48, .stable, .year2000⟩))⟩,
        ⟨⟨.blockage, 2⟩, .error (.collaborator "connection lost")⟩,
        ⟨⟨.weather, 7⟩, .error (.collaborator "connection lost")⟩] := rfl
  have hblockage : site.evidence.latest .blockage = none := by
    rw [Option.eq_none_iff_forall_ne_some]
    intro o ho
    obtain ⟨key, -, hmem, -⟩ := (hheld .blockage o).mp ho
    simp [hexchanges] at hmem
  refine ⟨hinquiries, site, hsite, ?_, hblockage, ?_, ?_⟩
  · refine (hheld .waterLevel _).mpr ⟨1, rfl, ?_, by decide⟩
    rw [hexchanges]
    exact List.mem_cons_self
  · obtain rfl := Except.ok.inj hsite
    decide
  · rw [Bool.eq_false_iff, Ne, hanalysis]
    intro hall
    have hsome := hall .blockage
    rw [hblockage] at hsome
    cases hsome

end Loading

end Waterway
