import Waterway.Proofs.Registry.FailedJudgement
import Waterway.Proofs.Relay.Order

/-!
# Reports and analyses on their way to subscribers

Reports for one location come in while its worker judges and subscribers come and go. Each report is announced first and
handed in when the announcement is over. The worker takes one report at a time, and announces the analysis, if there is
one, before it takes the next.

## Main definitions

- `Relay` — the engine, the board, the reports, and the analyses that have been announced
- `Relay.Event`, `Relay.Stepped` — what can happen, and the ways in which it can go
- `Relay.Sound` — what holds after all courses of events

## Main statements

- `Relay.stepped` — there are no other ways
- `Relay.Sound.mem_causes_of_handled` — what is announced after the worker has taken a report takes it into account
- `Relay.sound_after` — whatever happens, announcements of analyses follow those of the reports they take into account
- `Relay.cause_before_effect` — so it is in the queue of each subscriber

## Design notes

Any number of reports may be under way at once, and all of them wait for subscribers as long as they like. A report is
handed in by `Engine.tryEnqueue`, again and again while the queue is full, and the worker acts by `Engine.work`; between
the judgement and the announcement of the analysis anything may happen. Other broadcasts, to this location or others,
may come at any time. What the engine does elsewhere is left open.
-/

namespace Waterway

namespace Relay

/-- A report that has come in. -/
structure Request where
  observation : Observation Float
  /-- The number of its announcement. -/
  announcement : Nat

/-- What subscribers are sent of it. -/
def Request.text (r : Request) : String :=
  (Envelope.ofObservation r.observation).text

/-- An analysis that subscribers are sent. -/
structure Publication where
  analysis : Analysis Float
  /-- The reports that the worker had taken by then, this one included. -/
  causes : List Nat
  /-- The number of its announcement. -/
  announcement : Nat

/-- What subscribers are sent of it. -/
def Publication.text (p : Publication) : String :=
  (Envelope.ofAnalysis p.analysis).text

end Relay

/-- Reports for one location, counted from the first, with the engine and the board. The engine hands analyses over, and
they are announced on the board. -/
structure Relay (σ : Type) where
  engine : Engine σ
  board : Board := {}
  requests : List Relay.Request := []
  /-- The reports that wait in the queue of the worker, in order. -/
  waiting : List Nat := []
  /-- The reports that the worker has taken, in order. -/
  handled : List Nat := []
  /-- The reports that were refused. -/
  refused : List Nat := []
  /-- An analysis that has not been announced yet, with the reports that the worker had taken by then. -/
  pending : Option (Analysis Float × List Nat) := none
  publications : List Relay.Publication := []

namespace Relay

variable {σ : Type} {world : Surroundings σ} {home : LocationId}

/-- What can happen. -/
inductive Event (σ : Type) where
  /-- A report comes in, and its announcement begins. -/
  | ingest (o : Observation Float)
  /-- A report that has been announced is handed in. -/
  | handIn (i : Nat)
  /-- The worker takes a report and judges. -/
  | work
  /-- The announcement of an analysis begins. -/
  | publish
  /-- An announcement goes on, or something happens to subscribers. -/
  | board (e : Board.Event)
  /-- Something happens to the rest of the engine. -/
  | elsewhere (e : Engine σ)

variable {s s' : Relay σ} {e : Event σ}

/-- A location with what is known of it, and nobody subscribed. -/
def start (settings : RegistrySettings) (devices : Devices) (site : Site Float) (outside : σ) : Relay σ :=
  { engine := { registry := ({ settings } : Registry).register devices site, outside } }

/-- The worker of the location. -/
def worker (home : LocationId) (s : Relay σ) : WorkerId :=
  s.engine.registry.latest home

/-- The worker waits for the announcement of an analysis. -/
def isPublishing (s : Relay σ) : Bool :=
  s.pending.isSome || s.publications.any fun p => !s.board.isOver p.announcement

def ingest (home : LocationId) (o : Observation Float) (s : Relay σ) : Relay σ :=
  let r : Request := { observation := o, announcement := s.board.announcements.length }
  { s with board := s.board.step (.begin home r.text), requests := s.requests ++ [r] }

/-- Hands a report in; if there is no room in the queue, it is as if nothing had been done. -/
def handIn (home : LocationId) (i : Nat) (s : Relay σ) (r : Request) : Relay σ :=
  match (Engine.tryEnqueue (s.worker home) ⟨r.observation, none⟩).run s.engine with
  | (.blocked _ _, _) => s
  | (.ended (.error _), engine) => { s with engine, refused := s.refused ++ [i] }
  | (_, engine) => { s with engine, waiting := s.waiting ++ [i] }

/-- The worker has done something. -/
def worked (world : Surroundings σ) (home : LocationId) (s : Relay σ) (engine : Engine σ) : Relay σ :=
  let taken := if (s.engine.handling world (s.worker home)).isSome then s.waiting.take 1 else []
  { s with
    engine
    waiting := s.waiting.drop taken.length
    handled := s.handled ++ taken
    pending := (engine.published.drop s.engine.published.length).head?.map fun p => (p.2, s.handled ++ taken) }

def publish (home : LocationId) (s : Relay σ) (analysis : Analysis Float) (causes : List Nat) : Relay σ :=
  let p : Publication := { analysis, causes, announcement := s.board.announcements.length }
  { s with board := s.board.step (.begin home p.text), publications := s.publications ++ [p], pending := none }

def step (world : Surroundings σ) (home : LocationId) (s : Relay σ) : Event σ → Relay σ
  | .ingest o => s.ingest home o
  | .handIn i =>
    match s.requests[i]? with
    | some r =>
      if s.board.isOver r.announcement ∧ i ∉ s.waiting ++ s.handled ++ s.refused then s.handIn home i r else s
    | none => s
  | .work => if s.isPublishing then s else s.worked world home ((Engine.work world (s.worker home)).run s.engine).2
  | .publish => s.pending.elim s fun (analysis, causes) => s.publish home analysis causes
  | .board e => { s with board := s.board.step e }
  | .elsewhere e =>
    (s.engine.registry.lane? home).elim s fun lane =>
      { s with engine := { e with
          registry := { e.registry with
            lanes := Keyed.put home lane e.registry.lanes
            started := e.registry.started.filter (· != home) ++ s.engine.registry.started.filter (· == home) }
          publishTimeout := none } }

/-- A course of events. -/
def run (world : Surroundings σ) (home : LocationId) (s : Relay σ) (events : List (Event σ)) : Relay σ :=
  events.foldl (step world home) s

theorem run_append (s : Relay σ) (events later : List (Event σ)) :
    s.run world home (events ++ later) = (s.run world home events).run world home later :=
  List.foldl_append

/-- The ways in which an event can go. -/
inductive Stepped (world : Surroundings σ) (home : LocationId) (s : Relay σ) : Event σ → Relay σ → Prop where
  /-- There is nothing to be done, or it has to wait. -/
  | idle (e : Event σ) : Stepped world home s e s
  | ingested (o : Observation Float) : Stepped world home s (.ingest o) (s.ingest home o)
  | handedIn {i : Nat} {r : Request} {woken : List WorkerId} (hr : s.requests[i]? = some r)
      (hover : s.board.isOver r.announcement) :
      Stepped world home s (.handIn i) { s with
        engine := { s.engine with registry := s.engine.registry.enqueue (s.worker home) ⟨r.observation, none⟩, woken }
        waiting := s.waiting ++ [i] }
  | refused (i : Nat) : Stepped world home s (.handIn i) { s with refused := s.refused ++ [i] }
  | worked {engine : Engine σ} (hworked : Engine.Worked world (s.worker home) false s.engine engine) :
      Stepped world home s .work (s.worked world home engine)
  | published {analysis : Analysis Float} {causes : List Nat} (hpending : s.pending = some (analysis, causes)) :
      Stepped world home s .publish (s.publish home analysis causes)
  | posted (e : Board.Event) : Stepped world home s (.board e) { s with board := s.board.step e }
  /-- The lane of the location stays as it is, and so does its worker. -/
  | elsewhere {e engine : Engine σ} (hlane : engine.registry.lane? home = s.engine.registry.lane? home)
      (hworker : engine.registry.latest home = s.worker home) :
      Stepped world home s (.elsewhere e) { s with engine }

theorem stepped_handIn {i : Nat} {r : Request} (hr : s.requests[i]? = some r)
    (hover : s.board.isOver r.announcement) : Stepped world home s (.handIn i) (s.handIn home i r) := by
  have hentered := Engine.entered_tryEnqueue (s.worker home) ⟨r.observation, none⟩ s.engine
  rw [handIn]
  rcases hrun : (Engine.tryEnqueue (s.worker home) ⟨r.observation, none⟩).run s.engine with ⟨progress, engine⟩
  rw [hrun] at hentered
  cases hentered with
  | blocked => exact .idle _
  | refused => exact .refused i
  | entered => exact .handedIn hr hover

theorem stepped (world : Surroundings σ) (home : LocationId) (s : Relay σ) (e : Event σ) :
    Stepped world home s e (s.step world home e) := by
  cases e with
  | ingest o => exact .ingested o
  | handIn i =>
    rw [step]
    split
    · next r hr =>
      split
      · next h => exact stepped_handIn hr h.1
      · exact .idle _
    · exact .idle _
  | work =>
    rw [step]
    split
    · exact .idle _
    · exact .worked (Engine.worked_work world (s.worker home) false s.engine)
  | publish =>
    rw [step]
    cases hpending : s.pending with
    | none => exact .idle _
    | some draft => exact .published hpending
  | board e => exact .posted e
  | elsewhere e =>
    rw [step]
    cases hlane : s.engine.registry.lane? home with
    | none => exact .idle _
    | some lane =>
      refine .elsewhere ((Keyed.lookup_put_self _ _ _).trans hlane.symm) ?_
      simp [worker, Registry.latest, List.count_append, List.count_filter, List.count_eq_zero]

/-! ### What holds after all courses of events -/

/-- Reports and announcements as they go on: nothing is taken back. -/
structure Extends (s s' : Relay σ) : Prop where
  requests : s.requests <+: s'.requests
  length_le : s.board.announcements.length ≤ s'.board.announcements.length
  targets : ∀ k < s.board.announcements.length, s.board.targets k ⊆ s'.board.targets k
  announces : ∀ {k location text}, s.board.Announces k location text → s'.board.Announces k location text
  isOver : ∀ {k}, s.board.isOver k → s'.board.isOver k
  subscribers : ∀ location, s.board.subscribers location <+: s'.board.subscribers location
  leads : ∀ {j k}, s.board.Leads j k → s'.board.Leads j k

namespace Extends

theorem refl (s : Relay σ) : s.Extends s :=
  ⟨List.prefix_rfl, Nat.le_refl _, fun _ _ => List.Subset.refl _, id, id, fun _ => List.prefix_rfl, id⟩

theorem trans {s'' : Relay σ} (h : s.Extends s') (h' : s'.Extends s'') : s.Extends s'' where
  requests := h.requests.trans h'.requests
  length_le := Nat.le_trans h.length_le h'.length_le
  targets k hk := List.Subset.trans (h.targets k hk) (h'.targets k (Nat.lt_of_lt_of_le hk h.length_le))
  announces ha := h'.announces (h.announces ha)
  isOver hover := h'.isOver (h.isOver hover)
  subscribers location := (h.subscribers location).trans (h'.subscribers location)
  leads hleads := h'.leads (h.leads hleads)

theorem of_board_step (e : Board.Event) (hboard : s'.board = s.board.step e) (hrequests : s.requests <+: s'.requests) :
    s.Extends s' := by
  have hstepped := s.board.stepped e
  rw [← hboard] at hstepped
  refine ⟨hrequests, hstepped.advance.length_le, fun k hk => ?_, hstepped.announces, hstepped.isOver,
    hstepped.subscribers_prefix, fun hleads => hboard ▸ hleads.step e⟩
  exact (hstepped.targets_perm hk).symm.subset

theorem of_board_eq (hboard : s'.board = s.board) (hrequests : s'.requests = s.requests) : s.Extends s' := by
  constructor <;> simp [hboard, hrequests]

theorem getElem? (h : s.Extends s') {i : Nat} {r : Request} (hr : s.requests[i]? = some r) :
    s'.requests[i]? = some r := by
  obtain ⟨hi, rfl⟩ := List.getElem?_eq_some_iff.mp hr
  rw [h.requests.getElem hi]
  exact List.getElem?_eq_getElem _

end Extends

theorem Stepped.extends (h : Stepped world home s e s') : s.Extends s' := by
  cases h with
  | ingested o => exact .of_board_step (.begin home _) rfl (List.prefix_append _ _)
  | published => exact .of_board_step (.begin home _) rfl List.prefix_rfl
  | posted e => exact .of_board_step e rfl List.prefix_rfl
  | _ => exact .of_board_eq rfl rfl

theorem extends_run (world : Surroundings σ) (home : LocationId) (s : Relay σ) (events : List (Event σ)) :
    s.Extends (s.run world home events) :=
  List.foldlRecOn events _ (.refl s) fun _ h e _ => h.trans (stepped world home _ e).extends

/-- The command in the queue is that of a report. -/
def Stands (s : Relay σ) (c : Command) (i : Nat) : Prop :=
  ∃ r, s.requests[i]? = some r ∧ c.observation = r.observation

/-- The lane of the location holds what is noted to wait in it, and nobody has told its worker to stop. -/
structure Serving (home : LocationId) (s : Relay σ) (lane : Lane) : Prop where
  found : s.engine.registry.lane? home = some lane
  queue : List.Forall₂ s.Stands lane.queue s.waiting
  kept : lane.isCancelled = false

/-- What the worker can do: it takes the first report that waits, or none. -/
inductive Took (s s' : Relay σ) : Prop where
  | nothing (hwaiting : s'.waiting = s.waiting) (hhandled : s'.handled = s.handled) (hpending : s'.pending = none)
  | report {i : Nat} (hwaiting : s.waiting = i :: s'.waiting) (hhandled : s'.handled = s.handled ++ [i])
      (hpending : ∀ analysis causes, s'.pending = some (analysis, causes) → causes = s'.handled)

namespace Serving

variable {lane : Lane} {engine : Engine σ} (h : s.Serving home lane)
include h

theorem laneOf?_worker : s.engine.registry.laneOf? (s.worker home) = some lane :=
  Registry.laneOf?_latest h.found

theorem lane?_modifyLaneOf (f : Lane → Lane) :
    (s.engine.registry.modifyLaneOf (s.worker home) f).lane? home = some (f lane) := by
  have hemploys := Registry.employs_latest (Registry.contains_of_lane? h.found)
  rw [Registry.lane?_modifyLaneOf, if_pos ⟨hemploys, rfl⟩, h.found, Option.map_some]

theorem of_extends (hext : s.Extends s')
    (hlane : s'.engine.registry.lane? home = s.engine.registry.lane? home) (hwaiting : s'.waiting = s.waiting) :
    s'.Serving home lane where
  found := hlane.trans h.found
  queue := by
    rw [hwaiting]
    exact h.queue.imp fun _ _ ⟨r, hr, heq⟩ => ⟨r, hext.getElem? hr, heq⟩
  kept := h.kept

/-- When the worker takes nothing, it hands nothing over. -/
theorem took_nothing (lane' : Lane) (hnone : s.engine.handling world (s.worker home) = none)
    (hpublished : engine.published = s.engine.published) (hfound : engine.registry.lane? home = some lane')
    (hqueue : lane'.queue = lane.queue) (hkept : lane'.isCancelled = lane.isCancelled) :
    s.Took (s.worked world home engine) ∧ ∃ lane, (s.worked world home engine).Serving home lane := by
  have hworked : s.worked world home engine = { s with engine, pending := none } := by
    simp [worked, hnone, hpublished]
  rw [hworked]
  exact ⟨.nothing rfl rfl rfl, lane', hfound, hqueue ▸ h.queue, hkept.trans h.kept⟩

/-- The worker takes the first report that waits. -/
theorem took_report (lane' : Lane) {handling : Handling} {publication : Option (Analysis Float)}
    (hsome : s.engine.handling world (s.worker home) = some handling)
    (hqueue : lane.queue = handling.command :: lane'.queue)
    (hpublished : engine.published = s.engine.published ++ (publication.map fun a => (s.worker home, a)).toList)
    (hfound : engine.registry.lane? home = some lane') (hkept : lane'.isCancelled = lane.isCancelled) :
    s.Took (s.worked world home engine) ∧ ∃ lane, (s.worked world home engine).Serving home lane := by
  have hstands := h.queue
  rw [hqueue] at hstands
  cases hwaiting : s.waiting with
  | nil =>
    rw [hwaiting] at hstands
    cases hstands
  | cons i waiting =>
    have hworked : s.worked world home engine = { s with
        engine
        waiting
        handled := s.handled ++ [i]
        pending := publication.map (·, s.handled ++ [i]) } := by
      cases publication <;> simp [worked, hsome, hwaiting, hpublished]
    rw [hwaiting] at hstands
    obtain ⟨-, hrest⟩ := List.forall₂_cons.mp hstands
    rw [hworked]
    refine ⟨.report hwaiting rfl fun analysis causes hpending => ?_, lane', hfound, hrest, hkept.trans h.kept⟩
    obtain ⟨_, -, heq⟩ := Option.map_eq_some_iff.mp hpending
    exact (congrArg Prod.snd heq).symm

theorem worked (hworked : Engine.Worked world (s.worker home) false s.engine engine) :
    s.Took (s.worked world home engine) ∧ ∃ lane, (s.worked world home engine).Serving home lane := by
  have hfound := h.laneOf?_worker
  cases hworked with
  | idle hnone => exact h.took_nothing lane hnone rfl h.found rfl rfl
  | ended hlane hready hcancelled =>
    obtain rfl := Option.some.inj (hfound.symm.trans hlane)
    rw [h.kept] at hcancelled
    cases hcancelled
  | delivered hlane hdelivering =>
    obtain rfl := Option.some.inj (hfound.symm.trans hlane)
    have hnone : s.engine.handling world (s.worker home) = none := by
      obtain ⟨_, _, queue, _, _⟩ := lane
      cases hdelivering
      rw [Engine.handling, hlane]
      cases queue <;> rfl
    exact h.took_nothing { lane with activity := .ready } hnone rfl (h.lane?_modifyLaneOf _) rfl rfl
  | @handled _ handling queue f activity timeline given hlane hready hgoes hqueue hthresholds hf hgiven =>
    obtain rfl := Option.some.inj (hfound.symm.trans hlane)
    have hsome := Engine.handling_of_ready hlane hready hgoes hqueue hthresholds
    refine h.took_report (f lane) hsome ?_ rfl (h.lane?_modifyLaneOf f) ?_
    · rw [hf, hqueue]
    · rw [hf]

end Serving

/-- Announcements of analyses follow those of the reports that they take into account. -/
structure Sound (home : LocationId) (s : Relay σ) : Prop where
  board : s.board.Sound
  serving : ∃ lane, s.Serving home lane
  requests : ∀ (i : Nat) r, s.requests[i]? = some r → s.board.Announces (Request.announcement r) home r.text
  /-- What has been handed in has been announced. -/
  announced : ∀ i ∈ s.waiting ++ s.handled,
    ∃ r, s.requests[i]? = some r ∧ s.board.isOver (Request.announcement r)
  /-- Nothing is taken before an analysis is announced. -/
  pending : ∀ analysis causes, s.pending = some (analysis, causes) → causes = s.handled
  publications : ∀ p ∈ s.publications, s.board.Announces (Publication.announcement p) home p.text
  leads : (s.board.subscribers home).Nodup → ∀ p ∈ s.publications, ∀ i ∈ Publication.causes p,
    ∃ r, s.requests[i]? = some r ∧ s.board.Leads (Request.announcement r) p.announcement

theorem sound_start (settings : RegistrySettings) (devices : Devices) (site : Site Float) (outside : σ) :
    (start settings devices site outside).Sound devices.location where
  board := Board.sound_empty
  serving := by
    exact ⟨_, (Registry.lane?_register _ _ _ _).trans (if_pos rfl), .nil, rfl⟩
  requests _ _ h := nomatch h
  announced _ h := nomatch h
  pending _ _ h := nomatch h
  publications _ h := nomatch h
  leads _ _ h := nomatch h

namespace Sound

variable (hs : s.Sound home) (h : Stepped world home s e s')
include hs h

theorem board_stepped : s'.board.Sound := by
  cases h with
  | ingested o => exact hs.board.step (.begin home _)
  | published => exact hs.board.step (.begin home _)
  | posted e => exact hs.board.step e
  | _ => exact hs.board

theorem requests_stepped {i : Nat} {r : Request} (hr : s'.requests[i]? = some r) :
    s'.board.Announces r.announcement home r.text := by
  have hext := h.extends
  cases h with
  | ingested o =>
    rcases getElem?_concat_eq_some hr with ⟨-, rfl⟩ | ⟨-, hold⟩
    · exact s.board.announces_begin home _
    · exact hext.announces (hs.requests i r hold)
  | _ => exact hext.announces (hs.requests i r hr)

theorem serving_stepped : ∃ lane, s'.Serving home lane := by
  obtain ⟨lane, hserving⟩ := hs.serving
  have hext := h.extends
  cases h with
  | idle | ingested | refused | published | posted => exact ⟨lane, hserving.of_extends hext rfl rfl⟩
  | elsewhere hlane => exact ⟨lane, hserving.of_extends hext hlane rfl⟩
  | @handedIn i r woken hr hover =>
    refine ⟨{ lane with queue := lane.queue ++ [⟨r.observation, none⟩] }, hserving.lane?_modifyLaneOf _, ?_,
      hserving.kept⟩
    exact List.rel_append hserving.queue (.cons ⟨r, hr, rfl⟩ .nil)
  | worked hworked => exact (hserving.worked hworked).2

/-- What waits or has been taken has been handed in, and so announced. -/
theorem announced_stepped {i : Nat} (hi : i ∈ s'.waiting ++ s'.handled) :
    ∃ r, s'.requests[i]? = some r ∧ s'.board.isOver r.announcement := by
  have hext := h.extends
  have hkept (hi : i ∈ s.waiting ++ s.handled) :
      ∃ r, s'.requests[i]? = some r ∧ s'.board.isOver r.announcement := by
    obtain ⟨r, hr, hover⟩ := hs.announced i hi
    exact ⟨r, hext.getElem? hr, hext.isOver hover⟩
  cases h with
  | handedIn hr hover =>
    rw [List.append_assoc, List.mem_append, List.mem_append, List.mem_singleton] at hi
    rcases hi with hi | rfl | hi
    · exact hkept (List.mem_append_left _ hi)
    · exact ⟨_, hr, hover⟩
    · exact hkept (List.mem_append_right _ hi)
  | worked hworked =>
    obtain ⟨lane, hserving⟩ := hs.serving
    refine hkept ?_
    cases (hserving.worked hworked).1 with
    | nothing hwaiting hhandled => rwa [hwaiting, hhandled] at hi
    | report hwaiting hhandled =>
      rw [hwaiting]
      rw [hhandled] at hi
      simp only [List.mem_append, List.mem_cons, List.not_mem_nil, or_false] at hi ⊢
      tauto
  | _ => exact hkept hi

/-- An analysis takes into account what the worker has taken. -/
theorem pending_stepped {analysis : Analysis Float} {causes : List Nat}
    (hpending : s'.pending = some (analysis, causes)) : causes = s'.handled := by
  cases h with
  | worked hworked =>
    obtain ⟨lane, hserving⟩ := hs.serving
    cases (hserving.worked hworked).1 with
    | nothing _ _ hnone =>
      rw [hnone] at hpending
      cases hpending
    | report _ _ hcauses => exact hcauses analysis causes hpending
  | published => cases hpending
  | _ => exact hs.pending analysis causes hpending

theorem publications_stepped {p : Publication} (hp : p ∈ s'.publications) :
    s'.board.Announces p.announcement home p.text := by
  have hext := h.extends
  cases h with
  | published =>
    rcases List.mem_append.mp hp with hold | hnew
    · exact hext.announces (hs.publications p hold)
    · obtain rfl := List.mem_singleton.mp hnew
      exact s.board.announces_begin home _
  | _ => exact hext.announces (hs.publications p hp)

/-- The announcements of all reports that an analysis takes into account are over when its own begins. -/
theorem leads_stepped (honce : (s'.board.subscribers home).Nodup) {p : Publication} (hp : p ∈ s'.publications)
    {i : Nat} (hi : i ∈ p.causes) :
    ∃ r, s'.requests[i]? = some r ∧ s'.board.Leads r.announcement p.announcement := by
  have hext := h.extends
  have honce' := (hext.subscribers home).sublist.nodup honce
  have hkept (hp : p ∈ s.publications) :
      ∃ r, s'.requests[i]? = some r ∧ s'.board.Leads r.announcement p.announcement := by
    obtain ⟨r, hr, hleads⟩ := hs.leads honce' p hp i hi
    exact ⟨r, hext.getElem? hr, hext.leads hleads⟩
  cases h with
  | published hpending =>
    rcases List.mem_append.mp hp with hold | hnew
    · exact hkept hold
    · obtain rfl := List.mem_singleton.mp hnew
      obtain ⟨r, hr, hover⟩ := hs.announced i (List.mem_append_right _ (hs.pending _ _ hpending ▸ hi))
      exact ⟨r, hr, hs.board.leads_begin honce' (hs.requests i r hr) hover _⟩
  | _ => exact hkept hp

omit h in
theorem step (e : Event σ) : (s.step world home e).Sound home where
  board := hs.board_stepped (stepped world home s e)
  serving := hs.serving_stepped (stepped world home s e)
  requests _ _ hr := hs.requests_stepped (stepped world home s e) hr
  announced _ hi := hs.announced_stepped (stepped world home s e) hi
  pending _ _ hpending := hs.pending_stepped (stepped world home s e) hpending
  publications _ hp := hs.publications_stepped (stepped world home s e) hp
  leads honce _ hp _ hi := hs.leads_stepped (stepped world home s e) honce hp hi

end Sound

theorem Stepped.handled_subset (h : Stepped world home s e s') : s.handled ⊆ s'.handled := by
  cases h with
  | worked => exact List.subset_append_left _ _
  | _ => exact List.Subset.refl _

theorem Stepped.mem_publications (h : Stepped world home s e s') (hs : s.Sound home) {p : Publication}
    (hp : p ∈ s'.publications) : p ∈ s.publications ∨ p.causes = s.handled := by
  cases h with
  | published hpending =>
    rcases List.mem_append.mp hp with hold | hnew
    · exact .inl hold
    · obtain rfl := List.mem_singleton.mp hnew
      exact .inr (hs.pending _ _ hpending)
  | _ => exact .inl hp

/-- What is announced after the worker has taken a report takes it into account. -/
theorem Sound.mem_causes_of_handled (hs : s.Sound home) {i : Nat} (hi : i ∈ s.handled) (events : List (Event σ))
    {p : Publication} (hp : p ∈ (s.run world home events).publications) : p ∈ s.publications ∨ i ∈ p.causes := by
  induction events generalizing s with
  | nil => exact .inl hp
  | cons e events ih =>
    have hstepped := stepped world home s e
    rcases ih (hs.step e) (hstepped.handled_subset hi) hp with hold | hcause
    · rcases hstepped.mem_publications hs hold with hbefore | hcauses
      · exact .inl hbefore
      · exact .inr (hcauses.symm ▸ hi)
    · exact .inr hcause

/-- Whatever happens, announcements of analyses follow those of the reports that they take into account. -/
theorem sound_after (world : Surroundings σ) (settings : RegistrySettings) (devices : Devices) (site : Site Float)
    (outside : σ) (events : List (Event σ)) :
    ((start settings devices site outside).run world devices.location events).Sound devices.location :=
  List.foldlRecOn events _ (sound_start settings devices site outside) fun _ hs e _ => hs.step e

/-- Once the worker has taken a report, all analyses that are announced from then on take it into account. Whoever is
subscribed to the location when the announcement of the report begins gets the report before every analysis that takes
it into account, and none of these if the report did not reach it; nobody being subscribed a second time. -/
theorem cause_before_effect (world : Surroundings σ) (settings : RegistrySettings) (devices : Devices)
    (site : Site Float) (outside : σ) (before later : List (Event σ)) (o : Observation Float) :
    let home := devices.location
    let s := (start settings devices site outside).run world home before
    let t := s.run world home (.ingest o :: later)
    let n := s.board.announcements.length
    (∀ first rest, later = first ++ rest →
      let u := s.run world home (.ingest o :: first)
      s.requests.length ∈ u.handled → ∀ p ∈ t.publications, p ∈ u.publications ∨ s.requests.length ∈ p.causes) ∧
    ((t.board.subscribers home).Nodup → ∀ c ∈ s.board.hub.members home,
      t.board.Carried c ∧ t.board.text? n = some (Envelope.ofObservation o).text ∧
      ∀ p ∈ t.publications, s.requests.length ∈ p.causes →
        t.board.text? p.announcement = some (Envelope.ofAnalysis p.analysis).text ∧
        (∀ first rest, t.board.postedTo c = first ++ p.announcement :: rest → n ∈ first) ∧
        ∀ why, (c, some why) ∈ t.board.outcomes n → p.announcement ∉ t.board.postedTo c) := by
  intro home s t n
  have hsound (events : List (Event σ)) : (s.run world home events).Sound home := by
    have hsound := sound_after world settings devices site outside (before ++ events)
    rwa [run_append] at hsound
  refine ⟨?_, fun honce c hc => ?_⟩
  · rintro first rest rfl u hhandled p hp
    have ht : t = u.run world home rest := s.run_append (.ingest o :: first) rest
    rw [ht] at hp
    exact (hsound (.ingest o :: first)).mem_causes_of_handled hhandled rest hp
  have ht : t.Sound home := hsound (.ingest o :: later)
  have hext : (s.ingest home o).Extends t := extends_run world home (s.ingest home o) later
  have hrequest : t.requests[s.requests.length]? = some { observation := o, announcement := n } :=
    hext.getElem? List.getElem?_concat_length
  have htarget : c ∈ t.board.targets n := by
    obtain ⟨a, ha, -⟩ := s.board.announces_begin home (Request.text ⟨o, n⟩)
    exact hext.targets n (List.getElem?_eq_some_iff.mp ha).1 ((s.board.targets_begin home _).symm ▸ hc)
  refine ⟨ht.board.carried c (ht.board.opened_of_mem_targets htarget), (ht.requests _ _ hrequest).text?_eq, ?_⟩
  intro p hp hcause
  obtain ⟨r, hr, hleads⟩ := ht.leads honce p hp _ hcause
  obtain rfl := Option.some.inj (hrequest.symm.trans hr)
  exact ⟨(ht.publications p hp).text?_eq, hleads.ordered c htarget, fun why => hleads.not_mem_postedTo ht.board⟩

/-- A site of which all but the weather is known. -/
def withoutWeather : Site Float :=
  { evidence :=
      { blockage := some ⟨.clear, .year2000⟩
        waterLevel := some ⟨30, 0, 40, .stable, .year2000⟩ } }

/-- Two subscribers come. -/
def twoSubscribers : List (Event Memory) :=
  [.board (.meanwhile (.connect "a" 4)), .board (.meanwhile (.connect "b" 4)),
    .board (.meanwhile (.subscribe ⟨"a", 0⟩ 7)), .board (.meanwhile (.subscribe ⟨"b", 1⟩ 7))]

/-- One of them gets the report. The other one does not take it in time. The worker takes the report. -/
def reportTaken : List (Event Memory) :=
  [.board (.send 0 ⟨"a", 0⟩), .board (.fail 0 ⟨"b", 1⟩ .timedOut), .board (.finish 0), .handIn 0, .work]

/-- The analysis is announced. -/
def analysisSent : List (Event Memory) :=
  [.publish, .board (.send 1 ⟨"a", 0⟩)]

/-- The analysis comes after the report, and does not come to the other one. -/
theorem cause_before_effect_reportThenAnalysis :
    let outside : Memory := { supply := { provision := ⟨.ok Provision.standard, none⟩ } }
    let s := (start {} (.unmapped 7) withoutWeather outside).run Memory.surroundings 7 twoSubscribers
    let t := s.run Memory.surroundings 7 (.ingest rain :: (reportTaken ++ analysisSent))
    t.board.postedTo ⟨"a", 0⟩ = [0] ++ [1] ∧ 0 ∈ [0] ∧ 1 ∉ t.board.postedTo ⟨"b", 1⟩ := by
  intro outside s t
  have honce : (t.board.subscribers 7).Nodup := by decide
  obtain ⟨hcauses, heffect⟩ := cause_before_effect Memory.surroundings {} (.unmapped 7) withoutWeather outside
    twoSubscribers (reportTaken ++ analysisSent) rain
  have hannounced : 1 ∈ t.publications.map (·.announcement) := by decide
  obtain ⟨p, hp, hannouncement⟩ := List.mem_map.mp hannounced
  have hcause : 0 ∈ p.causes := by
    rcases hcauses reportTaken analysisSent rfl (by decide) p hp with hbefore | hcause
    · exact absurd (List.length_pos_of_mem hbefore) (by decide)
    · exact hcause
  have hposted : t.board.postedTo ⟨"a", 0⟩ = [0] ++ [1] := by decide
  obtain ⟨-, -, hfirst⟩ := heffect honce ⟨"a", 0⟩ (by decide)
  obtain ⟨-, -, hsecond⟩ := heffect honce ⟨"b", 1⟩ (by decide)
  obtain ⟨-, hordered, -⟩ := hfirst p hp hcause
  obtain ⟨-, -, hlost⟩ := hsecond p hp hcause
  rw [hannouncement] at hordered hlost
  exact ⟨hposted, hordered [0] [] hposted, hlost .timedOut (by decide)⟩

end Relay

end Waterway
