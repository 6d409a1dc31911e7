import Waterway.Proofs.Registry.FailedJudgement

/-!
# Where judgements come from

A reader finds the judgement of a location beside the evidence that was judged. The one exception is a location
that has been registered with nothing known of it: until a first command of its is handled with thresholds, it
shows a judgement that nobody has made, without any condition.

## Main definitions

- `Site.Judged` — the judgement of a site is one of its evidence
- `System.Attended` — a system that has come about from an empty registry by start-ups, registrations with
  nothing known or of loaded sites, and calls

## Main statements

- `Site.not_judged_empty` — what is shown of an unknown site is no judgement of it, by whatever thresholds
- `System.Attended.blank_or_judged` — all that readers see is of an unknown site, or has been judged
- `judged_unless_unknown` — a location is unjudged as long as it is unknown and every command of its fails
-/

namespace Waterway

open Decimal Engine

variable {σ : Type}

namespace Site

variable {α : Type} [Quantity α]

/-- The judgement of a site is one of its evidence. -/
def Judged (s : Site α) : Prop :=
  ∃ t, s.judgement = judge s.evidence t

theorem judged_recompute (s : Site α) (t : Thresholds) : (s.recompute t).Judged :=
  ⟨t, rfl⟩

/-- Nothing is found in no evidence, so that only the tier is left to speak of. -/
theorem conditions_judge_empty (t : Thresholds) :
    (judge ({} : Evidence α) t).conditions =
      (conditionsShown (judge ({} : Evidence α) t).tier []).map Condition.message :=
  rfl

/-- In the normal tier reassurance is given where there is nothing to report. -/
theorem Judged.conditions_eq {s : Site α} (h : s.Judged) (hevidence : s.evidence = {})
    (htier : s.judgement.tier = .normal) :
    s.judgement.conditions = reassurance.map Condition.message := by
  obtain ⟨t, ht⟩ := h
  rw [hevidence] at ht
  rw [ht] at htier ⊢
  rw [conditions_judge_empty, htier]
  rfl

/-- What is shown of an unknown site is no judgement of it, as it gives no reassurance. -/
theorem not_judged_empty : ¬(empty : Site α).Judged := by
  intro h
  have hconditions := h.conditions_eq rfl rfl
  cases hconditions

end Site

/-- A loaded site has been judged, whatever the store has answered. -/
theorem judged_loadSite {store : ReadingStore (StateM σ)}
    {thresholds : StateM σ (Except EngineError Thresholds)} {devices : Devices} {windows : Windows}
    {now : Instant} {outside : σ} {site : Site Float}
    (h : ((loadSite store thresholds devices windows now).run outside).1 = .ok site) : site.Judged := by
  simp only [loadSite, StateT.run_bind] at h
  generalize (loadEvidence store devices windows now Source.all {}).run outside = loaded at h
  obtain ⟨evidence, outside⟩ := loaded
  simp only [bind] at h
  generalize thresholds.run outside = answer at h
  obtain ⟨answer, outside⟩ := answer
  cases answer with
  | error e =>
    have herror : (.error e : Except EngineError (Site Float)) = .ok site := h
    cases herror
  | ok t =>
    obtain rfl : Site.recompute { evidence } t = site := Except.ok.inj h
    exact Site.judged_recompute _ t

namespace Registry

/-- All that readers see is of an unknown site, or has been judged. -/
def BlankOrJudged (r : Registry) : Prop :=
  ∀ location site, r.shown location = .ok site → site = .empty ∨ site.Judged

/-- Readers of a location see what its lane shows. -/
theorem shown_congr {r r' : Registry} {location : LocationId}
    (h : r'.lane? location = r.lane? location) : r'.shown location = r.shown location := by
  rw [shown, shown, h]

theorem contains_of_shown {r : Registry} {location : LocationId} {site : Site Float}
    (h : r.shown location = .ok site) : r.contains location := by
  rw [shown] at h
  rw [contains]
  split at h
  · next hlane => rw [hlane, Option.isSome_some]
  · cases h

theorem shown_register (r : Registry) (devices : Devices) (site : Site Float) (location : LocationId) :
    (r.register devices site).shown location =
      if location = devices.location then .ok site else r.shown location := by
  by_cases h : location = devices.location
  · rw [if_pos h, shown, lane?_register, if_pos h]
    rfl
  · rw [if_neg h]
    exact shown_congr (by rw [lane?_register, if_neg h])

theorem shown_enqueue {r : Registry} {w : WorkerId} {lane : Lane} (hlane : r.laneOf? w = some lane) (c : Command)
    (other : LocationId) : (r.enqueue w c).shown other = r.shown other :=
  shown_modifyLaneOf hlane rfl other

/-- Readers of a location see what the lane of its worker shows. -/
theorem shown_congr_of_employs {r r' : Registry} {w : WorkerId} (hw : r.employs w) (hw' : r'.employs w)
    (hlane : r'.laneOf? w = r.laneOf? w) : r'.shown w.location = r.shown w.location := by
  rw [laneOf?_of_employs hw, laneOf?_of_employs hw'] at hlane
  exact shown_congr hlane

theorem BlankOrJudged.register {r : Registry} (h : r.BlankOrJudged) (devices : Devices) {site : Site Float}
    (hsite : site = .empty ∨ site.Judged) : (r.register devices site).BlankOrJudged := by
  intro location other hother
  rw [shown_register] at hother
  split at hother
  · cases hother
    exact hsite
  · exact h location other hother

theorem BlankOrJudged.resolve {r : Registry} (h : r.BlankOrJudged) (location : LocationId) :
    (r.resolve location).2.BlankOrJudged := by
  rcases r.resolve_snd location with hsame | ⟨-, hnew⟩
  · rwa [hsame]
  · rw [hnew]
    exact h.register _ (.inl rfl)

end Registry

namespace Engine

variable {world : Surroundings σ} {w : WorkerId} {lingers : Bool} {e after : Engine σ}

/-- A step in which no command is handled is not seen by readers. -/
theorem Worked.shown_eq_of_none (hworked : Worked world w lingers e after)
    (hnone : e.handling world w lingers = none) (other : LocationId) :
    after.registry.shown other = e.registry.shown other := by
  cases hworked with
  | idle => rfl
  | ended hlane => exact Registry.shown_modifyLaneOf hlane rfl other
  | delivered hlane => exact Registry.shown_modifyLaneOf hlane rfl other
  | handled hlane hready hgoes hqueue hthresholds =>
    exact nomatch hnone.symm.trans (handling_of_ready hlane hready hgoes hqueue hthresholds)

/-- When the worker of a location handles a command with thresholds, readers see a site that has been judged. -/
theorem Worked.shown_judged (hworked : Worked world w lingers e after) (hemploys : e.registry.employs w) {h : Handling}
    (hhandling : e.handling world w lingers = some h) {t : Thresholds} (ht : h.thresholds = .ok t) :
    ∃ site, after.registry.shown w.location = .ok site ∧ site.Judged := by
  obtain ⟨ready, hfound, hready, hgoes, -⟩ := exists_of_handling hhandling
  cases hworked with
  | idle hnone => cases hnone.symm.trans hhandling
  | ended hlane _ hcancelled hlingers =>
    obtain rfl := Option.some.inj (hfound.symm.trans hlane)
    simp [hcancelled, hlingers] at hgoes
  | delivered hlane hactivity =>
    obtain rfl := Option.some.inj (hfound.symm.trans hlane)
    cases hready.symm.trans hactivity
  | @handled lane k queue f activity timeline given hlane hactivity hgoes hqueue hthresholds hf =>
    obtain rfl := Option.some.inj
      (hhandling.symm.trans (handling_of_ready hlane hactivity hgoes hqueue hthresholds))
    refine ⟨(f lane).worker.shown, ?_, ?_⟩
    · rw [Registry.laneOf?_of_employs hemploys] at hlane
      rw [Registry.shown, Registry.lane?_modifyLaneOf, if_pos ⟨hemploys, rfl⟩, hlane]
      rfl
    · rw [hf, ht]
      exact Site.judged_recompute _ t

theorem Worked.blankOrJudged (hworked : Worked world w lingers e after) (he : e.registry.BlankOrJudged) :
    after.registry.BlankOrJudged := by
  intro other site hsite
  cases hhandling : e.handling world w lingers with
  | none =>
    rw [hworked.shown_eq_of_none hhandling] at hsite
    exact he other site hsite
  | some h =>
    cases hthresholds : h.thresholds with
    | error error =>
      rw [hworked.shown_eq hhandling hthresholds] at hsite
      exact he other site hsite
    | ok t =>
      by_cases hother : e.registry.employs w ∧ other = w.location
      · obtain ⟨judged, hshown, hjudged⟩ := hworked.shown_judged hother.1 hhandling hthresholds
        rw [hother.2, hshown] at hsite
        cases hsite
        exact .inr hjudged
      · -- a worker that has no location shows nothing
        have hsame : after.registry.lane? other = e.registry.lane? other := by
          cases hworked with
          | idle => rfl
          | ended | delivered | handled => rw [Registry.lane?_modifyLaneOf, if_neg hother]
        rw [Registry.shown_congr hsame] at hsite
        exact he other site hsite

theorem Entered.shown_eq {c : Command} {p : Progress} (hentered : Entered w c e p after)
    (other : LocationId) : after.registry.shown other = e.registry.shown other := by
  cases hentered with
  | blocked => rfl
  | refused => rfl
  | entered hlane => exact Registry.shown_enqueue hlane c other

theorem Begun.shown_eq {call : Call} {p : Progress} (hbegun : Begun call e p after) {other : LocationId}
    (hknown : e.registry.contains other) : after.registry.shown other = e.registry.shown other := by
  cases hbegun with
  | ended => rfl
  | entered hfound hentered =>
    refine (hentered.shown_eq other).trans (Registry.shown_congr ?_)
    rw [(Registry.resolve_of_found? hfound).1]
    exact Registry.lane?_insertOrReuse hknown

theorem Begun.blankOrJudged {call : Call} {p : Progress} (hbegun : Begun call e p after)
    (he : e.registry.BlankOrJudged) : after.registry.BlankOrJudged := by
  cases hbegun with
  | ended => exact he
  | entered hfound hentered =>
    intro other site hsite
    rw [hentered.shown_eq] at hsite
    exact he.resolve call.location other site hsite

theorem blankOrJudged_register (he : e.registry.BlankOrJudged) (devices : Devices) {site : Site Float}
    (hsite : site = .empty ∨ site.Judged) :
    ((register devices site).run e).2.registry.BlankOrJudged := by
  obtain ⟨woken, hrun⟩ := run_register devices site e
  rw [hrun]
  exact he.register devices hsite

/-- Every site that a start-up registers has been loaded. -/
theorem blankOrJudged_startEach (world : Surroundings σ) (now : Instant) (started : Nat)
    (known : List Devices) (he : e.registry.BlankOrJudged) :
    ((startEach world now started known).run e).2.registry.BlankOrJudged := by
  induction known generalizing started e with
  | nil => exact he
  | cons devices rest ih =>
    cases hmapped : devices.isMapped with
    | false =>
      rw [run_startEach_of_not_isMapped hmapped]
      exact ih _ he
    | true =>
      rw [run_startEach_of_isMapped hmapped]
      generalize hload : (loadSite world.store (world.thresholds e.timeline.clock) devices
        e.registry.settings.windows now).run e.outside = load
      obtain ⟨loaded, outside⟩ := load
      cases loaded with
      | error error => exact he
      | ok site =>
        have hregistered := blankOrJudged_register (e := { e with outside }) he devices
          (.inr (judged_loadSite (congrArg Prod.fst hload)))
        exact ih _ hregistered

theorem blankOrJudged_startAll (world : Surroundings σ) (now : Instant) (he : e.registry.BlankOrJudged) :
    ((startAll world now).run e).2.registry.BlankOrJudged := by
  rw [run_startAll_eq]
  rcases world.directory.run e.outside with ⟨_ | known, outside⟩
  · exact he
  · exact blankOrJudged_startEach world now 0 known he

end Engine

/-- Whether a move registers locations with nothing known of them, or with what has been loaded, if it registers
any. -/
def Move.Opens (world : Surroundings σ) : Move σ → Prop
  | .register _ site => site = .empty ∨
      ∃ time devices windows now outside,
        ((loadSite world.store (world.thresholds time) devices windows now).run outside).1 = .ok site
  | _ => True

namespace System

variable {world : Surroundings σ} {s : System σ} {location : LocationId} {site : Site Float}

/-- A system that has come about from an empty registry by start-ups, registrations with nothing known or of
loaded sites, and calls. -/
inductive Attended (world : Surroundings σ) : System σ → Prop where
  | start (settings : RegistrySettings) (publishTimeout : Option Nat) (timeline : Timeline) (outside : σ) :
      Attended world (start settings publishTimeout timeline outside)
  | startAll {s : System σ} (now : Instant) (hs : Attended world s) :
      Attended world { s with engine := ((Engine.startAll world now).run s.engine).2 }
  | step {s : System σ} {m : Move σ} (hm : m.Opens world) (hs : Attended world s) :
      Attended world (s.step world m)

theorem blankOrJudged_step (hs : s.engine.registry.BlankOrJudged) {m : Move σ} (hm : m.Opens world) :
    (s.step world m).engine.registry.BlankOrJudged := by
  cases m with
  | call c => exact (begun_begin c s.engine).blankOrJudged hs
  | retry number =>
    cases hcall : s.calls[number]? with
    | none => simpa only [step, hcall] using hs
    | some p =>
      cases p with
      | ended result => rwa [step_retry world hcall rfl]
      | pending w ticket => rwa [step_retry world hcall rfl]
      | blocked w c =>
        have hentered := entered_tryEnqueue w c s.engine
        rw [step_retry_blocked world hcall]
        intro location site hsite
        exact hs location site ((hentered.shown_eq location).symm.trans hsite)
  | work w lingers => exact (worked_work world w lingers s.engine).blankOrJudged hs
  | register devices site =>
    refine blankOrJudged_register hs devices (hm.imp_right ?_)
    rintro ⟨time, devices, windows, now, outside, hload⟩
    exact judged_loadSite hload
  | shutdown =>
    obtain ⟨woken, hrun⟩ := run_shutdown s.engine
    intro location site hsite
    rw [step, hrun] at hsite
    cases hsite
  | elsewhere => exact hs

/-- All that readers see is of an unknown site, or has been judged. -/
theorem Attended.blank_or_judged (hs : s.Attended world) : s.engine.registry.BlankOrJudged := by
  induction hs with
  | start =>
    intro location site hsite
    cases hsite
  | startAll now _ ih => exact blankOrJudged_startAll world now ih
  | step hm _ ih => exact blankOrJudged_step ih hm

/-- Readers of a location whose worker stays in its place see nothing new by a move in which it handles no command. -/
theorem shown_step_of_none (world : Surroundings σ) {w : WorkerId} (hemploys : s.engine.registry.employs w)
    {m : Move σ} (hspares : m.Spares w.location) (hnone : s.handles world w m = none) :
    (s.step world m).engine.registry.shown w.location = s.engine.registry.shown w.location := by
  cases m with
  | call c => exact (begun_begin c s.engine).shown_eq (Registry.employs_iff.mp hemploys).1
  | retry number =>
    cases hcall : s.calls[number]? with
    | none => simp only [step, hcall]
    | some p =>
      cases p with
      | ended result => rw [step_retry world hcall rfl]
      | pending v ticket => rw [step_retry world hcall rfl]
      | blocked v c =>
        rw [step_retry_blocked world hcall]
        exact (entered_tryEnqueue v c s.engine).shown_eq w.location
  | work v lingers =>
    have hworked := worked_work world v lingers s.engine
    by_cases hv : v = w
    · rw [handles, if_pos hv, ← hv] at hnone
      exact hworked.shown_eq_of_none hnone w.location
    · exact Registry.shown_congr_of_employs hemploys ((hworked.agrees.employs_iff rfl).mpr hemploys)
        (hworked.untouched (Ne.symm hv)).lane
  | register devices site' =>
    obtain ⟨woken, hrun⟩ := run_register devices site' s.engine
    rw [step, hrun, Registry.shown_register, if_neg (Ne.symm hspares)]
  | shutdown => exact hspares.elim
  | elsewhere => rfl

theorem worked_of_handles {w : WorkerId} {m : Move σ} {h : Handling} (hhandles : s.handles world w m = some h) :
    ∃ lingers, s.engine.handling world w lingers = some h ∧
      Worked world w lingers s.engine (s.step world m).engine := by
  cases m with
  | work v lingers =>
    rw [handles] at hhandles
    split at hhandles
    · next hv =>
      subst hv
      exact ⟨lingers, hhandles, worked_work world v lingers s.engine⟩
    · cases hhandles
  | call | retry | register | shutdown | elsewhere => cases hhandles

/-- An unknown location stays unjudged as long as every command that its worker handles fails for want of thresholds. -/
theorem shown_run_eq_empty_iff (world : Surroundings σ) {w : WorkerId} (hemploys : s.engine.registry.employs w)
    (hshown : s.engine.registry.shown w.location = .ok site) (hsite : site = .empty ∨ site.Judged)
    {moves : List (Move σ)} (hspares : ∀ m ∈ moves, m.Spares w.location) :
    (s.run world moves).engine.registry.shown w.location = .ok .empty ↔
      site = .empty ∧ ∀ h ∈ s.handled world w moves, ∃ e, h.thresholds = .error e := by
  induction moves generalizing s site with
  | nil => simp [run, handled, gather, hshown]
  | cons m moves ih =>
    obtain ⟨hm, hrest⟩ := List.forall_mem_cons.mp hspares
    obtain ⟨hagrees, -⟩ := s.carries_step_of_spares world hm fun _ => by
      rw [Registry.resolve_of_contains (Registry.employs_iff.mp hemploys).1]
    have hnext {seen : Site Float} (hseen : (s.step world m).engine.registry.shown w.location = .ok seen)
        (hsite : seen = .empty ∨ seen.Judged) := ih ((hagrees.employs_iff rfl).mpr hemploys) hseen hsite hrest
    change ((s.step world m).run world moves).engine.registry.shown w.location = _ ↔
      _ ∧ ∀ h ∈ (s.handles world w m).toList ++ (s.step world m).handled world w moves, _
    cases hhandles : s.handles world w m with
    | none =>
      rw [Option.toList_none, List.nil_append]
      exact hnext ((shown_step_of_none world hemploys hm hhandles).trans hshown) hsite
    | some h =>
      obtain ⟨lingers, hhandling, hworked⟩ := worked_of_handles hhandles
      rw [Option.toList_some, List.singleton_append, List.forall_mem_cons]
      cases hthresholds : h.thresholds with
      | error error =>
        rw [hnext ((hworked.shown_eq hhandling hthresholds w.location).trans hshown) hsite]
        simp
      | ok t =>
        -- what has been judged is never unjudged again
        obtain ⟨judged, hseen, hjudged⟩ := hworked.shown_judged hemploys hhandling hthresholds
        have hne : judged ≠ .empty := by
          rintro rfl
          exact Site.not_judged_empty hjudged
        rw [hnext hseen (.inr hjudged)]
        simp [hne]

end System

/-- What readers see has been judged, by some thresholds, on the evidence beside it, but for a location of which
nothing was known when it was registered. That one shows no judgement as long as every command of its fails for
want of thresholds. -/
theorem judged_unless_unknown (world : Surroundings σ) {s : System σ} (hs : s.Attended world)
    {location : LocationId} {site : Site Float} (hshown : s.engine.registry.shown location = .ok site) :
    s.engine.registry.judgement location = .ok site.judgement ∧
    ((∃ t, site.judgement = judge site.evidence t) ↔ site ≠ .empty) ∧
    (site ≠ .empty → site.evidence = {} → site.judgement.tier = .normal →
      site.judgement.conditions = reassurance.map Condition.message) ∧
    ∀ moves : List (Move σ), (∀ m ∈ moves, m.Spares location) →
      ((s.run world moves).engine.registry.shown location = .ok .empty ↔
        site = .empty ∧ ∀ h ∈ s.handled world (s.engine.registry.latest location) moves,
          ∃ e, h.thresholds = .error e) := by
  have hsite := hs.blank_or_judged location site hshown
  refine ⟨?_, ⟨?_, hsite.resolve_left⟩, ?_, ?_⟩
  · rw [Registry.judgement, hshown]
    rfl
  · rintro hjudged rfl
    exact Site.not_judged_empty hjudged
  · intro hne
    exact (hsite.resolve_left hne).conditions_eq
  · intro moves hspares
    have hemploys := Registry.employs_latest (Registry.contains_of_shown hshown)
    exact System.shown_run_eq_empty_iff world hemploys hshown hsite hspares

/-- The verdict is handled in vain and the location stays unjudged. The rain is handled with thresholds. -/
theorem judged_unless_unknown_verdictThenRain :
    (withoutThresholds.run Memory.surroundings
      [.call ⟨7, verdict .blocked, false⟩, .work ⟨7, 1⟩]).engine.registry.shown 7 = .ok .empty ∧
    (withoutThresholds.run Memory.surroundings
      (verdictThenRain ++ [.work ⟨7, 1⟩])).engine.registry.shown 7 ≠ .ok .empty := by
  have hattended : withoutThresholds.Attended Memory.surroundings :=
    .step (m := .register (.unmapped 7) .empty) (.inl rfl) (.start {} none {} _)
  have hshown : withoutThresholds.engine.registry.shown 7 = .ok .empty := rfl
  obtain ⟨-, -, -, hrun⟩ := judged_unless_unknown Memory.surroundings hattended hshown
  constructor
  · rw [hrun _ (by simp [Move.Spares])]
    refine ⟨rfl, fun h hh => ⟨Provision.settingNotFound, ?_⟩⟩
    obtain rfl := List.mem_singleton.mp hh
    rfl
  · intro hunseen
    obtain ⟨-, hfailed⟩ := (hrun _ (by simp [verdictThenRain, Move.Spares])).mp hunseen
    obtain ⟨error, herror⟩ := hfailed ⟨⟨rain, none⟩, .ok Provision.standard⟩
      (List.mem_cons_of_mem _ (List.mem_singleton_self _))
    cases herror

/-- A location that has just been registered with nothing known of it. -/
def newcomer : System Memory :=
  (System.start {} none {} {}).step Memory.surroundings (.register (.unmapped 7) .empty)

/-- It is in the normal tier without a word of reassurance, though thresholds can be had; no thresholds judge
it so. -/
theorem newcomer_unjudged :
    newcomer.Attended Memory.surroundings ∧
    ∃ site, newcomer.engine.registry.shown 7 = .ok site ∧ site.evidence = {} ∧
      site.judgement = ⟨.normal, 0, []⟩ ∧ ∀ t, site.judgement ≠ judge site.evidence t := by
  refine ⟨.step (m := .register (.unmapped 7) .empty) (.inl rfl) (.start {} none {} _), .empty, rfl, rfl,
    rfl, ?_⟩
  intro t ht
  exact Site.not_judged_empty ⟨t, ht⟩

end Waterway
