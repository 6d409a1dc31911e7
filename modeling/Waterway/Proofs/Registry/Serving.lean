import Waterway.Proofs.Registry.Tickets

/-!
# What a worker has done so far

A worker handles the commands in its queue one at a time and in order. What it has become, what it has handed over and
whom it has answered what is told by the commands handled so far, and by nothing else that goes on.

## Main definitions

- `Serving` — what holds of a worker at any time
- `Engine.Carries` — what has happened to a worker is that it has been given some commands, and has handled some

## Main statements

- `Serving.worked`, `Serving.entered`, `Serving.of_untouched` — it goes on holding
- `Engine.Worked.carries`, `Engine.Entered.carries`, `Engine.Untouched.carries` — the same for all workers at once
- `Serving.lookup_answers` — what has been handled has been answered, unless the answer waits for a delivery
-/

namespace Waterway

open Engine

variable {σ : Type}

/-- A worker has handled some commands in order, the first of those that were accepted. The others are in its queue, or
were refused when it stopped. What it does not owe has been answered. -/
structure Serving (w : WorkerId) (begun : Worker) (earlier : List (Analysis Float)) (accepted : List Command)
    (handled : List Handling) (refused : List Command) (lane : Lane) (e : Engine σ) : Prop where
  found : e.registry.laneOf? w = some lane
  queue : handled.map Handling.command ++ (lane.queue ++ refused) = accepted
  stopped : refused ≠ [] → lane.activity = .stopped
  cancelled : lane.activity = .stopped → lane.isCancelled
  worker : lane.worker = begun.replay (handled.map Handling.step)
  published : e.publishedBy w = earlier ++ begun.publications (handled.map Handling.step)
  answers : (begun.replies handled ++ refusals w.location refused).Sublist (e.answers ++ lane.activity.owed)

namespace Serving

variable {w : WorkerId} {begun : Worker} {earlier : List (Analysis Float)} {accepted : List Command}
  {handled : List Handling} {refused : List Command} {lane : Lane} {e after : Engine σ}

/-- A worker can be followed from any time on. -/
theorem start (hlane : e.registry.laneOf? w = some lane) (hcancelled : lane.activity = .stopped → lane.isCancelled) :
    Serving w lane.worker (e.publishedBy w) lane.queue [] [] lane e where
  found := hlane
  queue := List.append_nil _
  stopped h := absurd rfl h
  cancelled := hcancelled
  worker := rfl
  published := (List.append_nil _).symm
  answers := List.nil_sublist _

theorem of_untouched (h : Serving w begun earlier accepted handled refused lane e) (hsame : Untouched w e after) :
    Serving w begun earlier accepted handled refused lane after :=
  { h with
    found := hsame.lane.trans h.found
    published := hsame.publishedBy.trans h.published
    answers := h.answers.trans (hsame.answers.sublist.append_right _) }

/-- A worker that is told to stop has done nothing else by that. -/
theorem cancel (h : Serving w begun earlier accepted handled refused lane e)
    (hlane : after.registry.laneOf? w = some { lane with isCancelled := true })
    (hpublished : after.published = e.published) (hanswers : after.answers = e.answers) :
    Serving w begun earlier accepted handled refused { lane with isCancelled := true } after where
  found := hlane
  queue := h.queue
  stopped := h.stopped
  cancelled _ := rfl
  worker := h.worker
  published := by rw [publishedBy, hpublished]; exact h.published
  answers := by rw [hanswers]; exact h.answers

/-- Nobody is refused by a worker that is not gone. -/
theorem refused_eq_nil_of_ne (h : Serving w begun earlier accepted handled refused lane e)
    (hgoes : lane.activity ≠ .stopped) : refused = [] := by
  by_contra hrefused
  exact hgoes (h.stopped hrefused)

/-- A worker goes on until it has been told to stop. -/
theorem activity_ne_stopped (h : Serving w begun earlier accepted handled refused lane e)
    (hkept : lane.isCancelled = false) : lane.activity ≠ .stopped := by
  intro hstopped
  rw [h.cancelled hstopped] at hkept
  cases hkept

theorem refused_eq_nil (h : Serving w begun earlier accepted handled refused lane e)
    (hkept : lane.isCancelled = false) : refused = [] :=
  h.refused_eq_nil_of_ne (h.activity_ne_stopped hkept)

theorem isAccepting (h : Serving w begun earlier accepted handled refused lane e)
    (hkept : lane.isCancelled = false) : lane.isAccepting :=
  Lane.isAccepting_iff.mpr (h.activity_ne_stopped hkept)

/-- A worker takes the first command of its queue, or none. -/
theorem worked (h : Serving w begun earlier accepted handled refused lane e) {world : Surroundings σ} {lingers : Bool}
    (hworked : Worked world w lingers e after) :
    ∃ refused' lane', lane'.devices = lane.devices ∧ lane'.isCancelled = lane.isCancelled ∧
      Serving w begun earlier accepted (handled ++ (e.handling world w lingers).toList) refused' lane' after := by
  have hfound (f : Lane → Lane) : (e.registry.modifyLaneOf w f).laneOf? w = some (f lane) := by
    rw [Registry.laneOf?_modifyLaneOf, if_pos rfl, h.found, Option.map_some]
  cases hworked with
  | idle hnone =>
    rw [hnone, Option.toList_none, List.append_nil]
    exact ⟨refused, lane, rfl, rfl, h⟩
  | @ended ended hlane hready hcancelled hlingers =>
    obtain rfl : lane = ended := Option.some.inj (h.found.symm.trans hlane)
    obtain rfl := h.refused_eq_nil_of_ne (by simp [hready])
    have hnone : e.handling world w lingers = none := by
      obtain ⟨devices, worker, queue, activity, isCancelled⟩ := lane
      cases hready
      cases queue with
      | nil => simp [handling, hlane]
      | cons => simpa [handling, hlane] using ⟨hcancelled, hlingers⟩
    have hanswers := h.answers
    have hqueue := h.queue
    rw [hready, Activity.owed_ready, List.append_nil, refusals, List.flatMap_nil, List.append_nil] at hanswers
    rw [List.append_nil] at hqueue
    rw [hnone, Option.toList_none, List.append_nil]
    refine ⟨lane.queue, { lane with queue := [], activity := .stopped }, rfl, rfl, hfound _, hqueue, fun _ => rfl,
      fun _ => hcancelled, h.worker, h.published, ?_⟩
    exact (hanswers.append_right _).trans (List.sublist_append_left _ _)
  | @delivered owing delivery ticket result hlane hactivity =>
    obtain rfl : lane = owing := Option.some.inj (h.found.symm.trans hlane)
    obtain rfl := h.refused_eq_nil_of_ne (by simp [hactivity])
    have hnone : e.handling world w lingers = none := by
      obtain ⟨devices, worker, queue, activity, isCancelled⟩ := lane
      cases hactivity
      cases queue <;> simp [handling, hlane]
    have hanswers := h.answers
    rw [hactivity, Activity.owed_delivering] at hanswers
    rw [hnone, Option.toList_none, List.append_nil]
    refine ⟨[], { lane with activity := .ready }, rfl, rfl, hfound _, h.queue, fun h => absurd rfl h, by simp,
      h.worker, h.published, ?_⟩
    rw [Activity.owed_ready, List.append_nil]
    exact hanswers
  | @handled ready k queue f activity timeline given hlane hready hgoes hqueue hthresholds hf hgiven =>
    obtain rfl : lane = ready := Option.some.inj (h.found.symm.trans hlane)
    obtain rfl := h.refused_eq_nil_of_ne (by simp [hready])
    rw [handling_of_ready hlane hready hgoes hqueue hthresholds, Option.toList_some]
    have hnotStopped : (f lane).activity ≠ .stopped := by
      rw [hf]
      rcases hgiven with ⟨rfl, -⟩ | ⟨⟨delivery, rfl⟩, -⟩ <;> simp
    refine ⟨[], f lane, by rw [hf], by rw [hf], hfound f, ?_, fun h => absurd rfl h, fun h => absurd h hnotStopped,
      ?_, ?_, ?_⟩
    · rw [hf, ← h.queue, hqueue, List.map_append, List.append_assoc]
      rfl
    · rw [hf, List.map_append, List.map_singleton, Worker.replay_concat, h.worker]
      rfl
    · rw [publishedBy, publishedBy_append, if_pos rfl, List.map_append, List.map_singleton,
        Worker.publications_append, h.published, h.worker, List.append_assoc]
      exact congrArg (fun ps => earlier ++ (_ ++ ps)) (List.append_nil _).symm
    · have hanswers := h.answers
      have hnobody : refusals w.location [] = [] := rfl
      rw [hready, Activity.owed_ready, List.append_nil, hnobody, List.append_nil] at hanswers
      have hpassed : given ++ activity.owed =
          replyTo k.command.ticket (lane.worker.handle k.observation k.thresholds).2.answer := by
        rcases hgiven with ⟨rfl, rfl⟩ | ⟨⟨delivery, rfl⟩, rfl⟩
        · exact List.append_nil _
        · rfl
      rw [hf, hnobody, List.append_nil, Worker.replies_concat, ← h.worker, List.append_assoc, hpassed]
      exact hanswers.append_right _

theorem entered (h : Serving w begun earlier accepted handled refused lane e) {c : Command} {p : Progress}
    (hentered : Entered w c e p after) :
    ∃ lane', lane'.devices = lane.devices ∧ lane'.isCancelled = lane.isCancelled ∧
      Serving w begun earlier (accepted ++ (p.entry c.observation).toList) handled refused lane' after := by
  cases hentered with
  | blocked =>
    rw [Progress.entry, Option.toList_none, List.append_nil]
    exact ⟨lane, rfl, rfl, h⟩
  | refused hclosed =>
    rw [Progress.entry, Option.toList_none, List.append_nil]
    exact ⟨lane, rfl, rfl, h⟩
  | @entered found woken hlane haccepting =>
    obtain rfl : lane = found := Option.some.inj (h.found.symm.trans hlane)
    rw [Progress.entry_ofEntry, Option.toList_some]
    obtain rfl := h.refused_eq_nil_of_ne (Lane.isAccepting_iff.mp haccepting)
    refine ⟨{ lane with queue := lane.queue ++ [c] }, rfl, rfl, ?_, ?_, h.stopped, h.cancelled, h.worker, h.published,
      h.answers⟩
    · rw [Registry.enqueue, Registry.laneOf?_modifyLaneOf, if_pos rfl, h.found, Option.map_some]
    · rw [← h.queue, List.append_nil, List.append_nil, List.append_assoc]

end Serving

namespace Engine

variable {w v : WorkerId} {e after : Engine σ} {accepted : List Command} {handled : List Handling}

/-- What has happened to a worker is that it has been given some commands, and has handled some. -/
structure Carries (w : WorkerId) (accepted : List Command) (handled : List Handling) (e after : Engine σ) : Prop where
  absent : e.registry.laneOf? w = none → after.registry.laneOf? w = none
  /-- Nothing happens to a worker that is not there, or gone. -/
  gone : (∀ lane ∈ e.registry.laneOf? w, lane.activity = .stopped) →
    after.registry.laneOf? w = e.registry.laneOf? w ∧ accepted = [] ∧ handled = [] ∧
      after.publishedBy w = e.publishedBy w
  serving : ∀ {begun earlier accepted' handled' refused lane},
    Serving w begun earlier accepted' handled' refused lane e →
      ∃ refused' lane', lane'.devices = lane.devices ∧ lane'.isCancelled = lane.isCancelled ∧
        Serving w begun earlier (accepted' ++ accepted) (handled' ++ handled) refused' lane' after

theorem Carries.trans {accepted' : List Command} {handled' : List Handling} {later : Engine σ}
    (h : Carries w accepted handled e after) (hlater : Carries w accepted' handled' after later) :
    Carries w (accepted ++ accepted') (handled ++ handled') e later where
  absent hnone := hlater.absent (h.absent hnone)
  gone hgone := by
    obtain ⟨hafter, rfl, rfl, hpublished⟩ := h.gone hgone
    obtain ⟨hlast, rfl, rfl, hpublished'⟩ := hlater.gone (hafter ▸ hgone)
    exact ⟨hlast.trans hafter, rfl, rfl, hpublished'.trans hpublished⟩
  serving hserving := by
    obtain ⟨refused, lane, hdevices, hcancelled, hserving⟩ := h.serving hserving
    obtain ⟨refused', lane', hdevices', hcancelled', hserving'⟩ := hlater.serving hserving
    rw [List.append_assoc, List.append_assoc] at hserving'
    exact ⟨refused', lane', hdevices'.trans hdevices, hcancelled'.trans hcancelled, hserving'⟩

theorem Untouched.carries (h : Untouched w e after) : Carries w [] [] e after where
  absent hnone := h.lane.trans hnone
  gone _ := ⟨h.lane, rfl, rfl, h.publishedBy⟩
  serving hserving := by
    rw [List.append_nil, List.append_nil]
    exact ⟨_, _, rfl, rfl, hserving.of_untouched h⟩

theorem Worked.carries {world : Surroundings σ} {lingers : Bool} (h : Worked world v lingers e after) (w : WorkerId) :
    Carries w [] (if v = w then e.handling world w lingers else none).toList e after := by
  by_cases hv : v = w
  · subst hv
    rw [if_pos rfl]
    constructor
    · intro hnone
      cases h with
      | idle => exact hnone
      | ended hlane | delivered hlane | handled hlane => cases hnone.symm.trans hlane
    · intro hgone
      cases h with
      | idle hidle =>
        rw [hidle]
        exact ⟨rfl, rfl, rfl, rfl⟩
      | ended hlane hactivity | delivered hlane hactivity | handled hlane hactivity =>
        cases hactivity.symm.trans (hgone _ hlane)
    · intro _ _ _ _ _ _ hserving
      rw [List.append_nil]
      exact hserving.worked h
  · rw [if_neg hv]
    exact (h.untouched (Ne.symm hv)).carries

theorem Entered.carries {c : Command} {p : Progress} (h : Entered v c e p after) (w : WorkerId) :
    Carries w (if v = w then p.entry c.observation else none).toList [] e after := by
  by_cases hv : v = w
  · subst hv
    rw [if_pos rfl]
    constructor
    · intro hnone
      cases h with
      | blocked | refused => exact hnone
      | entered hlane => cases hnone.symm.trans hlane
    · intro hgone
      cases h with
      | blocked | refused => exact ⟨rfl, rfl, rfl, rfl⟩
      | entered hlane haccepting =>
        exact absurd (hgone _ hlane) (Lane.isAccepting_iff.mp haccepting)
    · intro _ _ _ _ refused _ hserving
      obtain ⟨lane', hdevices, hcancelled, hserving⟩ := hserving.entered h
      rw [List.append_nil]
      exact ⟨refused, lane', hdevices, hcancelled, hserving⟩
  · rw [if_neg hv]
    exact (h.untouched (Ne.symm hv)).carries

end Engine

namespace Serving

variable {w : WorkerId} {begun : Worker} {earlier : List (Analysis Float)} {accepted : List Command}
  {handled : List Handling} {refused : List Command} {lane : Lane} {s : System σ}

/-- Who waits for the worker has not been answered. -/
theorem lookup_answers_eq_none (hs : s.Numbered) (hlane : s.engine.registry.laneOf? w = some lane) {n : Nat}
    (hn : n ∈ lane.tickets) : s.engine.answers.lookup n = none := by
  have hnodup := List.nodup_append.mp (List.nodup_append.mp hs.nodup).1
  have htickets := Registry.mem_tickets hs.keyed hlane hn
  rw [List.lookup_eq_none_iff]
  rintro ⟨m, answer⟩ hmem
  have hne := hnodup.2.2 m (List.mem_map.mpr ⟨_, hmem, rfl⟩) n htickets
  simpa using Ne.symm hne

/-- What has been handled has been answered, unless the answer waits for a delivery; and so it is with what has been
refused. -/
theorem lookup_answers (hs : s.Numbered) (h : Serving w begun earlier accepted handled refused lane s.engine) {n : Nat}
    {answer : Except EngineError Judgement}
    (hmem : (n, answer) ∈ begun.replies handled ++ refusals w.location refused) :
    s.engine.answers.lookup n = some answer ∨
      (s.engine.answers.lookup n = none ∧ ∃ delivery, lane.activity = .delivering delivery (some n) answer) := by
  have hnodup := (List.nodup_append.mp (List.nodup_append.mp hs.nodup).1).1
  rcases List.mem_append.mp (h.answers.subset hmem) with hgiven | howed
  · exact .inl (Keyed.lookup_of_mem hnodup hgiven)
  · right
    cases hactivity : lane.activity with
    | ready =>
      rw [hactivity] at howed
      exact absurd howed List.not_mem_nil
    | stopped =>
      rw [hactivity] at howed
      exact absurd howed List.not_mem_nil
    | delivering delivery ticket result =>
      rw [hactivity, Activity.owed_delivering] at howed
      obtain ⟨m, rfl, hm⟩ : ∃ m, ticket = some m ∧ (m, result) = (n, answer) := by
        simpa [replyTo] using howed
      cases hm
      refine ⟨lookup_answers_eq_none hs h.found ?_, delivery, rfl⟩
      rw [Lane.tickets, hactivity]
      exact List.mem_append_right _ (by simp)

/-- No two commands that were accepted have one number. -/
theorem nodup_tickets (hs : s.Numbered) (h : Serving w begun earlier accepted handled refused lane s.engine) :
    (accepted.filterMap Command.ticket).Nodup := by
  rw [List.nodup_iff_count_le_one]
  intro n
  have hlane := (Registry.tickets_perm hs.keyed w).count_eq n
  have hanswers := (h.answers.map Prod.fst).count_le n
  have honce := List.nodup_iff_count_le_one.mp hs.nodup n
  rw [h.found, Option.map_some, Option.getD_some, Lane.tickets] at hlane
  rw [List.map_append, List.map_append, Worker.map_fst_replies, map_fst_refusals] at hanswers
  rw [System.issued, Engine.issued] at honce
  rw [← h.queue, List.filterMap_append, List.filterMap_append]
  simp only [List.count_append] at hlane hanswers honce ⊢
  omega

/-- A caller whose command was accepted has the answer of the worker, was refused, or has none yet. -/
theorem answered_of_accepted (hs : s.Numbered)
    (h : Serving w begun earlier accepted handled refused lane s.engine) {c : Command} (hc : c ∈ accepted) {n : Nat}
    (hticket : c.ticket = some n) {answer : Except EngineError Judgement}
    (hanswer : s.engine.answers.lookup n = some answer) :
    (n, answer) ∈ begun.replies handled ∨ (c ∈ refused ∧ answer = .error (.workerStopped w.location)) := by
  rw [← h.queue, List.mem_append, List.mem_append] at hc
  have hgiven {answer' : Except EngineError Judgement}
      (hmem : (n, answer') ∈ begun.replies handled ++ refusals w.location refused) : answer' = answer := by
    rcases h.lookup_answers hs hmem with hsome | ⟨hnone, -⟩
    · exact Option.some.inj (hsome.symm.trans hanswer)
    · cases hnone.symm.trans hanswer
  rcases hc with hhandled | hqueue | hrefused
  · left
    have hnumber : n ∈ (begun.replies handled).map Prod.fst := by
      rw [Worker.map_fst_replies]
      exact List.mem_filterMap.mpr ⟨c, hhandled, hticket⟩
    obtain ⟨⟨_, answer'⟩, hmem, rfl⟩ := List.mem_map.mp hnumber
    rwa [← hgiven (List.mem_append_left _ hmem)]
  · have hnone := lookup_answers_eq_none hs h.found
      (List.mem_append_left _ (List.mem_filterMap.mpr ⟨c, hqueue, hticket⟩))
    cases hnone.symm.trans hanswer
  · right
    refine ⟨hrefused, (hgiven (List.mem_append_right _ ?_)).symm⟩
    rw [refusals, List.mem_flatMap]
    exact ⟨c, hrefused, by simp [replyTo, hticket]⟩

end Serving

end Waterway
