import Mathlib.Data.List.Induction
import Waterway.Proofs.Site
import Waterway.Registry.Basic

/-!
# Handling commands one at a time

The outcome of a sequence of commands that are handled one after the other, with the thresholds that were
had for each, said without a queue, a worker or a clock.

## Main definitions

- `Handling` — a command with the thresholds that were had for it
- `Account` — what has come of some commands: the site, what readers see, the publications, the answers
- `Account.next`, `Account.replay` — one more command; all of them in order
- `Worker.replay`, `Worker.publications`, `Worker.replies` — the worker after the same observations, what it has handed
  over, and whom it has answered what

## Main statements

- `Account.worker_next` — a worker does to its site what the account says
- `Account.published_next`, `Account.answers_next` — and so are its publications and answers
- `Worker.exists_of_mem_replies` — every answer is the outcome of one observation after those before it
- `Worker.shown_replay_concat` — what readers see after a judgement depends on the observations and the
  last thresholds alone
- `Account.judged_replay` — with the same thresholds each time, the site is judged on its present evidence
- `Account.of_mem_published` — every publication judges the statuses that were the latest then
-/

namespace Waterway

open Decimal

/-- A command with the thresholds that were had for it. -/
structure Handling where
  command : Command
  thresholds : Except EngineError Thresholds

/-- The observation that was handled. -/
def Handling.observation (h : Handling) : Observation Float :=
  h.command.observation

/-- The observation and the thresholds, whoever waits for the outcome. -/
def Handling.step (h : Handling) : Observation Float × Except EngineError Thresholds :=
  (h.observation, h.thresholds)

/-- The answer to a caller, under the number of the call, if one waits. -/
def replyTo (ticket : Option Nat) (result : Except EngineError Judgement) :
    List (Nat × Except EngineError Judgement) :=
  (ticket.map fun n => (n, result)).toList

/-- What has come of the commands of a location that were handled one at a time. -/
structure Account where
  /-- The worker's own state of the site. -/
  site : Site Float
  /-- The state that readers see. -/
  shown : Site Float
  /-- The analyses handed to the publisher. -/
  published : List (Analysis Float) := []
  /-- The answers to the callers who wait. -/
  answers : List (Nat × Except EngineError Judgement) := []

namespace Account

def start (site : Site Float) : Account :=
  { site, shown := site }

/-- One more command. The observation takes its place in any case. With thresholds the evidence is judged
by them, readers see the outcome, the analysis is published if all three feeds have reported, and the
answer is the judgement. Without thresholds the answer is the error, and nobody else notices anything. -/
def next (a : Account) (h : Handling) : Account :=
  let evidence := a.site.evidence.put h.observation
  match h.thresholds with
  | .error e =>
    { a with
      site := { a.site with evidence }
      answers := a.answers ++ replyTo h.command.ticket (.error e) }
  | .ok t =>
    let judgement := judge evidence t
    let analysis := evidence.analysis? judgement
    let site : Site Float := { evidence, judgement, analysis := analysis.or a.site.analysis }
    { site, shown := site
      published := a.published ++ analysis.toList
      answers := a.answers ++ replyTo h.command.ticket (.ok judgement) }

/-- What has come of a sequence of commands. -/
def replay (site : Site Float) (handled : List Handling) : Account :=
  handled.foldl next (.start site)

/-- The worker with the state that an account tells of. -/
def worker (a : Account) : Worker :=
  ⟨a.site, a.shown⟩

@[simp]
theorem replay_concat (site : Site Float) (handled : List Handling) (h : Handling) :
    replay site (handled ++ [h]) = (replay site handled).next h := by
  simp [replay]

/-- A worker does to its site what the account says. -/
theorem worker_next (a : Account) (h : Handling) :
    (a.next h).worker = (a.worker.handle h.observation h.thresholds).1 := by
  obtain ⟨command, thresholds⟩ := h
  cases thresholds <;> rfl

/-- A worker answers what the account says. -/
theorem answers_next (a : Account) (h : Handling) :
    (a.next h).answers =
      a.answers ++ replyTo h.command.ticket (a.worker.handle h.observation h.thresholds).2.answer := by
  obtain ⟨command, thresholds⟩ := h
  cases thresholds <;> rfl

theorem reachable_next {a : Account} (ha : a.site.Reachable) (h : Handling) :
    (a.next h).site.Reachable := by
  obtain ⟨command, thresholds⟩ := h
  cases thresholds with
  | error e => exact ha.apply command.observation
  | ok t => exact (ha.apply command.observation).recompute t

theorem reachable_replay {site : Site Float} (hsite : site.Reachable) (handled : List Handling) :
    (replay site handled).site.Reachable := by
  induction handled using List.reverseRecOn with
  | nil => exact hsite
  | append_singleton handled h ih =>
    rw [replay_concat]
    exact reachable_next ih h

/-- A worker publishes what the account says: its analysis is there only if all feeds have reported, and
then it is of the present evidence. -/
theorem published_next {a : Account} (ha : a.site.Reachable) (h : Handling) :
    (a.next h).published =
      a.published ++ (a.worker.handle h.observation h.thresholds).2.publication.toList := by
  obtain ⟨command, thresholds⟩ := h
  cases thresholds with
  | error e => simp [next, Worker.handle]
  | ok t =>
    have hanalysis := (ha.apply command.observation).analysis_recompute t
    exact congrArg (a.published ++ ·.toList) hanalysis.symm

end Account

namespace Worker

/-- The worker after some observations, each with the thresholds that were had for it. -/
def replay (w : Worker) (steps : List (Observation Float × Except EngineError Thresholds)) : Worker :=
  steps.foldl (fun w step => (w.handle step.1 step.2).1) w

@[simp]
theorem replay_concat (w : Worker) (steps : List (Observation Float × Except EngineError Thresholds))
    (step : Observation Float × Except EngineError Thresholds) :
    w.replay (steps ++ [step]) = ((w.replay steps).handle step.1 step.2).1 := by
  simp [replay]

/-- The analyses that a worker hands over for some observations. -/
def publications (w : Worker) : List (Observation Float × Except EngineError Thresholds) → List (Analysis Float)
  | [] => []
  | step :: steps =>
    let (w, handled) := w.handle step.1 step.2
    handled.publication.toList ++ w.publications steps

/-- The answers to the callers who wait for the outcome of some commands. -/
def replies (w : Worker) : List Handling → List (Nat × Except EngineError Judgement)
  | [] => []
  | h :: hs =>
    let (w, handled) := w.handle h.observation h.thresholds
    replyTo h.command.ticket handled.answer ++ w.replies hs

theorem publications_append (w : Worker) (steps later : List (Observation Float × Except EngineError Thresholds)) :
    w.publications (steps ++ later) = w.publications steps ++ (w.replay steps).publications later := by
  induction steps generalizing w with
  | nil => rfl
  | cons step steps ih =>
    simp only [List.cons_append, publications, ih, List.append_assoc]
    rfl

@[simp]
theorem replies_concat (w : Worker) (handled : List Handling) (h : Handling) :
    w.replies (handled ++ [h]) = w.replies handled ++
      replyTo h.command.ticket ((w.replay (handled.map Handling.step)).handle h.observation h.thresholds).2.answer := by
  induction handled generalizing w with
  | nil => exact List.append_nil _
  | cons first handled ih =>
    simp only [List.cons_append, replies, ih, List.append_assoc]
    rfl

/-- Every caller who waits is answered once. -/
theorem map_fst_replies (w : Worker) (handled : List Handling) :
    (w.replies handled).map Prod.fst = (handled.map Handling.command).filterMap Command.ticket := by
  induction handled using List.reverseRecOn with
  | nil => rfl
  | append_singleton handled h ih =>
    rw [replies_concat, List.map_append, ih, List.map_append, List.filterMap_append]
    cases hticket : h.command.ticket <;> simp [replyTo, hticket]

/-- Every answer is the outcome of one observation after those before it. -/
theorem exists_of_mem_replies {w : Worker} {handled : List Handling} {n : Nat} {answer : Except EngineError Judgement}
    (hmem : (n, answer) ∈ w.replies handled) :
    ∃ before h later, handled = before ++ h :: later ∧ h.command.ticket = some n ∧
      answer = ((w.replay (before.map Handling.step)).handle h.observation h.thresholds).2.answer := by
  induction handled using List.reverseRecOn with
  | nil => cases hmem
  | append_singleton handled h ih =>
    rw [replies_concat, List.mem_append] at hmem
    rcases hmem with hearlier | hlast
    · obtain ⟨before, k, later, rfl, hrest⟩ := ih hearlier
      exact ⟨before, k, later ++ [h], by rw [List.append_assoc, List.cons_append], hrest⟩
    · obtain ⟨m, hticket, hm⟩ : ∃ m, h.command.ticket = some m ∧ (m, _) = (n, answer) := by
        simpa [replyTo] using hlast
      cases hm
      exact ⟨handled, h, [], rfl, hticket, rfl⟩

theorem evidence_replay (w : Worker) (steps : List (Observation Float × Except EngineError Thresholds)) :
    (w.replay steps).site.evidence = (steps.map Prod.fst).foldl Evidence.put w.site.evidence := by
  induction steps using List.reverseRecOn with
  | nil => rfl
  | append_singleton steps step ih =>
    obtain ⟨o, thresholds⟩ := step
    rw [replay_concat, List.map_append, List.foldl_append, ← ih]
    cases thresholds <;> rfl

end Worker

namespace Account

theorem worker_replay (site : Site Float) (handled : List Handling) :
    (replay site handled).worker = (Worker.start site).replay (handled.map Handling.step) := by
  induction handled using List.reverseRecOn with
  | nil => rfl
  | append_singleton handled h ih =>
    rw [replay_concat, worker_next, ih, List.map_append, List.map_singleton,
      Worker.replay_concat]
    rfl

theorem published_replay {site : Site Float} (hsite : site.Reachable) (handled : List Handling) :
    (replay site handled).published = (Worker.start site).publications (handled.map Handling.step) := by
  induction handled using List.reverseRecOn with
  | nil => rfl
  | append_singleton handled h ih =>
    rw [replay_concat, published_next (reachable_replay hsite handled), ih, worker_replay, List.map_append,
      Worker.publications_append]
    exact congrArg (_ ++ ·) (List.append_nil _).symm

theorem answers_replay (site : Site Float) (handled : List Handling) :
    (replay site handled).answers = (Worker.start site).replies handled := by
  induction handled using List.reverseRecOn with
  | nil => rfl
  | append_singleton handled h ih =>
    rw [replay_concat, answers_next, ih, worker_replay, Worker.replies_concat]

/-- Every observation takes its place, with thresholds or without. -/
theorem evidence_replay (site : Site Float) (handled : List Handling) :
    (replay site handled).site.evidence =
      (handled.map Handling.observation).foldl Evidence.put site.evidence := by
  have hworker := congrArg (·.site.evidence) (worker_replay site handled)
  rw [Worker.evidence_replay, List.map_map] at hworker
  exact hworker

/-- If the thresholds could be had for every command, and were the same each time, the site has been judged on
its present evidence, and this is what readers see. -/
theorem judged_replay {site : Site Float} {t : Thresholds} (hsite : site.Reachable)
    (hjudged : site = ({ evidence := site.evidence } : Site Float).recompute t) {handled : List Handling}
    (hall : ∀ h ∈ handled, h.thresholds = .ok t) :
    (replay site handled).site = Site.recompute { evidence := (replay site handled).site.evidence } t ∧
      (replay site handled).shown = (replay site handled).site := by
  -- only the last judgement counts
  cases handled using List.reverseRecOn with
  | nil => exact ⟨hjudged, rfl⟩
  | append_singleton earlier last =>
    have hworker := worker_next (replay site earlier) last
    rw [hall last (List.mem_append_right _ (List.mem_singleton_self _))] at hworker
    rw [replay_concat]
    have hlast : ((replay site earlier).next last).site =
        ((replay site earlier).site.apply last.observation).recompute t := congrArg Worker.site hworker
    have hshown : ((replay site earlier).next last).shown =
        ((replay site earlier).site.apply last.observation).recompute t := congrArg Worker.shown hworker
    rw [hshown, hlast]
    exact ⟨((reachable_replay hsite earlier).apply last.observation).recompute_eq t, rfl⟩

/-- What has been judged last is what readers see. -/
theorem shown_replay {site : Site Float} {handled : List Handling} {k : Handling} {t : Thresholds}
    (hlast : handled.getLast? = some k) (hthresholds : k.thresholds = .ok t) :
    (replay site handled).shown = (replay site handled).site := by
  obtain ⟨before, rfl⟩ := List.getLast?_eq_some_iff.mp hlast
  rw [replay_concat, next, hthresholds]

/-- Every publication judges the three latest statuses that had been handled, by thresholds that were had
for the last of them. -/
theorem of_mem_published {site : Site Float} {handled : List Handling} {a : Analysis Float}
    (h : a ∈ (replay site handled).published) :
    ∃ before k later t, handled = before ++ k :: later ∧ k.thresholds = .ok t ∧
      ((before ++ [k]).map Handling.observation).foldl Evidence.put site.evidence =
        ⟨some a.blockage, some a.waterLevel, some a.weather⟩ ∧
      a.judgement = judge ⟨some a.blockage, some a.waterLevel, some a.weather⟩ t := by
  induction handled using List.reverseRecOn with
  | nil => exact absurd h List.not_mem_nil
  | append_singleton handled k ih =>
    rw [replay_concat] at h
    have hcases : a ∈ (replay site handled).published ∨ ∃ t, k.thresholds = .ok t ∧
        ((replay site handled).site.evidence.put k.observation).analysis?
          (judge ((replay site handled).site.evidence.put k.observation) t) = some a := by
      cases hthresholds : k.thresholds with
      | error e =>
        simp only [next, hthresholds] at h
        exact .inl h
      | ok t =>
        simp only [next, hthresholds, List.mem_append, Option.mem_toList] at h
        exact h.imp_right fun hnew => ⟨t, rfl, hnew⟩
    rcases hcases with hearlier | ⟨t, hthresholds, hnew⟩
    · obtain ⟨before, k', later, t, rfl, hrest⟩ := ih hearlier
      exact ⟨before, k', later ++ [k], t, by rw [List.append_assoc, List.cons_append], hrest⟩
    · obtain ⟨hjudgement, hevidence⟩ := Evidence.of_analysis? hnew
      refine ⟨handled, k, [], t, rfl, hthresholds, ?_, ?_⟩
      · rw [List.map_append, List.foldl_append, ← evidence_replay]
        exact hevidence
      · rw [hjudgement, hevidence]

end Account

end Waterway
