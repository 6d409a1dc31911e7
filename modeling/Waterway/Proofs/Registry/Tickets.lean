import Mathlib.Data.List.Nodup
import Mathlib.Data.List.Perm.Basic
import Waterway.Proofs.Registry.Interleaving

/-!
# The numbers of calls

A call that waits for its judgement has a number. The number goes with the command: from the producer who
waits for room into a queue, from there to the worker, and at last to the answer. On this way it is never in
two places.

## Main definitions

- `Activity.owed` — the answer that a worker gives when its delivery has ended
- `Registry.tickets`, `Engine.issued`, `System.issued` — the numbers in the lanes, in the engine, anywhere
- `System.Numbered` — no number is in two places, and none has been given out yet that is to come

## Main statements

- `System.Reachable.numbered` — so it is in every system that has come about
-/

namespace Waterway

open Engine

/-- The answer that a worker gives when its delivery has ended. -/
def Activity.owed : Activity → List (Nat × Except EngineError Judgement)
  | .delivering _ ticket answer => replyTo ticket answer
  | _ => []

@[simp]
theorem Activity.owed_ready : Activity.ready.owed = [] :=
  rfl

@[simp]
theorem Activity.owed_delivering (delivery : Nat) (ticket : Option Nat)
    (answer : Except EngineError Judgement) :
    (Activity.delivering delivery ticket answer).owed = replyTo ticket answer :=
  rfl

/-- The numbers of the callers who wait for a worker. -/
def Lane.tickets (l : Lane) : List Nat :=
  l.queue.filterMap Command.ticket ++ l.activity.owed.map Prod.fst

/-- The number of a call that waits for room. -/
def Engine.Progress.waiting : Engine.Progress → List Nat
  | .blocked _ c => c.ticket.toList
  | _ => []

@[simp]
theorem map_fst_replyTo (ticket : Option Nat) (result : Except EngineError Judgement) :
    (replyTo ticket result).map Prod.fst = ticket.toList := by
  cases ticket <;> rfl

namespace Registry

/-- The numbers of the callers who wait for the workers. -/
def tickets (r : Registry) : List Nat :=
  r.staff.flatMap fun (_, l) => l.tickets

/-- The numbers of the callers who wait for other workers. -/
def ticketsElsewhere (r : Registry) (w : WorkerId) : List Nat :=
  (Keyed.erase w r.staff).flatMap fun (_, l) => l.tickets

/-- Those who wait for workers wait for this one, or for another. -/
theorem tickets_perm {r : Registry} (hr : r.IsKeyed) (w : WorkerId) :
    r.tickets.Perm (((r.laneOf? w).map Lane.tickets).getD [] ++ r.ticketsElsewhere w) := by
  have hperm := (Keyed.perm_erase w hr.staff).flatMap_right fun x => x.2.tickets
  rw [List.flatMap_append] at hperm
  rw [laneOf?_eq_lookup]
  cases hlane : r.staff.lookup w with
  | none =>
    rw [hlane] at hperm
    exact hperm
  | some lane =>
    rw [hlane, Option.map_some, Option.toList_some, List.flatMap_singleton] at hperm
    exact hperm

theorem mem_tickets {r : Registry} (hr : r.IsKeyed) {w : WorkerId} {lane : Lane} (hlane : r.laneOf? w = some lane)
    {n : Nat} (hn : n ∈ lane.tickets) : n ∈ r.tickets := by
  rw [(tickets_perm hr w).mem_iff, hlane]
  exact List.mem_append_left _ hn

theorem count_tickets_modifyLaneOf {r : Registry} (hr : r.IsKeyed) {w : WorkerId} {lane : Lane}
    (hlane : r.laneOf? w = some lane) (f : Lane → Lane) (n : Nat) :
    (r.modifyLaneOf w f).tickets.count n + lane.tickets.count n =
      r.tickets.count n + (f lane).tickets.count n := by
  have hbefore := (tickets_perm hr w).count_eq n
  have hafter := (tickets_perm (hr.modifyLaneOf w f) w).count_eq n
  have helsewhere : (r.modifyLaneOf w f).ticketsElsewhere w = r.ticketsElsewhere w := by
    rw [ticketsElsewhere, hr.staff_modifyLaneOf, Keyed.erase_update, ticketsElsewhere]
  rw [laneOf?_modifyLaneOf, if_pos rfl, hlane, helsewhere] at hafter
  rw [hlane] at hbefore
  simp only [Option.map_some, Option.getD_some, List.count_append] at hbefore hafter
  omega

/-- Whoever waits for a worker waits at a location, or for a worker that has left. -/
theorem tickets_eq (r : Registry) :
    r.tickets = (r.lanes.flatMap fun (_, l) => l.tickets) ++ r.former.flatMap fun (_, l) => l.tickets := by
  rw [tickets, staff, List.flatMap_append, List.flatMap_map]

/-- A new lane has no numbers in it, and those of the lane in whose place it comes stay with it. -/
theorem count_tickets_register {r : Registry} (hr : r.IsKeyed) (devices : Devices) (site : Site Float) (n : Nat) :
    (r.register devices site).tickets.count n = r.tickets.count n := by
  have hbefore := ((Keyed.perm_erase devices.location hr.lanes).flatMap_right fun x => x.2.tickets).count_eq n
  have hafter := ((Keyed.perm_erase devices.location
    (hr.register devices site).lanes).flatMap_right fun x => x.2.tickets).count_eq n
  have helsewhere : Keyed.erase devices.location (r.register devices site).lanes =
      Keyed.erase devices.location r.lanes := Keyed.erase_put _ _ _
  have hnew : (r.newLane devices site).tickets = [] := rfl
  have hlane : (r.register devices site).lanes.lookup devices.location = some (r.newLane devices site) :=
    Keyed.lookup_put_self _ _ _
  have hformer : (r.register devices site).former =
      r.former ++ ((r.lane? devices.location).map (r.leave devices.location)).toList := rfl
  rw [helsewhere, hlane] at hafter
  rw [tickets_eq, tickets_eq, hformer]
  cases hold : r.lane? devices.location with
  | none =>
    rw [show r.lanes.lookup devices.location = none from hold] at hbefore
    simp only [Option.map_some, Option.map_none, Option.toList_some, Option.toList_none, List.nil_append,
      List.flatMap_append, List.flatMap_singleton, List.append_nil, List.count_append, hnew] at hbefore hafter ⊢
    omega
  | some old =>
    have hleft : (r.leave devices.location old).2.tickets = old.tickets := rfl
    rw [show r.lanes.lookup devices.location = some old from hold] at hbefore
    simp only [Option.map_some, Option.toList_some, List.flatMap_append, List.flatMap_singleton, List.count_append,
      hnew, hleft, List.count_nil] at hbefore hafter ⊢
    omega

theorem count_tickets_resolve {r : Registry} (hr : r.IsKeyed) (location : LocationId) (n : Nat) :
    (r.resolve location).2.tickets.count n = r.tickets.count n := by
  rcases r.resolve_snd location with hsame | ⟨-, hnew⟩
  · rw [hsame]
  · rw [hnew, count_tickets_register hr]

/-- Whoever waits for a worker goes on waiting for it at the end. -/
theorem count_tickets_shutdown (r : Registry) (n : Nat) : r.shutdown.tickets.count n = r.tickets.count n := by
  have hleft : (r.lanes.map fun (location, l) => r.leave location l).flatMap (fun (_, l) => l.tickets) =
      r.lanes.flatMap fun (_, l) => l.tickets := by
    rw [List.flatMap_map]
    rfl
  rw [tickets_eq, tickets_eq, shutdown, List.flatMap_append, hleft]
  simp only [List.flatMap_nil, List.nil_append, List.count_append]
  omega

theorem IsKeyed.resolve {r : Registry} (h : r.IsKeyed) (location : LocationId) : (r.resolve location).2.IsKeyed := by
  rcases r.resolve_snd location with hsame | ⟨-, hnew⟩
  · rwa [hsame]
  · rw [hnew]
    exact h.register _ _

end Registry

namespace Engine

variable {σ : Type}

/-- The numbers of the callers who have been answered or wait for a worker. -/
def issued (e : Engine σ) : List Nat :=
  e.answers.map Prod.fst ++ e.registry.tickets

@[simp]
theorem map_fst_refusals (location : LocationId) (queue : List Command) :
    (refusals location queue).map Prod.fst = queue.filterMap Command.ticket := by
  induction queue with
  | nil => rfl
  | cons c queue ih =>
    rw [refusals, List.flatMap_cons, List.map_append, map_fst_replyTo, ← refusals, ih]
    cases hticket : c.ticket <;> simp [hticket]

theorem Worked.isKeyed {world : Surroundings σ} {w : WorkerId} {lingers : Bool} {e after : Engine σ}
    (h : Worked world w lingers e after) (hkeyed : e.registry.IsKeyed) : after.registry.IsKeyed := by
  cases h with
  | idle => exact hkeyed
  | ended => exact hkeyed.modifyLaneOf _ _
  | delivered => exact hkeyed.modifyLaneOf _ _
  | handled => exact hkeyed.modifyLaneOf _ _

theorem Worked.tickets_eq {world : Surroundings σ} {w : WorkerId} {lingers : Bool} {e after : Engine σ}
    (h : Worked world w lingers e after) : after.tickets = e.tickets := by
  cases h <;> rfl

theorem Entered.isKeyed {w : WorkerId} {c : Command} {e after : Engine σ} {p : Progress}
    (h : Entered w c e p after) (hkeyed : e.registry.IsKeyed) : after.registry.IsKeyed := by
  cases h with
  | blocked => exact hkeyed
  | refused => exact hkeyed
  | entered => exact hkeyed.modifyLaneOf _ _

theorem Entered.tickets_eq {w : WorkerId} {c : Command} {e after : Engine σ} {p : Progress}
    (h : Entered w c e p after) : after.tickets = e.tickets := by
  cases h <;> rfl

theorem Begun.isKeyed {call : Call} {e after : Engine σ} {p : Progress} (h : Begun call e p after)
    (hkeyed : e.registry.IsKeyed) : after.registry.IsKeyed := by
  cases h with
  | ended => exact hkeyed
  | entered hfound hentered => exact hentered.isKeyed (hkeyed.resolve call.location)

/-- A worker passes numbers on. -/
theorem Worked.issued_perm {world : Surroundings σ} {w : WorkerId} {lingers : Bool} {e after : Engine σ}
    (h : Worked world w lingers e after) (hkeyed : e.registry.IsKeyed) : after.issued.Perm e.issued := by
  rw [List.perm_iff_count]
  intro n
  cases h with
  | idle => rfl
  | ended hlane hready =>
    have hcount := Registry.count_tickets_modifyLaneOf hkeyed hlane
      (fun l => { l with queue := [], activity := .stopped }) n
    simp only [Lane.tickets, hready, Activity.owed, List.count_append, List.filterMap_nil, List.map_nil,
      List.count_nil] at hcount
    simp only [issued, List.map_append, map_fst_refusals, List.count_append]
    omega
  | delivered hlane hactivity =>
    have hcount := Registry.count_tickets_modifyLaneOf hkeyed hlane
      (fun l => { l with activity := .ready }) n
    simp only [Lane.tickets, hactivity, Activity.owed, List.count_append, map_fst_replyTo, List.map_nil,
      List.count_nil] at hcount
    simp only [issued, List.map_append, map_fst_replyTo, List.count_append]
    omega
  | @handled lane h queue f activity timeline given hlane hready hgoes hqueue hthresholds hf hgiven =>
    have hcount := Registry.count_tickets_modifyLaneOf hkeyed hlane f n
    have hfirst : (lane.queue.filterMap Command.ticket).count n =
        h.command.ticket.toList.count n + (queue.filterMap Command.ticket).count n := by
      rw [hqueue, ← List.count_append]
      cases hticket : h.command.ticket <;> simp [hticket]
    have hpassed : activity.owed.map Prod.fst ++ given.map Prod.fst = h.command.ticket.toList := by
      rcases hgiven with ⟨rfl, rfl⟩ | ⟨⟨delivery, rfl⟩, rfl⟩
      · exact map_fst_replyTo _ _
      · rw [List.map_nil, List.append_nil]
        exact map_fst_replyTo _ _
    have hpassed := congrArg (List.count n) hpassed
    simp only [hf, Lane.tickets, hready, Activity.owed, List.count_append, List.map_nil, List.count_nil,
      hfirst] at hcount hpassed
    simp only [issued, List.map_append, List.count_append]
    omega

/-- Who enters a queue brings one number along, or keeps it. -/
theorem Entered.count_issued_le {w : WorkerId} {c : Command} {e after : Engine σ} {p : Progress}
    (h : Entered w c e p after) (hkeyed : e.registry.IsKeyed) (n : Nat) :
    after.issued.count n + p.waiting.count n ≤ e.issued.count n + c.ticket.toList.count n := by
  cases h with
  | blocked => exact Nat.le_refl _
  | refused error => exact Nat.le_add_right _ _
  | @entered lane woken hlane haccepting =>
    have hcount := Registry.count_tickets_modifyLaneOf hkeyed hlane
      (fun l => { l with queue := l.queue ++ [c] }) n
    have hlast : ((lane.queue ++ [c]).filterMap Command.ticket).count n =
        (lane.queue.filterMap Command.ticket).count n + c.ticket.toList.count n := by
      rw [List.filterMap_append, List.count_append]
      cases hticket : c.ticket <;> simp [hticket]
    have hnone : (Progress.ofEntry w c).waiting = [] := by
      rw [Progress.ofEntry]
      cases c.ticket <;> rfl
    simp only [Lane.tickets, List.count_append, hlast] at hcount
    simp only [issued, Registry.enqueue, List.count_append, hnone, List.count_nil]
    omega

/-- A call that begins brings a new number along, or none. -/
theorem Begun.numbers {call : Call} {e after : Engine σ} {p : Progress} (h : Begun call e p after)
    (hkeyed : e.registry.IsKeyed) :
    ∃ fresh : Option Nat, (fresh = none ∨ fresh = some e.tickets) ∧
      after.tickets = e.tickets + fresh.toList.length ∧
      ∀ n, after.issued.count n + p.waiting.count n ≤ e.issued.count n + fresh.toList.count n := by
  cases h with
  | ended => exact ⟨none, .inl rfl, rfl, fun n => Nat.le_refl _⟩
  | entered hfound hentered =>
    refine ⟨call.ticket e, ?_, hentered.tickets_eq, ?_⟩
    · rw [Call.ticket]
      cases call.waits
      · exact .inl rfl
      · exact .inr rfl
    · intro n
      have hcount := hentered.count_issued_le (hkeyed.resolve call.location) n
      simp only [issued, List.count_append] at hcount ⊢
      rw [Registry.count_tickets_resolve hkeyed] at hcount
      exact hcount

end Engine

namespace System

variable {σ : Type}

/-- All numbers of calls that have been given out and are not forgotten. -/
def issued (s : System σ) : List Nat :=
  s.engine.issued ++ s.calls.flatMap Engine.Progress.waiting

/-- No number is in two places, and none has been given out yet that is to come. -/
structure Numbered (s : System σ) : Prop where
  keyed : s.engine.registry.IsKeyed
  nodup : s.issued.Nodup
  below : ∀ n ∈ s.issued, n < s.engine.tickets

/-- Where numbers only move, and at most one new one appears, none appears twice. -/
theorem Numbered.of_count_le {s after : System σ} (h : s.Numbered) {fresh : Option Nat}
    (hfresh : fresh = none ∨ fresh = some s.engine.tickets)
    (hkeyed : after.engine.registry.IsKeyed)
    (htickets : after.engine.tickets = s.engine.tickets + fresh.toList.length)
    (hcount : ∀ n, after.issued.count n ≤ s.issued.count n + fresh.toList.count n) : after.Numbered := by
  have honce := List.nodup_iff_count_le_one.mp h.nodup
  have hbelow (n : Nat) (hn : 0 < s.issued.count n) : n < s.engine.tickets :=
    h.below n (List.count_pos_iff.mp hn)
  -- how often a number is among the new ones
  have hnew (n : Nat) : fresh.toList.count n = 0 ∨
      (n = s.engine.tickets ∧ fresh.toList.count n = 1 ∧ fresh.toList.length = 1) := by
    rcases hfresh with rfl | rfl
    · exact .inl rfl
    · by_cases hn : n = s.engine.tickets
      · exact .inr ⟨hn, by simp [hn], rfl⟩
      · exact .inl (by simp [Ne.symm hn])
  refine ⟨hkeyed, ?_, ?_⟩
  · rw [List.nodup_iff_count_le_one]
    intro n
    have hle := hcount n
    have hone := honce n
    rcases hnew n with hzero | ⟨rfl, hfresh, -⟩
    · omega
    · have hnot := hbelow s.engine.tickets
      omega
  · intro n hn
    have hpos := Nat.lt_of_lt_of_le (List.count_pos_iff.mpr hn) (hcount n)
    rw [htickets]
    rcases hnew n with hzero | ⟨rfl, hfresh, hlength⟩
    · have hlt := hbelow n (by omega)
      omega
    · omega

/-- A call that has come further takes the place of the call as it was. -/
theorem count_waiting_set {calls : List Progress} {number : Nat} {p : Progress}
    (hp : calls[number]? = some p) (p' : Progress) (n : Nat) :
    ((calls.set number p').flatMap Progress.waiting).count n + p.waiting.count n =
      (calls.flatMap Progress.waiting).count n + p'.waiting.count n := by
  obtain ⟨hlt, rfl⟩ := List.getElem?_eq_some_iff.mp hp
  have hbefore := ((List.getElem_cons_eraseIdx_perm hlt).flatMap_right Progress.waiting).count_eq n
  have hafter := ((List.set_perm_cons_eraseIdx hlt p').flatMap_right Progress.waiting).count_eq n
  rw [List.flatMap_cons, List.count_append] at hbefore hafter
  omega

/-- A move keeps the numbers apart. -/
theorem Numbered.step (world : Surroundings σ) {s : System σ} (h : s.Numbered) (m : Move σ) :
    (s.step world m).Numbered := by
  cases m with
  | call c =>
    have hbegun := begun_begin c s.engine
    obtain ⟨fresh, hfresh, htickets, hcount⟩ := hbegun.numbers h.keyed
    refine h.of_count_le hfresh (hbegun.isKeyed h.keyed) htickets ?_
    intro n
    have hcount := hcount n
    simp only [System.step, issued, List.flatMap_append, List.flatMap_singleton, List.count_append]
    omega
  | retry number =>
    cases hcall : s.calls[number]? with
    | none =>
      rw [System.step, hcall]
      exact h
    | some p =>
      cases p with
      | ended result =>
        rw [step_retry world hcall rfl]
        exact h
      | pending w ticket =>
        rw [step_retry world hcall rfl]
        exact h
      | blocked w c =>
        rw [step_retry_blocked world hcall]
        have hentered := entered_tryEnqueue w c s.engine
        refine h.of_count_le (.inl rfl) (hentered.isKeyed h.keyed) hentered.tickets_eq ?_
        intro n
        have hcount := hentered.count_issued_le h.keyed n
        have hwaiting := count_waiting_set hcall ((tryEnqueue w c).run s.engine).1 n
        rw [Progress.waiting] at hwaiting
        simp only [issued, List.count_append]
        omega
  | work w lingers =>
    have hworked := worked_work world w lingers s.engine
    refine h.of_count_le (.inl rfl) (hworked.isKeyed h.keyed) hworked.tickets_eq ?_
    intro n
    have hcount := (hworked.issued_perm h.keyed).count_eq n
    simp only [System.step, issued, List.count_append]
    omega
  | register devices site =>
    obtain ⟨woken, hrun⟩ := run_register devices site s.engine
    refine h.of_count_le (.inl rfl) ?_ ?_ ?_
    · rw [System.step, hrun]
      exact h.keyed.register devices site
    · rw [System.step, hrun]
      rfl
    · intro n
      have hcount := Registry.count_tickets_register h.keyed devices site n
      simp only [System.step, hrun, issued, Engine.issued, List.count_append]
      omega
  | shutdown =>
    obtain ⟨woken, hrun⟩ := run_shutdown s.engine
    refine h.of_count_le (.inl rfl) ?_ ?_ ?_
    · rw [System.step, hrun]
      exact h.keyed.shutdown
    · rw [System.step, hrun]
      rfl
    · intro n
      have hcount := s.engine.registry.count_tickets_shutdown n
      simp only [System.step, hrun, issued, Engine.issued, List.count_append]
      omega
  | elsewhere timeline outside woken => exact ⟨h.keyed, h.nodup, h.below⟩

theorem Numbered.run (world : Surroundings σ) {s : System σ} (h : s.Numbered) (moves : List (Move σ)) :
    (s.run world moves).Numbered := by
  induction moves generalizing s with
  | nil => exact h
  | cons m moves ih => exact ih (h.step world m)

/-- In every system that has come about no number is in two places. -/
theorem Reachable.numbered {world : Surroundings σ} {s : System σ} (hs : s.Reachable world) :
    s.Numbered := by
  induction hs with
  | start settings publishTimeout timeline outside =>
    exact ⟨.empty settings, List.nodup_nil, fun n hn => absurd hn List.not_mem_nil⟩
  | step m _ ih => exact ih.step world m

end System

end Waterway
