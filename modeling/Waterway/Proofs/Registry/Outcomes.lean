import Waterway.Proofs.Registry.Admission

/-!
# What callers are told

A caller who does not wait for the judgement is done when its command is in a queue. One who waits is told what the
worker answers, and this depends on the commands before it in the line alone.

## Main definitions

- `System.outcome?` — what the caller of a call has been told so far
- `Standing` — how a call stands that was brought to a worker
- `System.AtRest` — a worker has nothing to do, and nobody waits for it
- `Outcome` — what a caller can have been told, by the place of its command in the line

## Main statements

- `System.calls_step` — a call that does not wait for room stays as it is
- `Standing.run` — who waits for room goes on waiting, gets in, or is refused
- `Serving.outcome` — a caller is told what the worker answers to its command after those before it, or is refused
- `Serving.isSome_outcome?` — where the worker is at rest, every caller has been told something
-/

namespace Waterway

open Engine

variable {σ : Type}

/-- What a caller has been told so far whose call has come so far. -/
def Engine.Progress.told? (e : Engine σ) : Progress → Option (Except EngineError (Option Judgement))
  | .ended result => some result
  | .blocked _ _ => none
  | .pending _ ticket => (e.answers.lookup ticket).map (Except.map some)

namespace System

variable {s : System σ} {number : Nat} {p : Progress} {w : WorkerId}

/-- What the caller of a call has been told so far. -/
def outcome? (s : System σ) (number : Nat) : Option (Except EngineError (Option Judgement)) :=
  s.calls[number]?.bind (Progress.told? s.engine)

theorem run_append_cons (world : Surroundings σ) (s : System σ) (before : List (Move σ)) (m : Move σ)
    (later : List (Move σ)) :
    s.run world (before ++ m :: later) = ((s.run world before).step world m).run world later :=
  List.foldl_append

theorem gather_append_cons {α : Type} (world : Surroundings σ) (see : System σ → Move σ → Option α) (s : System σ)
    (before : List (Move σ)) (m : Move σ) (later : List (Move σ)) :
    gather world see s (before ++ m :: later) = gather world see s before ++
      ((see (s.run world before) m).toList ++ gather world see ((s.run world before).step world m) later) :=
  gather_append world see s before (m :: later)

/-! ## Calls -/

/-- A call stays as it is until its caller tries again. -/
theorem calls_step_of_ne (world : Surroundings σ) (hcall : s.calls[number]? = some p) {m : Move σ}
    (hm : m ≠ .retry number) : (s.step world m).calls[number]? = some p := by
  obtain ⟨hlt, -⟩ := List.getElem?_eq_some_iff.mp hcall
  cases m with
  | call c => exact (List.getElem?_append_left hlt).trans hcall
  | retry other =>
    have hother : other ≠ number := fun heq => hm (congrArg Move.retry heq)
    rw [step]
    split
    · exact hcall
    · exact (List.getElem?_set_ne hother).trans hcall
  | work | register | shutdown | elsewhere => exact hcall

/-- A call that does not wait for room stays as it is. -/
theorem calls_step (world : Surroundings σ) (hcall : s.calls[number]? = some p) (hp : p.isBlocked = false)
    (m : Move σ) : (s.step world m).calls[number]? = some p := by
  by_cases hm : m = .retry number
  · rw [hm, step_retry world hcall hp]
    exact hcall
  · exact calls_step_of_ne world hcall hm

theorem calls_run (world : Surroundings σ) (hcall : s.calls[number]? = some p) (hp : p.isBlocked = false)
    (moves : List (Move σ)) : (s.run world moves).calls[number]? = some p := by
  induction moves generalizing s with
  | nil => exact hcall
  | cons m moves ih => exact ih (calls_step world hcall hp m)

/-- The call that begins is the last one. -/
theorem calls_step_call (world : Surroundings σ) (s : System σ) (c : Call) :
    (s.step world (.call c)).calls[s.calls.length]? = some ((begin c).run s.engine).1 :=
  List.getElem?_concat_length

end System

theorem Engine.Progress.isBlocked_ofEntry (w : WorkerId) (c : Command) : (Progress.ofEntry w c).isBlocked = false := by
  rw [Progress.ofEntry]
  cases c.ticket <;> rfl

/-- Who still waits for room waits for the same worker, and nothing has happened. -/
theorem Engine.Entered.eq_of_blocked {v w : WorkerId} {c k : Command} {e after : Engine σ}
    (h : Entered w c e (.blocked v k) after) : v = w ∧ after = e := by
  generalize hp : Progress.blocked v k = p at h
  cases h with
  | blocked =>
    cases hp
    exact ⟨rfl, rfl⟩
  | refused => cases hp
  | entered =>
    rw [Progress.ofEntry] at hp
    split at hp <;> cases hp

/-- How a call stands whose command was brought to a worker, which has accepted some commands since. -/
inductive Standing (w : WorkerId) (c : Command) (accepted : List Command) (e : Engine σ) : Progress → Prop where
  | waits (hfound : (e.registry.laneOf? w).isSome) : Standing w c accepted e (.blocked w c)
  | entered (hmem : c ∈ accepted) : Standing w c accepted e (.ofEntry w c)
  | refused {lane : Lane} (hlane : e.registry.laneOf? w = some lane) (hstopped : lane.activity = .stopped) :
      Standing w c accepted e (.ended (.error (.workerStopped w.location)))

namespace Standing

variable {w : WorkerId} {c : Command} {accepted : List Command} {e after : Engine σ} {s : System σ} {number : Nat}
  {p : Progress}

theorem of_entered (h : Entered w c e p after) (hfound : (e.registry.laneOf? w).isSome)
    (accepted : List Command) : Standing w c (accepted ++ (p.entry c.observation).toList) after p := by
  cases h with
  | blocked => exact .waits hfound
  | refused hclosed =>
    obtain ⟨lane, hlane⟩ := Option.isSome_iff_exists.mp hfound
    have hstopped := mt Lane.isAccepting_iff.mpr (hclosed lane hlane)
    exact .refused hlane (not_not.mp hstopped)
  | entered =>
    rw [Progress.entry_ofEntry, Option.toList_some]
    exact .entered (List.mem_append_right _ (List.mem_singleton_self c))

/-- Who waits for room goes on waiting, gets in, or is refused. -/
theorem step (h : Standing w c accepted s.engine p) (world : Surroundings σ) (hs : s.Numbered)
    (hcall : s.calls[number]? = some p) (m : Move σ) :
    ∃ p', (s.step world m).calls[number]? = some p' ∧
      Standing w c (accepted ++ (s.accepts w m).toList) (s.step world m).engine p' := by
  cases h with
  | entered hmem =>
    exact ⟨_, System.calls_step world hcall (Progress.isBlocked_ofEntry w c) m, .entered (List.mem_append_left _ hmem)⟩
  | refused hlane hstopped =>
    obtain ⟨lane', hlane', hbecomes⟩ := System.becomes_step world hs hlane m
    exact ⟨_, System.calls_step world hcall rfl m, .refused hlane' (hbecomes.stopped hstopped)⟩
  | waits hfound =>
    by_cases hm : m = .retry number
    · subst hm
      obtain ⟨hlt, -⟩ := List.getElem?_eq_some_iff.mp hcall
      rw [System.step_retry_blocked world hcall, System.accepts, hcall]
      simp only [if_true]
      exact ⟨_, List.getElem?_set_self hlt, of_entered (entered_tryEnqueue w c s.engine) hfound accepted⟩
    · obtain ⟨lane, hlane⟩ := Option.isSome_iff_exists.mp hfound
      obtain ⟨lane', hlane', -⟩ := System.becomes_step world hs hlane m
      exact ⟨_, System.calls_step_of_ne world hcall hm, .waits (by rw [hlane', Option.isSome_some])⟩

theorem run (h : Standing w c accepted s.engine p) (world : Surroundings σ) (hs : s.Numbered)
    (hcall : s.calls[number]? = some p) (moves : List (Move σ)) :
    ∃ p', (s.run world moves).calls[number]? = some p' ∧
      Standing w c (accepted ++ s.accepted world w moves) (s.run world moves).engine p' := by
  induction moves generalizing s accepted p with
  | nil =>
    simp only [System.accepted, System.gather, List.append_nil]
    exact ⟨p, hcall, h⟩
  | cons m moves ih =>
    obtain ⟨p', hcall', hstep⟩ := h.step world hs hcall m
    have hrun := ih hstep (hs.step world m) hcall'
    rw [List.append_assoc] at hrun
    exact hrun

end Standing

/-! ## The numbers of those who come -/

namespace System

variable {s : System σ} {w : WorkerId}

/-- Whoever comes gets the next number, or none. -/
theorem tickets_step (world : Surroundings σ) (w : WorkerId) (s : System σ) (m : Move σ) :
    s.engine.tickets ≤ (s.step world m).engine.tickets ∧
      ∀ c ∈ s.brings w m, ∀ n ∈ c.ticket, n = s.engine.tickets ∧ n < (s.step world m).engine.tickets := by
  have hsame {after : System σ} (h : after.engine.tickets = s.engine.tickets) :
      s.engine.tickets ≤ after.engine.tickets ∧
        ∀ c ∈ (none : Option Command), ∀ n ∈ c.ticket, n = s.engine.tickets ∧ n < after.engine.tickets :=
    ⟨Nat.le_of_eq h.symm, by simp⟩
  cases m with
  | call c =>
    have hbegun := begun_begin c s.engine
    rw [step, brings]
    generalize (begin c).run s.engine = begun at hbegun
    obtain ⟨p, after⟩ := begun
    cases hbegun with
    | ended hnone =>
      have hnot : s.engine.registry.found? c.location ≠ some w := by
        simp [hnone]
      rw [if_neg hnot]
      exact hsame rfl
    | entered hfound hentered =>
      have htickets : after.tickets = s.engine.tickets + (c.ticket s.engine).toList.length := hentered.tickets_eq
      refine ⟨Nat.le_trans (Nat.le_add_right _ _) (Nat.le_of_eq htickets.symm), fun k hk n hn => ?_⟩
      split at hk
      · obtain rfl := Option.some.inj hk
        obtain ⟨hwaits, rfl⟩ : c.waits ∧ s.engine.tickets = n := by simpa [Call.ticket] using hn
        refine ⟨rfl, ?_⟩
        rw [htickets, Call.ticket, if_pos hwaits]
        exact Nat.lt_succ_self _
      · cases hk
  | retry number =>
    refine hsame ?_
    cases hcall : s.calls[number]? with
    | none => rw [step, hcall]
    | some p =>
      cases p with
      | ended result => rw [step_retry world hcall rfl]
      | pending v ticket => rw [step_retry world hcall rfl]
      | blocked v c =>
        rw [step_retry_blocked world hcall]
        exact (entered_tryEnqueue v c s.engine).tickets_eq
  | work v lingers => exact hsame (worked_work world v lingers s.engine).tickets_eq
  | register devices site =>
    obtain ⟨woken, hrun⟩ := run_register devices site s.engine
    exact hsame (by rw [step, hrun])
  | shutdown =>
    obtain ⟨woken, hrun⟩ := run_shutdown s.engine
    exact hsame (by rw [step, hrun])
  | elsewhere => exact hsame rfl

/-- The numbers of those who come in a run are given out in the run. -/
theorem tickets_run (world : Surroundings σ) (w : WorkerId) (s : System σ) (moves : List (Move σ)) :
    s.engine.tickets ≤ (s.run world moves).engine.tickets ∧
      ∀ c ∈ s.brought world w moves, ∀ n ∈ c.ticket,
        s.engine.tickets ≤ n ∧ n < (s.run world moves).engine.tickets := by
  induction moves generalizing s with
  | nil => exact ⟨Nat.le_refl _, fun c hc => absurd hc List.not_mem_nil⟩
  | cons m moves ih =>
    obtain ⟨hle, hfirst⟩ := tickets_step world w s m
    obtain ⟨hle', hrest⟩ := ih (s.step world m)
    refine ⟨Nat.le_trans hle hle', fun c hc n hn => ?_⟩
    rcases List.mem_append.mp hc with hmem | hmem
    · obtain ⟨rfl, hlt⟩ := hfirst c (Option.mem_toList.mp hmem) n hn
      exact ⟨Nat.le_refl _, Nat.lt_of_lt_of_le hlt hle'⟩
    · obtain ⟨hfrom, hlt⟩ := hrest c hmem n hn
      exact ⟨Nat.le_trans hle hfrom, hlt⟩

/-- Those who wait have numbers that have been given out. -/
theorem Numbered.lt_of_mem_waiting (hs : s.Numbered) {c : Command} (hc : c ∈ s.waiting w) {n : Nat}
    (hn : n ∈ c.ticket) : n < s.engine.tickets := by
  obtain ⟨p, hp, hwaits⟩ := List.mem_filterMap.mp hc
  refine hs.below n (List.mem_append_right _ (List.mem_flatMap.mpr ⟨p, hp, ?_⟩))
  cases p with
  | ended result => cases hwaits
  | pending v ticket => cases hwaits
  | blocked v k =>
    obtain ⟨-, rfl⟩ : v = w ∧ k = c := by simpa [Progress.waitsFor] using hwaits
    exact Option.mem_toList.mpr hn

theorem isSome_laneOf?_step (world : Surroundings σ) (hs : s.Numbered)
    (h : ∀ v c, .blocked v c ∈ s.calls → (s.engine.registry.laneOf? v).isSome) (m : Move σ) {v : WorkerId} {c : Command}
    (hmem : .blocked v c ∈ (s.step world m).calls) : ((s.step world m).engine.registry.laneOf? v).isSome := by
  have hstays (hfound : (s.engine.registry.laneOf? v).isSome) :
      ((s.step world m).engine.registry.laneOf? v).isSome := by
    obtain ⟨l, hl⟩ := Option.isSome_iff_exists.mp hfound
    obtain ⟨l', hl', -⟩ := becomes_step world hs hl m
    rw [hl', Option.isSome_some]
  cases m with
  | call call =>
    rcases List.mem_append.mp hmem with hold | hnew
    · exact hstays (h v c hold)
    · have hbegun := begun_begin call s.engine
      show (((begin call).run s.engine).2.registry.laneOf? v).isSome
      have hlast := List.mem_singleton.mp hnew
      generalize (begin call).run s.engine = begun at hbegun hlast
      obtain ⟨p, after⟩ := begun
      obtain rfl : .blocked v c = p := hlast
      cases hbegun with
      | entered hfound hentered =>
        obtain ⟨rfl, rfl⟩ := hentered.eq_of_blocked
        exact Registry.isSome_laneOf?_of_found? hfound
  | retry number =>
    cases hcall : s.calls[number]? with
    | none =>
      rw [step, hcall] at hmem
      exact hstays (h v c hmem)
    | some p =>
      have hat := List.mem_of_getElem? hcall
      cases p with
      | ended result =>
        rw [step_retry world hcall rfl] at hmem
        exact hstays (h v c hmem)
      | pending w ticket =>
        rw [step_retry world hcall rfl] at hmem
        exact hstays (h v c hmem)
      | blocked w k =>
        have hentered := entered_tryEnqueue w k s.engine
        rw [step_retry_blocked world hcall] at hmem
        rcases List.mem_or_eq_of_mem_set hmem with hold | hnew
        · exact hstays (h v c hold)
        · generalize (tryEnqueue w k).run s.engine = tried at hentered hnew
          obtain ⟨p, after⟩ := tried
          obtain rfl : .blocked v c = p := hnew
          obtain ⟨rfl, rfl⟩ := hentered.eq_of_blocked
          exact hstays (h v k hat)
  | work | register | shutdown | elsewhere => exact hstays (h v c hmem)

/-- Whoever waits has found a worker. -/
theorem Reachable.isSome_laneOf?_of_waiting {world : Surroundings σ} (hs : s.Reachable world)
    (hwaits : s.waiting w ≠ []) : (s.engine.registry.laneOf? w).isSome := by
  have hall : ∀ v c, .blocked v c ∈ s.calls → (s.engine.registry.laneOf? v).isSome := by
    clear hwaits
    induction hs with
    | start => exact fun v c hmem => absurd hmem List.not_mem_nil
    | step m hs ih => exact fun v c hmem => isSome_laneOf?_step world hs.numbered ih m hmem
  obtain ⟨c, hc⟩ := List.exists_mem_of_ne_nil _ hwaits
  obtain ⟨p, hp, hc⟩ := List.mem_filterMap.mp hc
  cases p with
  | ended result => cases hc
  | pending v ticket => cases hc
  | blocked v k =>
    obtain ⟨rfl, -⟩ : v = w ∧ k = c := by simpa [Progress.waitsFor] using hc
    exact hall v k hp

end System

namespace Registry

/-- Operations that wait for no worker leave those who wait where they are. -/
theorem count_tickets_planned {r : Registry} (hr : r.IsKeyed) (location : LocationId) (ops : List Operation) (n : Nat) :
    (r.planned location ops).tickets.count n = r.tickets.count n := by
  induction ops generalizing r with
  | nil => rfl
  | cons op ops ih =>
    refine (ih (hr.perform location op)).trans ?_
    cases op with
    | call => exact count_tickets_resolve hr location n
    | register devices site => exact count_tickets_register hr devices site n
    | shutdown => exact count_tickets_shutdown r n

end Registry

/-- Those who are in a queue have numbers that have been given out. -/
theorem System.Numbered.lt_of_mem_queue {s : System σ} (hs : s.Numbered) {location : LocationId} {ops : List Operation}
    {w : WorkerId} {lane : Lane} (hlane : (s.engine.registry.planned location ops).laneOf? w = some lane) {c : Command}
    (hc : c ∈ lane.queue) {n : Nat} (hn : n ∈ c.ticket) : n < s.engine.tickets := by
  have hmem : n ∈ (s.engine.registry.planned location ops).tickets := by
    refine Registry.mem_tickets (hs.keyed.planned location ops) hlane (List.mem_append_left _ ?_)
    exact List.mem_filterMap.mpr ⟨c, hc, hn⟩
  rw [← List.count_pos_iff, Registry.count_tickets_planned hs.keyed, List.count_pos_iff] at hmem
  exact hs.below n (List.mem_append_left _ (List.mem_append_right _ hmem))

/-! ## What a caller can have been told -/

/-- A worker has nothing to do, and nobody waits for it. -/
def System.AtRest (w : WorkerId) (s : System σ) : Prop :=
  s.waiting w = [] ∧ ∀ lane ∈ s.engine.registry.laneOf? w, lane.queue = [] ∧ lane.activity = .ready

/-- What a caller can have been told whose command came to a worker after some others. -/
inductive Outcome (w : WorkerId) (begun : Worker) (handled : List Handling) (lane : Lane) (place : Nat) (waits : Bool) :
    Except EngineError (Option Judgement) → Prop where
  /-- The command is in the queue, and that is all that the caller wanted. -/
  | accepted (hwaits : waits = false) : Outcome w begun handled lane place waits (.ok none)
  /-- The worker has answered, after the commands that came before. -/
  | answered {before later : List Handling} {k : Handling} (hwaits : waits) (hhandled : handled = before ++ k :: later)
      (hplace : before.length = place) :
      Outcome w begun handled lane place waits
        (((begun.replay (before.map Handling.step)).handle k.observation k.thresholds).2.answer.map some)
  /-- The worker is gone. -/
  | refused (hstopped : lane.activity = .stopped) :
      Outcome w begun handled lane place waits (.error (.workerStopped w.location))

section

variable {s : System σ} {w : WorkerId} {begun : Worker} {earlier : List (Analysis Float)} {queue : List Command}
  {handled : List Handling} {refused : List Command} {lane : Lane} {world : Surroundings σ} {moves : List (Move σ)}

/-- What a worker has handled is the first of what was in its queue and of those who have come. -/
theorem InLine.map_command_isPrefix (h : InLine w (s.waiting w ++ s.brought world w moves) (s.accepted world w moves)
      (s.run world moves))
    (hserving : Serving w begun earlier (queue ++ s.accepted world w moves) handled refused lane
      (s.run world moves).engine) :
    handled.map Handling.command <+: queue ++ (s.waiting w ++ s.brought world w moves) := by
  refine List.IsPrefix.trans ?_ ((List.prefix_append_right_inj queue).mpr h.isPrefix)
  rw [← hserving.queue]
  exact List.prefix_append _ _

/-- A worker at rest has handled all of it. -/
theorem InLine.map_command_eq (h : InLine w (s.waiting w ++ s.brought world w moves) (s.accepted world w moves)
      (s.run world moves))
    (hserving : Serving w begun earlier (queue ++ s.accepted world w moves) handled refused lane
      (s.run world moves).engine) (hrest : (s.run world moves).AtRest w) :
    handled.map Handling.command = queue ++ (s.waiting w ++ s.brought world w moves) := by
  obtain ⟨hwaiting, hlanes⟩ := hrest
  obtain ⟨hempty, hready⟩ := hlanes lane hserving.found
  have hgoes (l : Lane) (hl : (s.run world moves).engine.registry.laneOf? w = some l) : l.activity ≠ .stopped := by
    obtain rfl := Option.some.inj (hl.symm.trans hserving.found)
    simp [hready]
  have hqueue := hserving.queue
  rw [hempty, hserving.refused_eq_nil_of_ne (hgoes lane hserving.found), List.append_nil, List.append_nil] at hqueue
  rw [hqueue, h.waiting hgoes, hwaiting, List.append_nil]

end

section

variable {s : System σ} {w : WorkerId} {begun : Worker} {earlier : List (Analysis Float)} {queue : List Command}
  {handled : List Handling} {refused : List Command} {lane : Lane} {world : Surroundings σ}
  {before later : List (Move σ)} {c : Call}

/-- A caller for whom no worker is found is told so. -/
theorem System.outcome?_of_found?_eq_none
    (hnone : (s.run world before).engine.registry.found? c.location = none) (later : List (Move σ)) :
    (s.run world (before ++ .call c :: later)).outcome? (s.run world before).calls.length =
      some (match ((s.run world before).engine.registry.resolve c.location).1 with
        | .error error => .error error
        | .ok _ => if c.waits then .error (.unknownLocation c.location) else .ok none) := by
  rw [outcome?, run_append_cons]
  generalize s.run world before = t at hnone ⊢
  have hbegun := begun_begin c t.engine
  have hlast := calls_step_call world t c
  generalize (begin c).run t.engine = begun at hbegun hlast
  obtain ⟨p, after⟩ := begun
  cases hbegun with
  | ended =>
    rw [calls_run world hlast rfl later, Option.bind_some]
    rfl
  | entered hfound => cases hnone.symm.trans hfound

/-- How a call stands in the end that was brought to a worker. -/
theorem System.exists_standing (hs : s.Numbered)
    (hfound : (s.run world before).engine.registry.found? c.location = some w) (later : List (Move σ)) :
    ∃ p, (s.run world (before ++ .call c :: later)).calls[(s.run world before).calls.length]? = some p ∧
      Standing w ⟨c.observation, c.ticket (s.run world before).engine⟩
        (s.accepted world w (before ++ .call c :: later)) (s.run world (before ++ .call c :: later)).engine p := by
  have hnumbered := hs.run world before
  have haccepted := gather_append_cons world (accepts w) s before (.call c) later
  rw [accepts, if_pos hfound] at haccepted
  rw [accepted, haccepted, run_append_cons, ← List.append_assoc]
  generalize s.run world before = t at hfound hnumbered ⊢
  have hbegun := begun_begin c t.engine
  have hlast := calls_step_call world t c
  have hengine : (t.step world (.call c)).engine = ((begin c).run t.engine).2 := rfl
  generalize (begin c).run t.engine = begun at hbegun hlast hengine ⊢
  obtain ⟨p, after⟩ := begun
  cases hbegun with
  | ended hnone => cases hfound.symm.trans hnone
  | @entered v _ _ _ hsome hentered =>
    obtain rfl := Option.some.inj (hsome.symm.trans hfound)
    have hstanding := Standing.of_entered hentered (Registry.isSome_laneOf?_of_found? hfound)
      (gather world (accepts v) s before)
    rw [← hengine] at hstanding
    exact hstanding.run world (hnumbered.step world (.call c)) hlast later

/-- The number of a call tells its place in the line: those before it have lower ones, those after it higher ones. -/
theorem InLine.length_of_ticket (hs : s.Numbered) (hqueue : ∀ k ∈ queue, ∀ n ∈ k.ticket, n < s.engine.tickets)
    (hfound : (s.run world before).engine.registry.found? c.location = some w) (hwaits : c.waits)
    (hbegins : handled.map Handling.command <+:
      queue ++ (s.waiting w ++ s.brought world w (before ++ .call c :: later)))
    {done rest : List Handling} {k : Handling} (hhandled : handled = done ++ k :: rest)
    (hticket : k.command.ticket = some (s.run world before).engine.tickets) :
    done.length = queue.length + ((s.waiting w).length + (s.brought world w before).length) := by
  have hbrought := System.gather_append_cons world (System.brings w) s before (.call c) later
  obtain ⟨hle, hearlier⟩ := System.tickets_run world w s before
  obtain ⟨-, hnew⟩ := System.tickets_step world w (s.run world before) (.call c)
  obtain ⟨-, hlater⟩ := System.tickets_run world w ((s.run world before).step world (.call c)) later
  rw [System.brings, if_pos hfound, Call.ticket, if_pos hwaits] at hbrought hnew
  obtain ⟨-, hlt⟩ := hnew _ rfl _ rfl
  have hnotBefore : k.command ∉ queue ++ (s.waiting w ++ s.brought world w before) := by
    intro hmem
    refine Nat.lt_irrefl (s.run world before).engine.tickets ?_
    rcases List.mem_append.mp hmem with hin | hmem
    · exact Nat.lt_of_lt_of_le (hqueue _ hin _ hticket) hle
    · rcases List.mem_append.mp hmem with hin | hin
      · exact Nat.lt_of_lt_of_le (hs.lt_of_mem_waiting hin hticket) hle
      · exact (hearlier _ hin _ hticket).2
  have hnotLater : k.command ∉ ((s.run world before).step world (.call c)).brought world w later :=
    fun hmem => Nat.not_lt.mpr (hlater _ hmem _ hticket).1 hlt
  obtain ⟨tail, htail⟩ := hbegins
  have hsplit : queue ++ (s.waiting w ++ s.brought world w before) ++
      ⟨c.observation, some (s.run world before).engine.tickets⟩ ::
        ((s.run world before).step world (.call c)).brought world w later =
      done.map Handling.command ++ k.command :: (rest.map Handling.command ++ tail) := by
    rw [hhandled, System.brought, hbrought] at htail
    simpa [System.brought, List.append_assoc] using htail.symm
  obtain ⟨hsame, -, -⟩ := (List.append_cons_inj_of_notMem hnotBefore hnotLater).mp hsplit
  have hlength := congrArg List.length hsame
  rw [List.length_append, List.length_append, List.length_map] at hlength
  exact hlength.symm

/-- A caller is told what the worker answers to its command after those before it, or is refused. -/
theorem Serving.outcome (hs : s.Numbered) (hqueue : ∀ k ∈ queue, ∀ n ∈ k.ticket, n < s.engine.tickets)
    (hfound : (s.run world before).engine.registry.found? c.location = some w)
    (hline : InLine w (s.waiting w ++ s.brought world w (before ++ .call c :: later))
      (s.accepted world w (before ++ .call c :: later)) (s.run world (before ++ .call c :: later)))
    (hserving : Serving w begun earlier (queue ++ s.accepted world w (before ++ .call c :: later)) handled refused lane
      (s.run world (before ++ .call c :: later)).engine)
    {result : Except EngineError (Option Judgement)}
    (hresult : (s.run world (before ++ .call c :: later)).outcome? (s.run world before).calls.length = some result) :
    Outcome w begun handled lane (queue.length + ((s.waiting w).length + (s.brought world w before).length)) c.waits
      result := by
  have hbegins := hline.map_command_isPrefix hserving
  obtain ⟨p, hcall, hstanding⟩ := System.exists_standing hs hfound later
  rw [System.outcome?, hcall, Option.bind_some] at hresult
  cases hstanding with
  | waits => cases hresult
  | refused hlane hstopped =>
    obtain rfl := Option.some.inj hresult
    obtain rfl := Option.some.inj (hlane.symm.trans hserving.found)
    exact .refused hstopped
  | entered hmem =>
    have hmem := List.mem_append_right queue hmem
    cases hwaits : c.waits with
    | false =>
      rw [Call.ticket, hwaits] at hresult
      obtain rfl := Option.some.inj hresult
      exact .accepted rfl
    | true =>
      rw [Call.ticket, hwaits] at hresult hmem
      obtain ⟨answer, hanswer, rfl⟩ := Option.map_eq_some_iff.mp hresult
      rcases hserving.answered_of_accepted (hs.run world _) hmem rfl hanswer with hreply | ⟨hrefused, rfl⟩
      · obtain ⟨done, k, rest, hhandled, hticket, rfl⟩ := Worker.exists_of_mem_replies hreply
        exact .answered rfl hhandled (InLine.length_of_ticket hs hqueue hfound hwaits hbegins hhandled hticket)
      · exact .refused (hserving.stopped (List.ne_nil_of_mem hrefused))

/-- Where the worker is at rest, every caller has been told something. -/
theorem Serving.isSome_outcome? (hs : s.Numbered)
    (hfound : (s.run world before).engine.registry.found? c.location = some w)
    (hserving : Serving w begun earlier (queue ++ s.accepted world w (before ++ .call c :: later)) handled refused lane
      (s.run world (before ++ .call c :: later)).engine)
    (hrest : (s.run world (before ++ .call c :: later)).AtRest w) :
    ((s.run world (before ++ .call c :: later)).outcome? (s.run world before).calls.length).isSome := by
  obtain ⟨hwaiting, hlanes⟩ := hrest
  obtain ⟨hempty, hready⟩ := hlanes lane hserving.found
  obtain ⟨p, hcall, hstanding⟩ := System.exists_standing hs hfound later
  rw [System.outcome?, hcall, Option.bind_some]
  cases hstanding with
  | waits =>
    have hmem := List.mem_filterMap.mpr ⟨_, List.mem_of_getElem? hcall, Progress.waitsFor_blocked_self w _⟩
    rw [System.waiting] at hwaiting
    rw [hwaiting] at hmem
    cases hmem
  | refused => rfl
  | entered hmem =>
    have hmem := List.mem_append_right queue hmem
    rw [← hserving.queue, hempty, hserving.refused_eq_nil_of_ne (by simp [hready]), List.append_nil,
      List.append_nil] at hmem
    cases hwaits : c.waits with
    | false =>
      rw [Call.ticket, hwaits]
      rfl
    | true =>
      rw [Call.ticket, hwaits] at hmem ⊢
      have hnumber : (s.run world before).engine.tickets ∈ (begun.replies handled).map Prod.fst := by
        rw [Worker.map_fst_replies]
        exact List.mem_filterMap.mpr ⟨_, hmem, rfl⟩
      obtain ⟨⟨_, answer⟩, hreply, rfl⟩ := List.mem_map.mp hnumber
      rcases hserving.lookup_answers (hs.run world _) (List.mem_append_left _ hreply) with hsome | ⟨-, delivery, howes⟩
      · show ((List.lookup _ _).map (Except.map some)).isSome
        rw [hsome, Option.map_some, Option.isSome_some]
      · cases hready.symm.trans howes

end

end Waterway
