import Waterway.Proofs.Registry.Operations

/-!
# Who comes first is let in first

A queue lets callers who wait for room in in the order in which they came. What a worker takes out of it is then the
first of what has been brought to the worker, and what has been brought is told by the operations on its location.

## Main definitions

- `Lane.Becomes` — who has been told to stop, or has stopped, stays so
- `System.waiting` — the commands of the callers who wait for room, in the order in which they came
- `System.brought` — the commands that calls have brought to a worker, those that still wait for room among them
- `System.Orderly` — nobody is let in before one who came earlier
- `Registry.addressed` — what the operations on a location bring to a worker
- `InLine` — what was accepted is the first of what was brought

## Main statements

- `System.becomes_step` — no move takes back that a worker has been told to stop, or has stopped
- `InLine.run` — where callers are let in in order, what was accepted is the first of what was brought
- `Abides.map_observation_brought` — the operations on a location tell what is brought to its workers

## Design notes

A caller who is refused, because the worker has stopped, leaves the line. After that nobody is let in any more, so that
what was accepted is the first of what was brought all the same.
-/

namespace Waterway

open Engine

variable {σ : Type}

/-! ## Workers that have been told to stop -/

/-- Who has been told to stop, or has stopped, stays so. -/
structure Lane.Becomes (l l' : Lane) : Prop where
  cancelled : l.isCancelled → l'.isCancelled
  stopped : l.activity = .stopped → l'.activity = .stopped

theorem Lane.Becomes.refl (l : Lane) : l.Becomes l :=
  ⟨id, id⟩

theorem Lane.Becomes.trans {l l' l'' : Lane} (h : l.Becomes l') (h' : l'.Becomes l'') : l.Becomes l'' :=
  ⟨h'.cancelled ∘ h.cancelled, h'.stopped ∘ h.stopped⟩

namespace Registry

variable {r : Registry} {w v : WorkerId} {l : Lane}

theorem becomes_modifyLaneOf (hlane : r.laneOf? w = some l) {f : Lane → Lane} (hf : w = v → l.Becomes (f l)) :
    ∃ l', (r.modifyLaneOf v f).laneOf? w = some l' ∧ l.Becomes l' := by
  rw [laneOf?_modifyLaneOf]
  split
  · next hw => exact ⟨f l, by rw [hlane, Option.map_some], hf hw⟩
  · exact ⟨l, hlane, .refl l⟩

theorem becomes_register (hr : r.IsKeyed) (hlane : r.laneOf? w = some l) (devices : Devices) (site : Site Float) :
    ∃ l', (r.register devices site).laneOf? w = some l' ∧ l.Becomes l' := by
  have hne : w ≠ (r.register devices site).latest devices.location := by
    rintro rfl
    rw [hr.laneOf?_eq_none] at hlane
    · cases hlane
    · rw [latest_register, if_pos rfl]
      exact Nat.lt_succ_self _
  refine ⟨_, by rw [laneOf?_register hr, if_neg hne, hlane, Option.map_some], ?_⟩
  split
  · exact ⟨fun _ => rfl, id⟩
  · exact .refl l

theorem becomes_resolve (hr : r.IsKeyed) (hlane : r.laneOf? w = some l) (location : LocationId) :
    ∃ l', (r.resolve location).2.laneOf? w = some l' ∧ l.Becomes l' := by
  rcases r.resolve_snd location with hsame | ⟨-, hnew⟩
  · rw [hsame]
    exact ⟨l, hlane, .refl l⟩
  · rw [hnew]
    exact becomes_register hr hlane _ _

theorem becomes_shutdown (hr : r.IsKeyed) (hlane : r.laneOf? w = some l) :
    ∃ l', r.shutdown.laneOf? w = some l' ∧ l.Becomes l' := by
  refine ⟨_, by rw [laneOf?_shutdown hr, hlane, Option.map_some], ?_⟩
  split
  · exact ⟨fun _ => rfl, id⟩
  · exact .refl l

end Registry

namespace Engine

variable {w v : WorkerId} {e after : Engine σ} {l : Lane} {p : Progress}

theorem Worked.becomes {world : Surroundings σ} {lingers : Bool} (h : Worked world v lingers e after)
    (hlane : e.registry.laneOf? w = some l) : ∃ l', after.registry.laneOf? w = some l' ∧ l.Becomes l' := by
  have hsame {l' : Lane} (hv : e.registry.laneOf? v = some l') (hw : w = v) : l' = l := by
    rw [← hw, hlane] at hv
    exact (Option.some.inj hv).symm
  cases h with
  | idle => exact ⟨l, hlane, .refl l⟩
  | ended => exact Registry.becomes_modifyLaneOf hlane fun _ => ⟨id, fun _ => rfl⟩
  | delivered hv hactivity =>
    refine Registry.becomes_modifyLaneOf hlane fun hw => ⟨id, fun hstopped => ?_⟩
    rw [hsame hv hw, hstopped] at hactivity
    cases hactivity
  | handled hv hready _ _ _ hf =>
    refine Registry.becomes_modifyLaneOf hlane fun hw => ?_
    obtain rfl := hsame hv hw
    rw [hf]
    exact ⟨id, fun hstopped => nomatch hready.symm.trans hstopped⟩

theorem Entered.becomes {c : Command} (h : Entered v c e p after) (hlane : e.registry.laneOf? w = some l) :
    ∃ l', after.registry.laneOf? w = some l' ∧ l.Becomes l' := by
  cases h with
  | blocked | refused => exact ⟨l, hlane, .refl l⟩
  | entered => exact Registry.becomes_modifyLaneOf hlane fun _ => ⟨id, id⟩

theorem Begun.becomes {call : Call} (h : Begun call e p after) (hkeyed : e.registry.IsKeyed)
    (hlane : e.registry.laneOf? w = some l) : ∃ l', after.registry.laneOf? w = some l' ∧ l.Becomes l' := by
  cases h with
  | ended => exact ⟨l, hlane, .refl l⟩
  | entered hfound hentered =>
    obtain ⟨l', hl', hbecomes⟩ := Registry.becomes_resolve hkeyed hlane call.location
    obtain ⟨l'', hl'', hbecomes'⟩ := hentered.becomes hl'
    exact ⟨l'', hl'', hbecomes.trans hbecomes'⟩

end Engine

namespace System

variable {s : System σ} {w : WorkerId} {l : Lane}

theorem becomes_step (world : Surroundings σ) (hs : s.Numbered) (hlane : s.engine.registry.laneOf? w = some l)
    (m : Move σ) : ∃ l', (s.step world m).engine.registry.laneOf? w = some l' ∧ l.Becomes l' := by
  cases m with
  | call c => exact (begun_begin c s.engine).becomes hs.keyed hlane
  | retry number =>
    cases hcall : s.calls[number]? with
    | none =>
      rw [step, hcall]
      exact ⟨l, hlane, .refl l⟩
    | some p =>
      cases p with
      | ended result =>
        rw [step_retry world hcall rfl]
        exact ⟨l, hlane, .refl l⟩
      | pending v ticket =>
        rw [step_retry world hcall rfl]
        exact ⟨l, hlane, .refl l⟩
      | blocked v c =>
        rw [step_retry_blocked world hcall]
        exact (entered_tryEnqueue v c s.engine).becomes hlane
  | work v lingers => exact (worked_work world v lingers s.engine).becomes hlane
  | register devices site =>
    obtain ⟨woken, hrun⟩ := run_register devices site s.engine
    rw [step, hrun]
    exact Registry.becomes_register hs.keyed hlane devices site
  | shutdown =>
    obtain ⟨woken, hrun⟩ := run_shutdown s.engine
    rw [step, hrun]
    exact Registry.becomes_shutdown hs.keyed hlane
  | elsewhere => exact ⟨l, hlane, .refl l⟩

end System

/-! ## The line in front of a queue -/

/-- The command of a caller who waits for room in the queue of a worker. -/
def Engine.Progress.waitsFor (w : WorkerId) : Progress → Option Command
  | .blocked v c => if v = w then some c else none
  | _ => none

@[simp]
theorem Engine.Progress.waitsFor_blocked_self (w : WorkerId) (c : Command) :
    (Progress.blocked w c).waitsFor w = some c :=
  if_pos rfl

theorem Engine.Progress.waitsFor_ofEntry (w v : WorkerId) (c : Command) : (Progress.ofEntry v c).waitsFor w = none := by
  rw [Progress.ofEntry]
  cases c.ticket <;> rfl

/-- Who tries to get into the queue of one worker does not wait for another. -/
theorem Engine.Entered.waitsFor_of_ne {v w : WorkerId} {c : Command} {e after : Engine σ} {p : Progress}
    (h : Entered v c e p after) (hne : v ≠ w) : p.waitsFor w = none := by
  cases h with
  | blocked => exact if_neg hne
  | refused => rfl
  | entered => exact Progress.waitsFor_ofEntry w v c

/-- A caller that has come further takes the place of what it was. -/
theorem filterMap_set {α β : Type} {xs : List α} {n : Nat} {x : α} (hx : xs[n]? = some x) (f : α → Option β) (y : α) :
    (xs.set n y).filterMap f = (xs.take n).filterMap f ++ ((f y).toList ++ (xs.drop (n + 1)).filterMap f) := by
  obtain ⟨hn, -⟩ := List.getElem?_eq_some_iff.mp hx
  rw [List.set_eq_take_append_cons_drop, if_pos hn, List.filterMap_append, List.filterMap_cons]
  cases f y <;> rfl

theorem filterMap_eq_of_getElem? {α β : Type} {xs : List α} {n : Nat} {x : α} (hx : xs[n]? = some x)
    (f : α → Option β) :
    xs.filterMap f = (xs.take n).filterMap f ++ ((f x).toList ++ (xs.drop (n + 1)).filterMap f) := by
  obtain ⟨hn, rfl⟩ := List.getElem?_eq_some_iff.mp hx
  have hsame := filterMap_set hx f xs[n]
  rwa [List.set_getElem_self] at hsame

namespace System

/-- The commands of the callers who wait for room in the queue of a worker, in the order in which they came. -/
def waiting (w : WorkerId) (s : System σ) : List Command :=
  s.calls.filterMap (Progress.waitsFor w)

/-- The command that a call brings to a worker, whether there is room for it or not. -/
def brings (w : WorkerId) (s : System σ) : Move σ → Option Command
  | .call c =>
    if s.engine.registry.found? c.location = some w then some ⟨c.observation, c.ticket s.engine⟩ else none
  | _ => none

/-- The commands that calls have brought to a worker, in order. -/
def brought (world : Surroundings σ) (w : WorkerId) (s : System σ) (moves : List (Move σ)) : List Command :=
  gather world (brings w) s moves

/-- The calls that came before the one that a move is about. -/
def ahead (s : System σ) : Move σ → List Progress
  | .retry number => s.calls.take number
  | _ => s.calls

/-- Callers get into the queue of a worker in the order in which they came: nobody who waits for room is passed over. -/
def Orderly (world : Surroundings σ) (w : WorkerId) : System σ → List (Move σ) → Prop
  | _, [] => True
  | s, m :: moves =>
    ((s.accepts w m).isSome → ∀ p ∈ s.ahead m, p.waitsFor w = none) ∧ Orderly world w (s.step world m) moves

end System

/-- What a worker has accepted is the first of what has been brought to it. Unless it has stopped, the others wait for
room. -/
structure InLine (w : WorkerId) (brought accepted : List Command) (s : System σ) : Prop where
  /-- Whoever waits for room has found a worker. -/
  found : s.waiting w ≠ [] → (s.engine.registry.laneOf? w).isSome
  isPrefix : accepted <+: brought
  waiting : (∀ l, s.engine.registry.laneOf? w = some l → l.activity ≠ .stopped) → brought = accepted ++ s.waiting w

namespace InLine

variable {w : WorkerId} {brought accepted : List Command} {s : System σ}

theorem start (hfound : s.waiting w ≠ [] → (s.engine.registry.laneOf? w).isSome) : InLine w (s.waiting w) [] s where
  found := hfound
  isPrefix := List.nil_prefix
  waiting _ := rfl

/-- Where nobody is let in and nobody comes, the line stays as it is. -/
theorem of_waiting_eq (h : InLine w brought accepted s) {after : System σ} (hwaiting : after.waiting w = s.waiting w)
    (hbecomes : ∀ l, s.engine.registry.laneOf? w = some l →
      ∃ l', after.engine.registry.laneOf? w = some l' ∧ l.Becomes l') : InLine w brought accepted after where
  found hsome := by
    rw [hwaiting] at hsome
    obtain ⟨l, hl⟩ := Option.isSome_iff_exists.mp (h.found hsome)
    obtain ⟨l', hl', -⟩ := hbecomes l hl
    rw [hl', Option.isSome_some]
  isPrefix := h.isPrefix
  waiting hgoes := by
    rw [hwaiting]
    refine h.waiting fun l hl hstopped => ?_
    obtain ⟨l', hl', hbecomes⟩ := hbecomes l hl
    exact hgoes l' hl' (hbecomes.stopped hstopped)

end InLine

theorem Registry.isSome_laneOf?_of_found? {r : Registry} {location : LocationId} {w : WorkerId}
    (h : r.found? location = some w) : ((r.resolve location).2.laneOf? w).isSome := by
  obtain ⟨hresolve, hlatest⟩ := resolve_of_found? h
  have hcontains : (r.insertOrReuse location).contains location := by
    rw [contains_insertOrReuse, beq_self_eq_true, Bool.true_or]
  rw [hresolve, hlatest, laneOf?_of_employs (employs_latest hcontains)]
  exact hcontains

namespace InLine

variable {w : WorkerId} {brought accepted : List Command} {s : System σ}

/-- Who is the next in line gets in, goes on waiting, or has come to a worker that has stopped. -/
theorem entered {c : Command} {e after : Engine σ} {p : Progress} (h : Entered w c e p after)
    (hfound : (e.registry.laneOf? w).isSome) (hbegins : accepted <+: brought) {ahead behind : List Command}
    (hline : (∀ l, e.registry.laneOf? w = some l → l.activity ≠ .stopped) →
      brought = accepted ++ (ahead ++ c :: behind))
    (hturn : (p.entry c.observation).isSome → ahead = []) {calls : List Progress}
    (hwaiting : System.waiting w ⟨after, calls⟩ = ahead ++ ((p.waitsFor w).toList ++ behind)) :
    InLine w brought (accepted ++ (p.entry c.observation).toList) ⟨after, calls⟩ := by
  have hthere : (after.registry.laneOf? w).isSome := by
    obtain ⟨l, hl⟩ := Option.isSome_iff_exists.mp hfound
    obtain ⟨l', hl', -⟩ := h.becomes hl
    rw [hl', Option.isSome_some]
  cases h with
  | blocked =>
    rw [Progress.entry, Option.toList_none, List.append_nil]
    rw [Progress.waitsFor_blocked_self] at hwaiting
    refine ⟨fun _ => hthere, hbegins, fun hgoes => ?_⟩
    rw [hline hgoes, hwaiting]
    rfl
  | refused hclosed =>
    rw [Progress.entry, Option.toList_none, List.append_nil]
    refine ⟨fun _ => hthere, hbegins, fun hgoes => ?_⟩
    obtain ⟨l, hl⟩ := Option.isSome_iff_exists.mp hfound
    exact absurd (Lane.isAccepting_iff.mpr (hgoes l hl)) (hclosed l hl)
  | @entered l woken hlane haccepting =>
    have hgoes (l' : Lane) (hl' : e.registry.laneOf? w = some l') : l'.activity ≠ .stopped := by
      obtain rfl := Option.some.inj (hlane.symm.trans hl')
      exact Lane.isAccepting_iff.mp haccepting
    have hnobody : ahead = [] := hturn (by rw [Progress.entry_ofEntry, Option.isSome_some])
    have hall : brought = accepted ++ [c] ++ (ahead ++ ((Progress.waitsFor w (.ofEntry w c)).toList ++ behind)) := by
      rw [hline hgoes, hnobody, Progress.waitsFor_ofEntry, List.append_assoc]
      rfl
    rw [← hwaiting] at hall
    rw [Progress.entry_ofEntry, Option.toList_some]
    exact ⟨fun _ => hthere, ⟨_, hall.symm⟩, fun _ => hall⟩

theorem call (h : InLine w brought accepted s) (world : Surroundings σ) (hs : s.Numbered) (c : Call)
    (hturn : (s.accepts w (.call c)).isSome → ∀ p ∈ s.calls, p.waitsFor w = none) :
    InLine w (brought ++ (s.brings w (.call c)).toList) (accepted ++ (s.accepts w (.call c)).toList)
      (s.step world (.call c)) := by
  have hbegun := begun_begin c s.engine
  have hbecomes (l : Lane) := System.becomes_step (l := l) (w := w) world hs (m := .call c)
  simp only [System.accepts, System.brings] at hturn ⊢
  rw [System.step] at hbecomes ⊢
  generalize (begin c).run s.engine = begun at hbegun hturn hbecomes ⊢
  have hwaiting : (System.mk begun.2 (s.calls ++ [begun.1])).waiting w =
      s.waiting w ++ (begun.1.waitsFor w).toList := by
    rw [System.waiting, List.filterMap_append, System.waiting]
    cases hw : begun.1.waitsFor w <;> simp [hw]
  by_cases hfound : s.engine.registry.found? c.location = some w
  · rw [if_pos hfound] at hturn ⊢
    rw [if_pos hfound, Option.toList_some]
    obtain ⟨progress, after⟩ := begun
    cases hbegun with
    | ended hnone => cases hfound.symm.trans hnone
    | @entered v woken _ _ hsome hentered =>
      obtain rfl := Option.some.inj (hsome.symm.trans hfound)
      rw [← List.append_nil (progress.waitsFor v).toList] at hwaiting
      refine entered hentered (Registry.isSome_laneOf?_of_found? hfound) (h.isPrefix.trans (List.prefix_append _ _))
        (fun hgoes => ?_) (fun hin => ?_) hwaiting
      · rw [h.waiting fun l hl hstopped => ?_, List.append_assoc]
        obtain ⟨l', hl', hbecomes⟩ := Registry.becomes_resolve hs.keyed hl c.location
        exact hgoes l' hl' (hbecomes.stopped hstopped)
      · exact List.filterMap_eq_nil_iff.mpr (hturn hin)
  · rw [if_neg hfound, if_neg hfound, Option.toList_none, List.append_nil, List.append_nil]
    refine h.of_waiting_eq ?_ hbecomes
    have hnone : begun.1.waitsFor w = none := by
      obtain ⟨progress, after⟩ := begun
      cases hbegun with
      | ended => rfl
      | entered hsome hentered =>
        refine hentered.waitsFor_of_ne ?_
        rintro rfl
        exact hfound hsome
    rw [hwaiting, hnone, Option.toList_none, List.append_nil]

theorem retry (h : InLine w brought accepted s) (world : Surroundings σ) (hs : s.Numbered) (number : Nat)
    (hturn : (s.accepts w (.retry number)).isSome → ∀ p ∈ s.calls.take number, p.waitsFor w = none) :
    InLine w brought (accepted ++ (s.accepts w (.retry number)).toList) (s.step world (.retry number)) := by
  have hbecomes (l : Lane) := System.becomes_step (l := l) (w := w) world hs (m := .retry number)
  cases hcall : s.calls[number]? with
  | none =>
    simp only [System.accepts, System.step, hcall, Option.toList_none, List.append_nil]
    exact h
  | some p =>
    cases p with
    | ended result =>
      simp only [System.accepts, System.step_retry world hcall rfl, hcall, Option.toList_none, List.append_nil]
      exact h
    | pending v ticket =>
      simp only [System.accepts, System.step_retry world hcall rfl, hcall, Option.toList_none, List.append_nil]
      exact h
    | blocked v c =>
      have hentered := entered_tryEnqueue v c s.engine
      rw [System.step_retry_blocked world hcall] at hbecomes ⊢
      simp only [System.accepts, hcall] at hturn ⊢
      generalize (tryEnqueue v c).run s.engine = tried at hentered hturn hbecomes ⊢
      have hbefore := filterMap_eq_of_getElem? hcall (Progress.waitsFor w)
      have hafter := filterMap_set hcall (Progress.waitsFor w) tried.1
      by_cases hv : v = w
      · subst hv
        rw [if_pos rfl] at hturn ⊢
        rw [Progress.waitsFor_blocked_self] at hbefore
        have hsome : (s.engine.registry.laneOf? v).isSome := by
          refine h.found ?_
          rw [System.waiting, hbefore]
          simp
        refine entered hentered hsome h.isPrefix (fun hgoes => ?_) (fun hin => ?_) hafter
        · exact (h.waiting hgoes).trans (congrArg (accepted ++ ·) hbefore)
        · exact List.filterMap_eq_nil_iff.mpr (hturn hin)
      · have hnone : (Progress.blocked v c).waitsFor w = none := if_neg hv
        rw [if_neg hv, Option.toList_none, List.append_nil]
        refine h.of_waiting_eq ?_ hbecomes
        rw [System.waiting, hafter, System.waiting, hbefore, hnone, hentered.waitsFor_of_ne hv]

/-- A move in which nobody is passed over leaves everybody in line. -/
theorem step (h : InLine w brought accepted s) (world : Surroundings σ) (hs : s.Numbered) (m : Move σ)
    (hturn : (s.accepts w m).isSome → ∀ p ∈ s.ahead m, p.waitsFor w = none) :
    InLine w (brought ++ (s.brings w m).toList) (accepted ++ (s.accepts w m).toList) (s.step world m) := by
  have hbecomes (l : Lane) := System.becomes_step (l := l) (w := w) world hs (m := m)
  cases m with
  | call c => exact h.call world hs c hturn
  | retry number =>
    simp only [System.brings, Option.toList_none, List.append_nil]
    exact h.retry world hs number hturn
  | work | register | shutdown | elsewhere =>
    simp only [System.brings, System.accepts, Option.toList_none, List.append_nil]
    exact h.of_waiting_eq rfl hbecomes

/-- Where callers are let in in order, what a worker has accepted is the first of what has been brought to it. -/
theorem run (h : InLine w brought accepted s) (world : Surroundings σ) (hs : s.Numbered) {moves : List (Move σ)}
    (horderly : s.Orderly world w moves) :
    InLine w (brought ++ s.brought world w moves) (accepted ++ s.accepted world w moves) (s.run world moves) := by
  induction moves generalizing s brought accepted with
  | nil =>
    simp only [System.brought, System.accepted, System.gather, List.append_nil]
    exact h
  | cons m moves ih =>
    have hrun := ih (h.step world hs m horderly.1) (hs.step world m) horderly.2
    rw [List.append_assoc, List.append_assoc] at hrun
    exact hrun

end InLine

/-! ## What is brought to the workers of a location -/

namespace Registry

/-- The observation that an operation on a location brings to a worker. -/
def addresses (location : LocationId) (w : WorkerId) (r : Registry) : Operation → Option (Observation Float)
  | .call o _ => if r.found? location = some w then some o else none
  | .register _ _ | .shutdown => none

/-- What the operations on a location bring to a worker, in order. -/
def addressed (location : LocationId) (w : WorkerId) : Registry → List Operation → List (Observation Float)
  | _, [] => []
  | r, op :: ops => (r.addresses location w op).toList ++ addressed location w (r.perform location op) ops

end Registry

/-- A move brings to a worker of the location what the operation on the location, if it is one, brings there. -/
theorem System.map_observation_brings {s : System σ} {plan : Registry} {w : WorkerId}
    (hagrees : s.engine.registry.Agrees w.location plan) (m : Move σ) :
    (s.brings w m).map Command.observation = (m.operation? w.location).bind (plan.addresses w.location w) := by
  cases m with
  | call c =>
    rw [brings, Move.operation?]
    by_cases hlocation : c.location = w.location
    · rw [if_pos hlocation, hlocation, hagrees.found?_eq, Option.bind_some, Registry.addresses]
      split <;> rfl
    · have hnot : s.engine.registry.found? c.location ≠ some w := by
        intro hfound
        rw [(Registry.resolve_of_found? hfound).2] at hlocation
        exact hlocation rfl
      rw [if_neg hlocation, if_neg hnot, Option.map_none, Option.bind_none]
  | register devices site =>
    rw [Move.operation?]
    split <;> rfl
  | retry | work | shutdown | elsewhere => rfl

/-- The operations on a location tell what is brought to its workers. -/
theorem Abides.map_observation_brought {s : System σ} {before : Engine σ} {plan : Registry} {w : WorkerId}
    {accepted : WorkerId → List Command} {handled : WorkerId → List Handling} (world : Surroundings σ)
    (hs : s.Numbered) (h : Abides w.location before plan accepted handled s.engine) (hplan : plan.IsKeyed)
    (moves : List (Move σ)) :
    (s.brought world w moves).map Command.observation =
      plan.addressed w.location w (operations w.location moves) := by
  induction moves generalizing s plan accepted handled with
  | nil => rfl
  | cons m moves ih =>
    have hrest := ih (hs.step world m) (h.step world hs hplan m) (hplan.planned w.location _)
    have hbrings := System.map_observation_brings h.agrees m
    rw [System.brought, System.gather, List.map_append, ← System.brought, hrest, ← Option.toList_map, hbrings,
      operations, operations, List.filterMap_cons]
    cases m.operation? w.location <;> rfl

end Waterway
