import Waterway.Fanout.Timeline

/-!
# Waiting for slow subscribers

On a timeline on which nothing else happens, a delivery is over at its deadline at the latest, and then has
done what a broadcast does during which nobody takes a frame out of a full queue.

## Main definitions

- `Timeline.deliver` — a broadcast whose end is waited for
- `Timeline.Quiet` — nothing is under way and no heart beats

## Main statements

- `Timeline.Quiet.deliver` — waiting comes to nothing
-/

namespace Waterway

namespace Delivery

theorem isWaiting_fail (d : Delivery) (why : SendFailure) :
    (d.fail (fun _ => true) why).isWaiting = false := by
  simp only [isWaiting, fail, Bool.and_true, List.any_map, List.any_eq_false, Function.comp_apply]
  intro l _
  split
  · simp [Leg.isWaiting]
  · assumption

/-- Giving up changes nothing for a delivery of which no leg waits. -/
theorem fail_of_not_isWaiting {d : Delivery} (h : d.isWaiting = false) (applies : Leg → Bool)
    (why : SendFailure) : d.fail applies why = d := by
  have hlegs : d.legs.map (fun l => if l.isWaiting && applies l then { l with state := .failed why } else l) =
      d.legs := by
    refine (List.map_congr_left fun l hl => ?_).trans (List.map_id d.legs)
    have hidle : ¬l.isWaiting := List.any_eq_false.mp h l hl
    simp [hidle]
  rw [fail, hlegs]

/-- The report of a delivery counts as a broadcast does that comes to the same failures. -/
theorem report_eq (d : Delivery) (h : Hub) (location : LocationId) :
    d.report = (h.finish location (d.legs.map fun l => (l.connection, l.failure))).1 := by
  have hfailed : (d.legs.filterMap Leg.failure).length =
      (((d.legs.map fun l => (l.connection, l.failure)).filter (·.2.isSome)).map (·.1)).length := by
    rw [List.length_map, List.filter_map, List.length_map, List.length_filterMap_eq_countP,
      List.countP_eq_length_filter]
    rfl
  simp only [report, Hub.finish, hfailed, List.length_map]

end Delivery

namespace Timeline

variable {t : Timeline}

/-- A broadcast whose end is waited for. -/
def deliver (t : Timeline) (location : LocationId) (text : String) (timeout : Nat) :
    DeliveryReport × Timeline :=
  let (id, started) := t.broadcast location text timeout
  let ended := started.await id
  ((ended.finished? id).elim ⟨0, 0⟩ Delivery.report, ended)

/-- The timeline after a delivery to a location, the only one under way. -/
def close (t : Timeline) (location : LocationId) (d : Delivery) : Timeline :=
  { t with
    hub := (t.hub.finish location (d.legs.map fun l => (l.connection, l.failure))).2
    underWay := []
    finished := t.finished ++ [d] }

/-- Nothing is under way and no heart beats. -/
structure Quiet (t : Timeline) : Prop where
  underWay : t.underWay = []
  heartbeats : t.heartbeats = []
  finished : ∀ d ∈ t.finished, d.id < t.begun

theorem conclude_of_underWay_eq_nil (h : t.underWay = []) : t.conclude = t := by
  obtain ⟨hub, clock, underWay, finished, heartbeats, begun⟩ := t
  subst h
  simp [conclude]

theorem conclude_of_isWaiting {d : Delivery} (h : t.underWay = [d]) (hd : d.isWaiting) : t.conclude = t := by
  obtain ⟨hub, clock, underWay, finished, heartbeats, begun⟩ := t
  subst h
  simp [conclude, hd]

theorem conclude_eq_close {d : Delivery} {location : LocationId} (h : t.underWay = [d])
    (hlocation : d.location = some location) (hd : d.isWaiting = false) :
    t.conclude = t.close location d := by
  simp [conclude, close, h, hd, hlocation]

theorem expire_of_le {d : Delivery} (h : t.underWay = [d]) (hdue : d.deadline ≤ t.clock) :
    t.expire = { t with underWay := [d.fail (fun _ => true) .timedOut] } := by
  simp [expire, h, hdue]

theorem expire_of_lt {d : Delivery} (h : t.underWay = [d]) (hdue : t.clock < d.deadline) : t.expire = t := by
  obtain ⟨hub, clock, underWay, finished, heartbeats, begun⟩ := t
  subst h
  have : ¬d.deadline ≤ clock := by
    simpa using hdue
  simp [expire, this]

theorem beat_of_heartbeats_eq_nil (h : t.heartbeats = []) : t.beat = t := by
  obtain ⟨hub, clock, underWay, finished, heartbeats, begun⟩ := t
  subst h
  rfl

theorem await_of_underWay_eq_nil (h : t.underWay = []) (id : Nat) : t.await id = t := by
  simp [await, waiting?, h]

/-- At the deadline the only delivery under way gives up. -/
theorem advanceTo_deadline {d : Delivery} {location : LocationId} (h : t.underWay = [d])
    (hlocation : d.location = some location) (hheartbeats : t.heartbeats = []) :
    t.advanceTo d.deadline =
      ({ t with clock := d.deadline } : Timeline).close location (d.fail (fun _ => true) .timedOut) := by
  rw [advanceTo, expire_of_le (t := { t with clock := d.deadline }) h (Nat.le_refl _),
    conclude_eq_close (d := d.fail (fun _ => true) .timedOut) rfl hlocation (d.isWaiting_fail _)]
  exact beat_of_heartbeats_eq_nil hheartbeats

theorem await_eq_close {d : Delivery} {location : LocationId} (h : t.underWay = [d])
    (hlocation : d.location = some location) (hheartbeats : t.heartbeats = [])
    (hdeadline : t.clock < d.deadline) :
    t.await d.id =
      ({ t with clock := d.deadline } : Timeline).close location (d.fail (fun _ => true) .timedOut) := by
  have hwaiting : t.waiting? d.id = some d := by
    simp [waiting?, h]
  have hdue : t.nextDue = some d.deadline := by
    simp [nextDue, h, hheartbeats]
  have hnext : max (t.clock + 1) ((t.nextDue.map (min d.deadline)).getD d.deadline) = d.deadline := by
    rw [hdue, Option.map_some, Option.getD_some, Nat.min_self]
    omega
  rw [await, hwaiting]
  show t.awaitUntil d.id d.deadline = _
  rw [awaitUntil, dif_pos ⟨by simp [hwaiting], hdeadline⟩]
  show (t.advanceTo _).awaitUntil d.id d.deadline = _
  rw [hnext, advanceTo_deadline h hlocation hheartbeats, awaitUntil, dif_neg]
  simp [waiting?, close]

namespace Quiet

variable (hq : t.Quiet)
include hq

/-- Whoever has not made room by the deadline has failed. -/
theorem await_begin (location : LocationId) (frame : Frame) (timeout : Nat)
    (offers : List (Connection × Offer)) (hub : Hub) :
    ∃ d clock, d.id = t.begun ∧
      d.legs.map (fun l => (l.connection, l.failure)) = offers.map (fun (c, o) => (c, Hub.failureOf o)) ∧
      (t.begin (some location) frame timeout offers hub).2.await t.begun =
        ({ t with hub, clock, begun := t.begun + 1 } : Timeline).close location d := by
  let d : Delivery :=
    ⟨t.begun, some location, frame, t.clock + timeout, offers.map fun (c, o) => .ofOffer c o⟩
  have hlegs : (d.fail (fun _ => true) .timedOut).legs.map (fun l => (l.connection, l.failure)) =
      offers.map (fun (c, o) => (c, Hub.failureOf o)) := by
    simp only [d, Delivery.fail, List.map_map]
    apply List.map_congr_left
    rintro ⟨c, o⟩ -
    cases o <;> rfl
  let started : Timeline := { t with hub, underWay := [d], begun := t.begun + 1 }
  have hbegin : (t.begin (some location) frame timeout offers hub).2 = started.expire.conclude := by
    simp [begin, started, d, hq.underWay]
  rw [hbegin]
  by_cases hdue : timeout = 0
  · -- the time is over at once
    refine ⟨d.fail (fun _ => true) .timedOut, t.clock, rfl, hlegs, ?_⟩
    rw [expire_of_le (d := d) rfl (by simp [started, d, hdue]),
      conclude_eq_close (d := d.fail (fun _ => true) .timedOut) rfl rfl (d.isWaiting_fail _)]
    exact await_of_underWay_eq_nil rfl _
  · have hlt : started.clock < d.deadline := by
      simp only [started, d]
      omega
    rw [expire_of_lt (d := d) rfl hlt]
    by_cases hwaits : d.isWaiting
    · refine ⟨d.fail (fun _ => true) .timedOut, d.deadline, rfl, hlegs, ?_⟩
      rw [conclude_of_isWaiting (d := d) rfl hwaits]
      exact await_eq_close (d := d) rfl rfl hq.heartbeats hlt
    · -- everybody had room or was gone
      have hidle : d.isWaiting = false := by
        simpa using hwaits
      rw [Delivery.fail_of_not_isWaiting hidle] at hlegs
      refine ⟨d, t.clock, rfl, hlegs, ?_⟩
      rw [conclude_eq_close (d := d) rfl rfl hidle]
      exact await_of_underWay_eq_nil rfl _

section Close

variable {d : Delivery} (hid : d.id = t.begun) (hub : Hub) (clock : Nat) (location : LocationId)
include hid

/-- What has ended is found by its number, which no earlier delivery has. -/
theorem finished?_close :
    (({ t with hub, clock, begun := t.begun + 1 } : Timeline).close location d).finished? t.begun = some d := by
  have hearlier : t.finished.find? (·.id == t.begun) = none := by
    rw [List.find?_eq_none]
    intro other hother
    have hlt := hq.finished other hother
    simp only [beq_iff_eq]
    omega
  rw [finished?, close, List.find?_append, hearlier]
  simp [hid]

theorem quiet_close : (({ t with hub, clock, begun := t.begun + 1 } : Timeline).close location d).Quiet := by
  refine ⟨rfl, hq.heartbeats, ?_⟩
  intro other hother
  show other.id < t.begun + 1
  rcases List.mem_append.mp hother with hearlier | hlast
  · have hlt := hq.finished other hearlier
    omega
  · rw [List.mem_singleton.mp hlast]
    omega

end Close

/-- Waiting comes to nothing, as nobody makes room. -/
theorem deliver (location : LocationId) (text : String) (timeout : Nat) :
    (t.deliver location text timeout).1 = (t.hub.broadcast location text).1 ∧
      (t.deliver location text timeout).2.hub = (t.hub.broadcast location text).2 ∧
      (t.deliver location text timeout).2.Quiet := by
  obtain ⟨d, clock, hid, hlegs, hend⟩ := hq.await_begin location (.text text) timeout
    (Hub.offerEach (.text text) (t.hub.members location) t.hub).1
    (Hub.offerEach (.text text) (t.hub.members location) t.hub).2
  have hdeliver : (t.deliver location text timeout).2 = _ := hend
  have hreport : (t.deliver location text timeout).1 = d.report := by
    show ((t.deliver location text timeout).2.finished? t.begun).elim _ Delivery.report = _
    rw [hdeliver, hq.finished?_close hid, Option.elim_some]
  refine ⟨?_, ?_, ?_⟩
  · rw [hreport, d.report_eq (Hub.offerEach (.text text) (t.hub.members location) t.hub).2 location, hlegs]
    rfl
  · rw [hdeliver, close]
    simp only [hlegs]
    rfl
  · rw [hdeliver]
    exact hq.quiet_close hid _ clock location

theorem onHub (f : Hub → Hub) : (t.onHub f).Quiet :=
  ⟨hq.underWay, hq.heartbeats, hq.finished⟩

/-- Nobody waits for the room. -/
theorem takeFrames_eq (channel n : Nat) :
    (t.takeFrames channel n).2 = t.onHub (·.modifyChannel channel fun ch => (ch.take n).2) := by
  rw [takeFrames, hq.underWay]
  exact conclude_of_underWay_eq_nil hq.underWay

theorem hangUp_eq (channel : Nat) :
    t.hangUp channel = t.onHub (·.modifyChannel channel Channel.hangUp) := by
  obtain ⟨hub, clock, underWay, finished, heartbeats, begun⟩ := t
  obtain rfl : underWay = [] := hq.underWay
  exact conclude_of_underWay_eq_nil rfl

end Quiet

end Timeline

end Waterway
