import Waterway.Proofs.Database.Statements
import Waterway.Proofs.Registry.Scheduling
import Waterway.Socket.Session

/-!
# Steps of a session

What each step of a session does to its socket, to its queue and to the engine, and what has been written at each
stage.

## Main definitions

- `Look` — a question of a session to the store, with all that it was asked in
- `Session.Stepped` — the ways in which a step can go
- `Session.Progress` — what has been asked and written when a session has come so far

## Main statements

- `Session.stepped_step` — there are no other ways
- `Session.Progress.stepped` — the snapshot is written as a whole, and the queue after it
-/

namespace Waterway

open Engine

/-- A question of a session to the store. -/
structure Look where
  source : Source
  devices : Devices
  windows : Windows
  /-- By when the reading is judged. -/
  instant : Instant
  /-- The tables as they were. -/
  database : Database
  /-- How many reports had been stored. -/
  stored : Nat

namespace Look

/-- What the store answered. -/
def answer (look : Look) : StoreAnswer (Observation Float) :=
  ((DatabaseSource.store.latest look.devices look.source).run look.database).1

/-- What is sent about the feed. -/
def envelope (look : Look) : Envelope :=
  snapshotEnvelope look.windows look.source look.instant look.answer

def frame (look : Look) : Frame :=
  .text look.envelope.text

end Look

/-- Whether the queue is forwarded. -/
def Stage.isForwarding : Stage → Bool
  | .forwarding => true
  | _ => false

theorem Stage.isForwarding_iff {stage : Stage} : stage.isForwarding ↔ stage = .forwarding := by
  cases stage <;> simp [isForwarding]

theorem Outlet.write_of_isReady {o : Outlet} {f : Frame} {works : Bool} (h : (o.write f works).isReady) :
    f ≠ .close ∧ o.write f works = { written := o.written ++ [f], state := .ready } := by
  rw [write] at h ⊢
  split at h
  · next hnot =>
    rw [h] at hnot
    cases hnot
  · next hready =>
    rw [if_neg hready]
    split at h
    · next hworks =>
      rw [if_pos hworks]
      by_cases hclose : f = .close
      · rw [if_pos hclose] at h
        cases h
      · rw [if_neg hclose]
        exact ⟨hclose, rfl⟩
    · cases h

namespace Session

/-- What a session asks next, if it is to ask something. -/
def look? (s : Session) (e : Engine Database) (stored : Nat) : Option Look :=
  match s.stage with
  | .loading devices instant (source :: _) _ =>
    some ⟨source, devices, e.registry.settings.windows, instant, e.outside, stored⟩
  | _ => none

theorem eq_of_look? {s : Session} {e : Engine Database} {stored : Nat} {look : Look}
    (h : s.look? e stored = some look) : look.stored = stored ∧ look.database = e.outside := by
  rw [look?] at h
  split at h
  · cases h
    exact ⟨rfl, rfl⟩
  · cases h

/-- The ways in which a step can go. -/
inductive Stepped (s : Session) (e : Engine Database) : Session → Engine Database → Prop where
  /-- There is nothing to do. -/
  | idle (hstage : s.stage = .forwarding ∨ s.stage = .ended) : Stepped s e s e
  | asked {devices : Devices} {now : Instant} (hstage : s.stage = .subscribed) :
      Stepped s e { s with stage := .loading devices now Source.all [] } e
  | loaded {devices : Devices} {now : Instant} {source : Source} {remaining : List Source} {loaded : List Envelope}
      (hstage : s.stage = .loading devices now (source :: remaining) loaded) :
      Stepped s e { s with stage := .loading devices now remaining (loaded ++
        [snapshotEnvelope e.registry.settings.windows source now
          ((DatabaseSource.store.latest devices source).run e.outside).1]) } e
  | collected {devices : Devices} {now : Instant} {loaded : List Envelope}
      (hstage : s.stage = .loading devices now [] loaded) : Stepped s e { s with stage := .greeting loaded } e
  | greeted {envelope : Envelope} {remaining : List Envelope} (hstage : s.stage = .greeting (envelope :: remaining)) :
      Stepped s e
        { s with
          outlet := { written := s.outlet.written ++ [.text envelope.text] }
          stage := .greeting remaining } e
  | begun (hstage : s.stage = .greeting []) : Stepped s e { s with stage := .forwarding } e
  | forwarded {f : Frame} {rest : List Frame} {woken : List WorkerId} (hstage : s.stage = .forwarding)
      (hframes : (e.timeline.hub.channelOf s.connection).frames = f :: rest) :
      Stepped s e { s with outlet := { written := s.outlet.written ++ [f] } }
        { e with timeline := (e.timeline.takeFrames s.connection.channel 1).2, woken }
  /-- The session ends, perhaps after it has taken another frame out of its queue. -/
  | finished {outlet : Outlet} {t : Timeline} {woken : List WorkerId}
      (ht : t = e.timeline ∨ t = (e.timeline.takeFrames s.connection.channel 1).2) :
      Stepped s e { s with outlet, stage := .ended }
        { e with
          timeline := (t.onHub (·.unsubscribe s.connection.id s.location)).hangUp s.connection.channel
          woken }

variable {s : Session} {e : Engine Database}

theorem run_finish (s : Session) (e : Engine Database) : ∃ woken, s.finish.run e = ({ s with stage := .ended },
    { e with
      timeline := (e.timeline.onHub (·.unsubscribe s.connection.id s.location)).hangUp s.connection.channel
      woken }) :=
  run_onTimeline_wakeDelivering
    (fun t => ((), (t.onHub (·.unsubscribe s.connection.id s.location)).hangUp s.connection.channel))
    (pure ({ s with stage := .ended } : Session)) e

/-- A frame is written and the session goes on, or it ends. -/
theorem run_write (s : Session) (f : Frame) (works : Bool) (next : Stage) (e : Engine Database) :
    ((s.outlet.write f works).isReady ∧
      (s.write f works next).run e = ({ s with outlet := s.outlet.write f works, stage := next }, e)) ∨
    ∃ woken, (s.write f works next).run e = ({ s with outlet := s.outlet.write f works, stage := .ended },
      { e with
        timeline := (e.timeline.onHub (·.unsubscribe s.connection.id s.location)).hangUp s.connection.channel
        woken }) := by
  rw [write]
  by_cases hready : (s.outlet.write f works).isReady
  · refine .inl ⟨hready, ?_⟩
    rw [if_pos hready]
    rfl
  · rw [if_neg hready]
    exact .inr (run_finish { s with outlet := s.outlet.write f works } e)

/-- There are no other ways in which a frame is written. -/
theorem stepped_write {f : Frame} {works : Bool} {next : Stage} {t : Timeline} (woken : List WorkerId)
    (ht : t = e.timeline ∨ t = (e.timeline.takeFrames s.connection.channel 1).2)
    (hwritten : f ≠ .close → Stepped s e
      { s with outlet := { written := s.outlet.written ++ [f] }, stage := next } { e with timeline := t, woken }) :
    Stepped s e ((s.write f works next).run { e with timeline := t, woken }).1
      ((s.write f works next).run { e with timeline := t, woken }).2 := by
  rcases s.run_write f works next { e with timeline := t, woken } with ⟨hready, hrun⟩ | ⟨woken', hrun⟩
  · obtain ⟨hclose, hwrite⟩ := Outlet.write_of_isReady hready
    rw [hrun, hwrite]
    exact hwritten hclose
  · rw [hrun]
    exact .finished ht

theorem run_forward_of_evicted (hevicted : (e.timeline.hub.channelOf s.connection).evicted) (works : Bool) :
    (s.forward works).run e = (s.write .close works .forwarding).run e := by
  rw [forward, StateT.run_bind, StateT.run_get, pure_bind]
  dsimp only
  rw [Channel.next, if_pos hevicted]
  dsimp only
  rw [if_pos hevicted]

theorem run_forward_of_open (hevicted : (e.timeline.hub.channelOf s.connection).evicted = false) (works : Bool) :
    (s.forward works).run e =
      match (e.timeline.hub.channelOf s.connection).next (e.timeline.hasSender [] s.connection.channel) with
      | none => (s, e)
      | some f => (onTimeline (·.takeFrames s.connection.channel 1) >>= fun _ => wakeDelivering >>= fun _ =>
          s.write f works .forwarding).run e := by
  rw [forward, StateT.run_bind, StateT.run_get, pure_bind]
  dsimp only
  rw [hevicted]
  cases (e.timeline.hub.channelOf s.connection).next (e.timeline.hasSender [] s.connection.channel) <;> rfl

theorem stepped_forward (hstage : s.stage = .forwarding) (works : Bool) :
    Stepped s e ((s.forward works).run e).1 ((s.forward works).run e).2 := by
  cases hevicted : (e.timeline.hub.channelOf s.connection).evicted with
  | true =>
    rw [run_forward_of_evicted hevicted]
    exact stepped_write e.woken (.inl rfl) fun hclose => absurd rfl hclose
  | false =>
    rw [run_forward_of_open hevicted, Channel.next, if_neg (by simp [hevicted])]
    cases hframes : (e.timeline.hub.channelOf s.connection).frames with
    | cons f rest =>
      dsimp only
      obtain ⟨woken, hrun⟩ := run_onTimeline_wakeDelivering (·.takeFrames s.connection.channel 1)
        (s.write f works .forwarding) e
      have hstays (outlet : Outlet) : { s with outlet, stage := .forwarding } = { s with outlet } := by
        rw [← hstage]
      rw [hrun]
      refine stepped_write woken (.inr rfl) fun _ => ?_
      rw [hstays]
      exact .forwarded hstage hframes
    | nil =>
      by_cases hsender : e.timeline.hasSender [] s.connection.channel
      · rw [if_pos hsender]
        exact .idle (.inl hstage)
      · rw [if_neg hsender]
        dsimp only
        obtain ⟨woken, hrun⟩ := run_onTimeline_wakeDelivering (·.takeFrames s.connection.channel 1)
          (s.write .close works .forwarding) e
        rw [hrun]
        exact stepped_write woken (.inr rfl) fun hclose => absurd rfl hclose

/-- There are no other ways in which a step can go. -/
theorem stepped_step (s : Session) (e : Engine Database) (now : Instant) (works : Bool) :
    Stepped s e ((s.step DatabaseSource.surroundings now works).run e).1
      ((s.step DatabaseSource.surroundings now works).run e).2 := by
  rw [step]
  cases hstage : s.stage with
  | subscribed => exact .asked hstage
  | loading devices instant remaining loaded =>
    cases remaining with
    | nil => exact .collected hstage
    | cons source remaining =>
      have hasked : { e with
          outside := ((DatabaseSource.store.latest devices source).run e.outside).2 } = e := by
        rw [DatabaseSource.readsOnly_latest devices source e.outside]
      show Stepped s e _ { e with outside := ((DatabaseSource.store.latest devices source).run e.outside).2 }
      rw [hasked]
      exact .loaded hstage
  | greeting remaining =>
    cases remaining with
    | nil => exact .begun hstage
    | cons envelope remaining => exact stepped_write e.woken (.inl rfl) fun _ => .greeted hstage
  | forwarding => exact stepped_forward hstage works
  | ended => exact .idle (.inr hstage)

/-- A subscriber that goes away while its queue is forwarded ends its session. -/
theorem stepped_leave (hstage : s.stage = .forwarding) : Stepped s e (s.leave.run e).1 (s.leave.run e).2 := by
  obtain ⟨woken, hrun⟩ := s.run_finish e
  rw [leave, hstage]
  dsimp only
  rw [hrun]
  exact .finished (.inl rfl)

namespace Stepped

variable {s' : Session} {e' : Engine Database} (h : Stepped s e s' e')
include h

theorem connection_eq : s'.connection = s.connection := by
  cases h <;> rfl

theorem location_eq : s'.location = s.location := by
  cases h <;> rfl

theorem outside_eq : e'.outside = e.outside := by
  cases h <;> rfl

/-- A session that has ended does nothing any more. -/
theorem ended (hstage : s.stage = .ended) : s'.stage = .ended := by
  cases h with
  | idle => exact hstage
  | finished => rfl
  | asked h | loaded h | collected h | greeted h | begun h | forwarded h =>
    rw [hstage] at h
    cases h

end Stepped

/-- What has been asked and written when a session has come so far, and what of it has come out of its queue. -/
def Progress (s : Session) (looks : List Look) (forwarded : List Frame) : Prop :=
  match s.stage with
  | .subscribed => looks = [] ∧ s.outlet.written = [] ∧ forwarded = []
  | .loading _ _ remaining loaded => looks.map (·.source) ++ remaining = Source.all ∧
      loaded = looks.map Look.envelope ∧ s.outlet.written = [] ∧ forwarded = []
  | .greeting remaining => looks.map (·.source) = Source.all ∧
      s.outlet.written ++ remaining.map (fun envelope => .text envelope.text) = looks.map Look.frame ∧
      forwarded = []
  | .forwarding => looks.map (·.source) = Source.all ∧ s.outlet.written = looks.map Look.frame ++ forwarded
  | .ended => True

/-- What a step takes out of the queue, if it takes a frame. -/
inductive Takes (c : Connection) (e : Engine Database) : List Frame → Engine Database → Prop where
  | nothing : Takes c e [] e
  | frame {f : Frame} {rest : List Frame} {woken : List WorkerId}
      (hframes : (e.timeline.hub.channelOf c).frames = f :: rest) :
      Takes c e [f] { e with timeline := (e.timeline.takeFrames c.channel 1).2, woken }

/-- The feeds are asked in order, all of the snapshot is written, and then what is taken out of the queue. -/
theorem Progress.stepped {looks : List Look} {forwarded : List Frame} (h : s.Progress looks forwarded) {s' : Session}
    {e' : Engine Database} (hstep : Stepped s e s' e') (stored : Nat) : s'.stage = .ended ∨
      ∃ taken, Takes s.connection e taken e' ∧
        s'.Progress (looks ++ (s.look? e stored).toList) (forwarded ++ taken) := by
  rw [Progress] at h
  cases hstep with
  | idle hstage =>
    rcases hstage with hstage | hstage
    · refine .inr ⟨[], .nothing, ?_⟩
      rw [hstage] at h
      rw [Progress, look?, hstage]
      simpa using h
    · exact .inl hstage
  | asked hstage =>
    rw [hstage] at h
    obtain ⟨rfl, hwritten, rfl⟩ := h
    refine .inr ⟨[], .nothing, ?_⟩
    rw [look?, hstage]
    exact ⟨rfl, rfl, hwritten, rfl⟩
  | @loaded devices now source remaining loaded hstage =>
    rw [hstage] at h
    obtain ⟨hsources, rfl, hwritten, rfl⟩ := h
    refine .inr ⟨[], .nothing, ?_⟩
    rw [look?, hstage]
    refine ⟨?_, ?_, hwritten, rfl⟩
    · rw [← hsources]
      simp
    · rw [Option.toList_some, List.map_append]
      rfl
  | @collected devices now loaded hstage =>
    rw [hstage] at h
    obtain ⟨hsources, rfl, hwritten, rfl⟩ := h
    refine .inr ⟨[], .nothing, ?_⟩
    rw [look?, hstage, Option.toList_none, List.append_nil]
    refine ⟨?_, ?_, rfl⟩
    · rwa [List.append_nil] at hsources
    · rw [hwritten, List.map_map, List.nil_append]
      rfl
  | greeted hstage =>
    rw [hstage] at h
    obtain ⟨hsources, hwritten, rfl⟩ := h
    refine .inr ⟨[], .nothing, ?_⟩
    rw [look?, hstage, Option.toList_none, List.append_nil]
    refine ⟨hsources, ?_, rfl⟩
    rw [← hwritten, List.append_assoc]
    rfl
  | begun hstage =>
    rw [hstage] at h
    obtain ⟨hsources, hwritten, rfl⟩ := h
    refine .inr ⟨[], .nothing, ?_⟩
    rw [look?, hstage, Option.toList_none, List.append_nil]
    refine ⟨hsources, ?_⟩
    rw [← hwritten]
    simp
  | @forwarded f rest woken hstage hframes =>
    rw [hstage] at h
    obtain ⟨hsources, hwritten⟩ := h
    refine .inr ⟨[f], .frame hframes, ?_⟩
    rw [look?, hstage, Option.toList_none, List.append_nil]
    refine ⟨hsources, ?_⟩
    rw [hwritten, List.append_assoc]
  | finished => exact .inl rfl

end Session

end Waterway
