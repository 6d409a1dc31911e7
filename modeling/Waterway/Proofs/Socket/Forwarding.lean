import Waterway.Proofs.Fanout.Senders
import Waterway.Proofs.Socket.Sessions

/-!
# The end of a queue

A session that forwards its queue writes the frames in the order in which they came, and a request to close after them
when one is in the queue, when the subscriber has been evicted, or when nobody is left who could send. Whatever happens
in between, nothing follows that request.

## Main definitions

- `Session.Forwarded` — the ways in which a frame is forwarded
- `Session.Course` — a session forwards while other things happen, and what has been in its queue
- `Timeline.EndsWithin` — a queue that comes to its end within some steps

## Main statements

- `Session.forwarded_forward` — there are no other ways
- `Session.Course.ended`, `Session.Course.written_of_evicted`, `Session.Course.ends` — what follows
- `forwarding_ends_cleanly` — what has been written at any time

## Design notes

The socket works or fails at each step of the session. Between the steps anything may happen that feeds the queue. A
subscriber that leaves ends its session as it is, so that there is nothing more to say of it.
-/

namespace Waterway

/-! ## Queues and their ends -/

namespace Timeline

variable {n taken steps : Nat} {t t' : Timeline}

/-- What has come into a queue while some frames were taken out of it. -/
def gained (n taken : Nat) (t t' : Timeline) : List Frame :=
  (t'.hub.channel n).frames.drop ((t.hub.channel n).frames.length - taken)

theorem Feeds.frames_eq (h : t.Feeds n taken t') :
    (t'.hub.channel n).frames = (t.hub.channel n).frames.drop taken ++ t.gained n taken t' := by
  have hbegins := List.prefix_iff_eq_append.mp h.frames
  rw [List.length_drop] at hbegins
  exact hbegins.symm

/-- A queue comes to its end within some steps: the subscriber has been evicted, or a request to close is reached by
then, or all frames are gone by then and nobody can send another one. -/
def EndsWithin (t : Timeline) (n steps : Nat) : Prop :=
  ((t.hub.channel n).evicted ∧ 0 < steps) ∨
  (∃ k < steps, (t.hub.channel n).frames[k]? = some .close) ∨
  (t.hasSender [] n = false ∧ (t.hub.channel n).frames.length < steps)

namespace EndsWithin

theorem pos (h : t.EndsWithin n steps) : 0 < steps := by
  rcases h with ⟨-, hsteps⟩ | ⟨_, hk, -⟩ | ⟨-, hlength⟩
  · exact hsteps
  · exact Nat.zero_lt_of_lt hk
  · exact Nat.zero_lt_of_lt hlength

theorem feeds (h : t.EndsWithin n steps) (hfeeds : t.Feeds n 0 t') : t'.EndsWithin n steps := by
  rcases h with ⟨hevicted, hsteps⟩ | ⟨k, hk, hclose⟩ | ⟨hsender, hlength⟩
  · exact .inl ⟨hfeeds.evicted hevicted, hsteps⟩
  · obtain ⟨hlt, -⟩ := List.getElem?_eq_some_iff.mp hclose
    refine .inr (.inl ⟨k, hk, ?_⟩)
    rw [hfeeds.frames_eq, List.drop_zero, List.getElem?_append_left hlt]
    exact hclose
  · refine .inr (.inr ⟨hfeeds.hasSender_eq_false hsender, ?_⟩)
    rw [hfeeds.unsent hsender]
    exact hlength

/-- Each frame that is taken brings the end nearer. -/
theorem passed (h : t.EndsWithin n (steps + 1)) (hopen : (t.hub.channel n).evicted = false) {f : Frame}
    {rest : List Frame} (hframes : (t.hub.channel n).frames = f :: rest) (hf : f ≠ .close) (hfeeds : t.Feeds n 1 t') :
    t'.EndsWithin n steps := by
  rcases h with ⟨hevicted, -⟩ | ⟨k, hk, hclose⟩ | ⟨hsender, hlength⟩
  · rw [hopen] at hevicted
    cases hevicted
  · rw [hframes] at hclose
    cases k with
    | zero => exact absurd (Option.some.inj hclose) hf
    | succ k =>
      rw [List.getElem?_cons_succ] at hclose
      obtain ⟨hlt, -⟩ := List.getElem?_eq_some_iff.mp hclose
      refine .inr (.inl ⟨k, Nat.lt_of_succ_lt_succ hk, ?_⟩)
      rw [hfeeds.frames_eq, hframes, List.drop_one, List.tail_cons, List.getElem?_append_left hlt]
      exact hclose
  · refine .inr (.inr ⟨hfeeds.hasSender_eq_false hsender, ?_⟩)
    rw [hfeeds.unsent hsender, hframes, List.drop_one, List.tail_cons]
    rw [hframes, List.length_cons] at hlength
    exact Nat.lt_of_succ_lt_succ hlength

/-- There is something to forward as long as the end is not reached. -/
theorem not_waited (h : t.EndsWithin n steps) (hopen : (t.hub.channel n).evicted = false)
    (hframes : (t.hub.channel n).frames = []) (hsender : t.hasSender [] n) : False := by
  rcases h with ⟨hevicted, -⟩ | ⟨k, -, hclose⟩ | ⟨hnone, -⟩
  · rw [hopen] at hevicted
    cases hevicted
  · rw [hframes] at hclose
    cases hclose
  · rw [hsender] at hnone
    cases hnone

end EndsWithin

end Timeline

/-! ## Steps -/

namespace Session

variable {s s' : Session} {e e' : Engine Database} {works : Bool}

/-- The queue of a session. -/
def queue (s : Session) (e : Engine Database) : Channel :=
  e.timeline.hub.channelOf s.connection

/-- The ways in which a frame is forwarded. -/
inductive Forwarded (s : Session) (e : Engine Database) (works : Bool) : Session → Engine Database → Prop where
  /-- There is nothing to forward yet. -/
  | waited (hopen : (s.queue e).evicted = false) (hframes : (s.queue e).frames = [])
      (hsender : e.timeline.hasSender [] s.connection.channel) : Forwarded s e works s e
  | passed {f : Frame} {rest : List Frame} {e' : Engine Database} (hopen : (s.queue e).evicted = false)
      (hframes : (s.queue e).frames = f :: rest) (hf : f ≠ .close)
      (hfeeds : e.timeline.Feeds s.connection.channel 1 e'.timeline) :
      Forwarded s e works { s with outlet := ⟨s.outlet.written ++ [f], .ready⟩ } e'
  | closed {e' : Engine Database} :
      Forwarded s e works { s with outlet := ⟨s.outlet.written ++ [.close], .closed⟩, stage := .ended } e'
  | broken {e' : Engine Database} (hworks : works = false) :
      Forwarded s e works { s with outlet := ⟨s.outlet.written, .broken⟩, stage := .ended } e'

/-- A frame is written and the session goes on, or it is the last one, or it cannot be written. -/
theorem forwarded_write (hstage : s.stage = .forwarding) (hready : s.outlet.state = .ready) {f : Frame}
    {e₁ : Engine Database}
    (hpassed : f ≠ .close → Forwarded s e works { s with outlet := ⟨s.outlet.written ++ [f], .ready⟩ } e₁) :
    Forwarded s e works ((s.write f works .forwarding).run e₁).1 ((s.write f works .forwarding).run e₁).2 := by
  have hisReady : s.outlet.isReady := decide_eq_true hready
  rw [write]
  cases works with
  | false =>
    have hbroken : s.outlet.write f false = ⟨s.outlet.written, .broken⟩ := by simp [Outlet.write, hisReady]
    obtain ⟨woken, hfinish⟩ := run_finish { s with outlet := ⟨s.outlet.written, .broken⟩ } e₁
    rw [hbroken]
    change Forwarded s e false ((finish _).run e₁).1 ((finish _).run e₁).2
    rw [hfinish]
    exact .broken rfl
  | true =>
    by_cases hf : f = .close
    · subst hf
      have hclosed : s.outlet.write .close true = ⟨s.outlet.written ++ [.close], .closed⟩ := by
        simp [Outlet.write, hisReady]
      obtain ⟨woken, hfinish⟩ := run_finish { s with outlet := ⟨s.outlet.written ++ [.close], .closed⟩ } e₁
      rw [hclosed]
      change Forwarded s e true ((finish _).run e₁).1 ((finish _).run e₁).2
      rw [hfinish]
      exact .closed
    · have hwritten : s.outlet.write f true = ⟨s.outlet.written ++ [f], .ready⟩ := by
        simp [Outlet.write, hisReady, hf]
      rw [hwritten]
      show Forwarded s e true { s with outlet := ⟨s.outlet.written ++ [f], .ready⟩, stage := .forwarding } e₁
      rw [← hstage]
      exact hpassed hf

/-- There are no other ways in which a frame is forwarded. -/
theorem forwarded_forward (hstage : s.stage = .forwarding) (hready : s.outlet.state = .ready) :
    Forwarded s e works ((s.forward works).run e).1 ((s.forward works).run e).2 := by
  cases hevicted : (s.queue e).evicted with
  | true =>
    rw [run_forward_of_evicted hevicted]
    exact forwarded_write hstage hready fun hf => absurd rfl hf
  | false =>
    have hnotEvicted : ¬(e.timeline.hub.channelOf s.connection).evicted := Bool.not_eq_true _ ▸ hevicted
    rw [run_forward_of_open hevicted, Channel.next, if_neg hnotEvicted]
    cases hframes : (e.timeline.hub.channelOf s.connection).frames with
    | cons f rest =>
      obtain ⟨woken, htaken⟩ := Engine.run_onTimeline_wakeDelivering (·.takeFrames s.connection.channel 1)
        (s.write f works .forwarding) e
      dsimp only
      rw [htaken]
      exact forwarded_write hstage hready fun hf => .passed hevicted hframes hf (e.timeline.feeds_takeFrames 1)
    | nil =>
      by_cases hsender : e.timeline.hasSender [] s.connection.channel
      · rw [if_pos hsender]
        exact .waited hevicted hframes hsender
      · obtain ⟨woken, htaken⟩ := Engine.run_onTimeline_wakeDelivering (·.takeFrames s.connection.channel 1)
          (s.write .close works .forwarding) e
        rw [if_neg hsender]
        dsimp only
        rw [htaken]
        exact forwarded_write hstage hready fun hf => absurd rfl hf

namespace Forwarded

theorem of_evicted (h : Forwarded s e works s' e') (hevicted : (s.queue e).evicted) :
    s'.stage = .ended ∧
      (s'.outlet.written = s.outlet.written ∨ s'.outlet.written = s.outlet.written ++ [.close]) := by
  cases h with
  | waited hopen | passed hopen =>
    rw [hevicted] at hopen
    cases hopen
  | closed => exact ⟨rfl, .inr rfl⟩
  | broken => exact ⟨rfl, .inl rfl⟩

/-- Each step brings the end of the queue nearer. -/
theorem ends (h : Forwarded s e works s' e') (hstage : s.stage = .forwarding) {steps : Nat}
    (hends : e.timeline.EndsWithin s.connection.channel (steps + 1)) :
    s'.stage = .ended ∨ s'.stage = .forwarding ∧ s'.outlet.state = .ready ∧
      e'.timeline.EndsWithin s.connection.channel steps := by
  cases h with
  | waited hopen hframes hsender => exact (hends.not_waited hopen hframes hsender).elim
  | passed hopen hframes hf hfeeds => exact .inr ⟨hstage, rfl, hends.passed hopen hframes hf hfeeds⟩
  | closed | broken => exact .inl rfl

end Forwarded

theorem run_step_of_forwarding (hstage : s.stage = .forwarding) (now : Instant) (works : Bool) (e : Engine Database) :
    (s.step DatabaseSource.surroundings now works).run e = (s.forward works).run e := by
  rw [step, hstage]

theorem run_step_of_ended (hstage : s.stage = .ended) (now : Instant) (works : Bool) (e : Engine Database) :
    (s.step DatabaseSource.surroundings now works).run e = (s, e) := by
  rw [step, hstage]
  rfl

end Session

/-! ## Courses of events -/

namespace Session

variable {s s' : Session} {e e' : Engine Database} {works : Bool}

/-- A session forwards while other things happen: at which steps its socket has worked, and all that has been in its
queue. -/
inductive Course (s : Session) (e : Engine Database) : List Bool → List Frame → Session → Engine Database → Prop where
  | start : Course s e [] (s.queue e).frames s e
  | step {writes : List Bool} {queued : List Frame} {s' : Session} {e' : Engine Database}
      (h : Course s e writes queued s' e') (now : Instant) (works : Bool) :
      Course s e (writes ++ [works])
        (queued ++ e'.timeline.gained s.connection.channel 1
          ((s'.step DatabaseSource.surroundings now works).run e').2.timeline)
        ((s'.step DatabaseSource.surroundings now works).run e').1
        ((s'.step DatabaseSource.surroundings now works).run e').2
  | meanwhile {writes : List Bool} {queued : List Frame} {s' : Session} {e' e'' : Engine Database}
      (h : Course s e writes queued s' e') (hfeeds : e'.timeline.Feeds s.connection.channel 0 e''.timeline) :
      Course s e writes (queued ++ e'.timeline.gained s.connection.channel 0 e''.timeline) s' e''

/-- What has been written when so much has been in the queue. -/
inductive Account (s : Session) (writes : List Bool) (queued : List Frame) (s' : Session) (e' : Engine Database) :
    Prop where
  | going {forwarded : List Frame} (hstage : s'.stage = .forwarding)
      (houtlet : s'.outlet = ⟨s.outlet.written ++ forwarded, .ready⟩) (hclose : .close ∉ forwarded)
      (hqueued : queued = forwarded ++ (s'.queue e').frames) : Account s writes queued s' e'
  | closed {forwarded rest : List Frame} (hstage : s'.stage = .ended)
      (houtlet : s'.outlet = ⟨s.outlet.written ++ forwarded ++ [.close], .closed⟩) (hclose : .close ∉ forwarded)
      (hqueued : queued = forwarded ++ rest) : Account s writes queued s' e'
  | broken {forwarded rest : List Frame} (hstage : s'.stage = .ended)
      (houtlet : s'.outlet = ⟨s.outlet.written ++ forwarded, .broken⟩) (hclose : .close ∉ forwarded)
      (hqueued : queued = forwarded ++ rest) (hfailed : false ∈ writes) : Account s writes queued s' e'

namespace Account

variable {writes : List Bool} {queued : List Frame} {s'' : Session} {e'' : Engine Database}

/-- A frame that is forwarded is the oldest that has not been, and what comes in meanwhile is the latest. -/
theorem forwarded {forwarded : List Frame} (hstage : s'.stage = .forwarding)
    (houtlet : s'.outlet = ⟨s.outlet.written ++ forwarded, .ready⟩) (hclose : .close ∉ forwarded)
    (hqueued : queued = forwarded ++ (s'.queue e').frames) (h : Forwarded s' e' works s'' e'') :
    Account s (writes ++ [works]) (queued ++ e'.timeline.gained s'.connection.channel 1 e''.timeline) s'' e'' := by
  cases h with
  | waited hopen hframes =>
    have hgained : e'.timeline.gained s'.connection.channel 1 e'.timeline = [] := by
      have hframes : (e'.timeline.hub.channel s'.connection.channel).frames = [] := hframes
      rw [Timeline.gained, hframes, List.drop_nil]
    rw [hgained, List.append_nil]
    exact .going hstage houtlet hclose hqueued
  | @passed f rest _ hopen hframes hf hfeeds =>
    have hleft : (s'.queue e'').frames = rest ++ e'.timeline.gained s'.connection.channel 1 e''.timeline := by
      refine hfeeds.frames_eq.trans ?_
      rw [show (e'.timeline.hub.channel s'.connection.channel).frames = f :: rest from hframes, List.drop_one,
        List.tail_cons]
    have hothers : .close ∉ forwarded ++ [f] := by
      rw [List.mem_append, List.mem_singleton]
      exact not_or.mpr ⟨hclose, Ne.symm hf⟩
    refine .going hstage ?_ hothers ?_
    · rw [houtlet, List.append_assoc]
    · rw [hqueued, hframes]
      show _ = forwarded ++ [f] ++ (s'.queue e'').frames
      rw [hleft]
      simp
  | closed => exact .closed rfl (by rw [houtlet]) hclose (by rw [hqueued, List.append_assoc])
  | broken hworks =>
    refine .broken rfl (by rw [houtlet]) hclose (by rw [hqueued, List.append_assoc]) ?_
    rw [hworks]
    exact List.mem_concat_self

theorem stepped (h : Account s writes queued s' e') (now : Instant) (works : Bool) :
    Account s (writes ++ [works])
      (queued ++ e'.timeline.gained s'.connection.channel 1
        ((s'.step DatabaseSource.surroundings now works).run e').2.timeline)
      ((s'.step DatabaseSource.surroundings now works).run e').1
      ((s'.step DatabaseSource.surroundings now works).run e').2 := by
  cases h with
  | going hstage houtlet hclose hqueued =>
    rw [run_step_of_forwarding hstage]
    exact forwarded hstage houtlet hclose hqueued (forwarded_forward hstage (by rw [houtlet]))
  | closed hstage houtlet hclose hqueued =>
    rw [run_step_of_ended hstage]
    exact .closed hstage houtlet hclose (by rw [hqueued, List.append_assoc])
  | broken hstage houtlet hclose hqueued hfailed =>
    rw [run_step_of_ended hstage]
    exact .broken hstage houtlet hclose (by rw [hqueued, List.append_assoc]) (List.mem_append_left _ hfailed)

theorem fed (h : Account s writes queued s' e') (hfeeds : e'.timeline.Feeds s'.connection.channel 0 e''.timeline) :
    Account s writes (queued ++ e'.timeline.gained s'.connection.channel 0 e''.timeline) s' e'' := by
  cases h with
  | going hstage houtlet hclose hqueued =>
    have hframes : (s'.queue e'').frames =
        (s'.queue e').frames ++ e'.timeline.gained s'.connection.channel 0 e''.timeline := hfeeds.frames_eq
    exact .going hstage houtlet hclose (by rw [hqueued, hframes, List.append_assoc])
  | closed hstage houtlet hclose hqueued =>
    exact .closed hstage houtlet hclose (by rw [hqueued, List.append_assoc])
  | broken hstage houtlet hclose hqueued hfailed =>
    exact .broken hstage houtlet hclose (by rw [hqueued, List.append_assoc]) hfailed

theorem active_or_ended (h : Account s writes queued s' e') :
    (s'.stage = .forwarding ∧ s'.outlet.state = .ready) ∨ s'.stage = .ended := by
  cases h with
  | going hstage houtlet => exact .inl ⟨hstage, by rw [houtlet]⟩
  | closed hstage | broken hstage => exact .inr hstage

/-- What has been forwarded came before all requests to close. -/
theorem exists_forwarded (h : Account s writes queued s' e') :
    ∃ forwarded, forwarded <+: queued.takeWhile (· ≠ .close) ∧
      ((s'.stage = .forwarding ∧ s'.outlet = ⟨s.outlet.written ++ forwarded, .ready⟩) ∨
        (s'.stage = .ended ∧ s'.outlet = ⟨s.outlet.written ++ forwarded ++ [.close], .closed⟩) ∨
        (s'.stage = .ended ∧ s'.outlet = ⟨s.outlet.written ++ forwarded, .broken⟩ ∧ false ∈ writes)) := by
  have hbegins {forwarded rest : List Frame} (hclose : .close ∉ forwarded) (hqueued : queued = forwarded ++ rest) :
      forwarded <+: queued.takeWhile (· ≠ .close) := by
    have hothers (f : Frame) (hf : f ∈ forwarded) : decide (f ≠ .close) := by
      refine decide_eq_true ?_
      rintro rfl
      exact hclose hf
    rw [hqueued, List.takeWhile_append_of_pos hothers]
    exact List.prefix_append _ _
  cases h with
  | going hstage houtlet hclose hqueued => exact ⟨_, hbegins hclose hqueued, .inl ⟨hstage, houtlet⟩⟩
  | closed hstage houtlet hclose hqueued => exact ⟨_, hbegins hclose hqueued, .inr (.inl ⟨hstage, houtlet⟩)⟩
  | broken hstage houtlet hclose hqueued hfailed =>
    exact ⟨_, hbegins hclose hqueued, .inr (.inr ⟨hstage, houtlet, hfailed⟩)⟩

end Account

namespace Course

variable {writes : List Bool} {queued : List Frame}

theorem connection_eq (h : Course s e writes queued s' e') : s'.connection = s.connection := by
  induction h with
  | start => rfl
  | step _ now works ih => exact ((stepped_step _ _ now works).connection_eq).trans ih
  | meanwhile _ _ ih => exact ih

/-- At any time the frames that have been forwarded are those that came first. -/
theorem account (hstage : s.stage = .forwarding) (hready : s.outlet.state = .ready)
    (h : Course s e writes queued s' e') : Account s writes queued s' e' := by
  induction h with
  | start => exact .going hstage (by rw [List.append_nil, ← hready]) List.not_mem_nil rfl
  | step h now works ih =>
    rw [← h.connection_eq]
    exact ih.stepped now works
  | meanwhile h hfeeds ih =>
    rw [← h.connection_eq] at hfeeds ⊢
    exact ih.fed hfeeds

/-- A session that has ended writes nothing any more. -/
theorem ended (hstage : s.stage = .ended) (h : Course s e writes queued s' e') : s' = s := by
  induction h with
  | start => rfl
  | step _ now works ih =>
    subst ih
    rw [run_step_of_ended hstage]
  | meanwhile _ _ ih => exact ih

/-- Once the subscriber has been evicted, nothing is written but a request to close. -/
theorem written_of_evicted (hstage : s.stage = .forwarding) (hready : s.outlet.state = .ready)
    (hevicted : (s.queue e).evicted) (h : Course s e writes queued s' e') :
    (s' = s ∧ (s.queue e').evicted) ∨
      s'.stage = .ended ∧
        (s'.outlet.written = s.outlet.written ∨ s'.outlet.written = s.outlet.written ++ [.close]) := by
  induction h with
  | start => exact .inl ⟨rfl, hevicted⟩
  | @step _ _ s' e' _ now works ih =>
    rcases ih with ⟨rfl, hevicted'⟩ | ⟨hended, hwritten⟩
    · rw [run_step_of_forwarding hstage]
      exact .inr ((forwarded_forward hstage hready).of_evicted hevicted')
    · rw [run_step_of_ended hended]
      exact .inr ⟨hended, hwritten⟩
  | meanwhile _ hfeeds ih => exact ih.imp_left fun ⟨heq, hevicted'⟩ => ⟨heq, hfeeds.evicted hevicted'⟩

/-- A session whose queue comes to its end has ended after as many steps. -/
theorem ends (hstage : s.stage = .forwarding) (hready : s.outlet.state = .ready) {steps : Nat}
    (hends : e.timeline.EndsWithin s.connection.channel (writes.length + steps)) (h : Course s e writes queued s' e') :
    s'.stage = .ended ∨ s'.stage = .forwarding ∧ s'.outlet.state = .ready ∧
      e'.timeline.EndsWithin s.connection.channel steps := by
  induction h generalizing steps with
  | start => exact .inr ⟨hstage, hready, by simpa using hends⟩
  | @step _ _ s' e' h now works ih =>
    rw [List.length_append, List.length_singleton, Nat.add_assoc, Nat.add_comm 1] at hends
    rcases ih hends with hended | ⟨hstage', hready', hends'⟩
    · rw [run_step_of_ended hended]
      exact .inl hended
    · rw [run_step_of_forwarding hstage']
      rw [← h.connection_eq] at hends' ⊢
      exact (forwarded_forward hstage' hready').ends hstage' hends'
  | meanwhile _ hfeeds ih =>
    refine (ih hends).imp_right fun ⟨hstage', hready', hends'⟩ => ⟨hstage', hready', hends'.feeds hfeeds⟩

theorem ended_of_endsWithin (hstage : s.stage = .forwarding) (hready : s.outlet.state = .ready)
    (hends : e.timeline.EndsWithin s.connection.channel writes.length) (h : Course s e writes queued s' e') :
    s'.stage = .ended := by
  rcases h.ends hstage hready (by rwa [Nat.add_zero]) with hended | ⟨-, -, hnone⟩
  · exact hended
  · exact absurd hnone.pos (Nat.lt_irrefl 0)

end Course

end Session

open Session in
/-- What a session writes while it forwards its queue are the first frames that were in the queue, none of them twice
and none behind a request to close. Its last frame is such a request, unless the socket has failed. Nothing is written
behind that, and nothing else once the subscriber has been evicted. A queue that comes to its end ends the session. -/
theorem forwarding_ends_cleanly {s₀ s : Session} {e₀ e : Engine Database} {writes : List Bool} {queued : List Frame}
    (hstage : s₀.stage = .forwarding) (hready : s₀.outlet.state = .ready) (h : Course s₀ e₀ writes queued s e) :
    (∃ forwarded, forwarded <+: queued.takeWhile (· ≠ .close) ∧
      ((s.stage = .forwarding ∧ s.outlet = ⟨s₀.outlet.written ++ forwarded, .ready⟩) ∨
        (s.stage = .ended ∧ s.outlet = ⟨s₀.outlet.written ++ forwarded ++ [.close], .closed⟩) ∨
        (s.stage = .ended ∧ s.outlet = ⟨s₀.outlet.written ++ forwarded, .broken⟩ ∧ false ∈ writes))) ∧
    ∀ (later : List Bool) (more : List Frame) (s' : Session) (e' : Engine Database), Course s e later more s' e' →
      (s.stage = .ended → s'.outlet = s.outlet) ∧
      ((s.queue e).evicted →
        s'.outlet.written = s.outlet.written ∨ s'.outlet.written = s.outlet.written ++ [.close]) ∧
      (e.timeline.EndsWithin s.connection.channel later.length → s'.stage = .ended) := by
  have haccount := h.account hstage hready
  refine ⟨haccount.exists_forwarded, fun later more s' e' hlater => ?_⟩
  rcases haccount.active_or_ended with ⟨hstage', hready'⟩ | hended
  · refine ⟨fun hended => ?_, fun hevicted => ?_, fun hends => hlater.ended_of_endsWithin hstage' hready' hends⟩
    · rw [hstage'] at hended
      cases hended
    · rcases hlater.written_of_evicted hstage' hready' hevicted with ⟨rfl, -⟩ | ⟨-, hwritten⟩
      · exact .inl rfl
      · exact hwritten
  · rw [hlater.ended hended]
    exact ⟨fun _ => rfl, fun _ => .inl rfl, fun _ => hended⟩

/-- A subscriber with two frames in its queue. -/
def quaySession : Session :=
  { connection := ⟨"quay", 0⟩, location := 7, stage := .forwarding }

def quayEngine : Engine Database :=
  { registry := {}
    outside := { now := .year2000 }
    timeline := { hub := {
      channels := [(0, { capacity := 3, frames := [.text "high water", .ping] })]
      opened := 1
      rooms := [(7, [⟨"quay", 0⟩])] } } }

/-- The program is shut down after the first of them has been written. -/
def quayShutDown : Engine Database :=
  let passed := ((quaySession.step DatabaseSource.surroundings .year2000 true).run quayEngine).2
  { passed with timeline := passed.timeline.onHub Hub.shutdownAll }

open Session in
theorem forwarding_ends_cleanly_shutDown :
    ∃ s e, Course quaySession quayEngine [true, true] [.text "high water", .ping, .close] s e ∧
      s.outlet = ⟨[.text "high water", .close], .closed⟩ ∧
      ∀ later more s' e', Course s e later more s' e' → s'.outlet = s.outlet := by
  have hfirst := Course.step (s := quaySession) (e := quayEngine) .start .year2000 true
  have hshutDown : Course quaySession quayEngine [true] _ _ quayShutDown :=
    hfirst.meanwhile Timeline.Happens.shutDown.feeds
  have hsecond := hshutDown.step .year2000 true
  have hlater := (forwarding_ends_cleanly rfl rfl hsecond).2
  exact ⟨_, _, hsecond, rfl, fun later more s' e' h => (hlater later more s' e' h).1 rfl⟩

end Waterway
