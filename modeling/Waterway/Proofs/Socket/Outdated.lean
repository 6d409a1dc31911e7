import Waterway.Proofs.Socket.Arrival

/-!
# Frames that are older than the snapshot

A session is subscribed for some time before it asks for what is stored. What is announced in that time waits in its
queue, and the snapshot may already tell of something later.

## Main definitions

- `Look.reading?` — the reading that the snapshot carries about a feed
- `Scene.Forwarded` — a report has been forwarded behind the snapshot
- `Scene.Outdated` — it was observed before the reading that the snapshot carries
- `Scene.Orderly` — reports are taken in one after the other

## Main statements

- `Scene.outdated_iff` — which reports are outdated: those behind which another of their device had been stored when the
  session asked
- `Scene.outdated_overlap` — there are some
-/

namespace Waterway

namespace Look

variable {look : Look} {o : Observation Float}

/-- The reading that the snapshot carries about a feed: the latest, unless it has expired. -/
def reading? (look : Look) : Option (Observation Float) :=
  match look.answer with
  | .ok (some o) =>
    if (look.windows.of look.source).classify o.observedAt look.instant = .expired then none else some o
  | _ => none

/-- There is no other value in the message. -/
theorem payload_envelope (look : Look) : look.envelope.payload = look.reading?.map Observation.toJson := by
  unfold envelope snapshotEnvelope Windows.reading reading?
  rcases look.answer with error | _ | o
  · rfl
  · rfl
  · dsimp only
    cases (look.windows.of look.source).classify o.observedAt look.instant <;> rfl

theorem answer_of_reading? (h : look.reading? = some o) : look.answer = .ok (some o) := by
  rw [reading?] at h
  split at h
  · next o' hanswer =>
    split at h
    · cases h
    · cases h
      exact hanswer
  · cases h

end Look

namespace Scene

variable {s : Scene} {session : Session} {look : Look} {entry : Entry} {i : Nat} {o : Observation Float}

/-- A report of its location has been forwarded to the subscriber behind the snapshot. -/
def Forwarded (s : Scene) (session : Session) (entry : Entry) : Prop :=
  entry.location = session.location ∧ .text entry.text ∈ session.outlet.written.drop s.looks.length

/-- It was observed before the reading that the snapshot carries about its feed. -/
def Outdated (s : Scene) (session : Session) (look : Look) (entry : Entry) : Prop :=
  s.Forwarded session entry ∧ look.source = entry.source ∧
    ∃ o, look.reading? = some o ∧ entry.observedAt.before o.observedAt

/-- Of a device whose readings ascend, those are before the latest that are not the last. -/
theorem Recorded.before_iff (hr : s.Recorded) (hlook : look ∈ s.looks) (hentry : s.entries[i]? = some entry)
    (hsource : look.source = entry.source) (hkey : look.devices.key look.source = some entry.key)
    (hascending : (s.engine.outside.times entry.source entry.key).Pairwise fun a b => a.before b)
    (hreading : look.reading? = some o) : entry.observedAt.before o.observedAt ↔
      entry.position + 1 < (look.database.times entry.source entry.key).length := by
  have hlatest := DatabaseSource.isLatest_of_latest hkey (Look.answer_of_reading? hreading)
  rw [hsource] at hlatest
  have hlast : o.observedAt.IsLast (look.database.times entry.source entry.key) := hlatest
  exact hlast.before_iff_lt ((hr.looks look hlook).2.times _ _) hascending (hr.position i entry hentry)

/-- Whatever happens, as long as the readings of a device ascend: a report that is forwarded behind the snapshot is
outdated exactly if the snapshot tells of its feed and another reading of its device had been stored behind it when the
session asked. So it is outdated only if it had itself been stored by then, and the envelope before it holds a reading
that was observed later. -/
theorem outdated_iff (registry : Registry) (database : Database) (events : List Event) (session : Session)
    (look : Look) (i : Nat) (entry : Entry) :
    let s := (start registry database).run events
    look ∈ s.looks → s.entries[i]? = some entry → look.source = entry.source →
      look.devices.key look.source = some entry.key →
      (s.engine.outside.times entry.source entry.key).Pairwise (fun a b => a.before b) →
      (s.Outdated session look entry ↔ s.Forwarded session entry ∧ look.reading?.isSome ∧
        entry.position + 1 < (look.database.times entry.source entry.key).length) ∧
      (s.Outdated session look entry → i < look.stored) ∧
      (s.Outdated session look entry →
        ∃ o : Observation Float, look.envelope.payload = some o.toJson ∧ entry.observedAt.before o.observedAt) := by
  intro s hlook hentry hsource hkey hascending
  have hr : s.Recorded := recorded_after registry database events
  have hbefore {o : Observation Float} (hreading : look.reading? = some o) :=
    hr.before_iff hlook hentry hsource hkey hascending hreading
  refine ⟨⟨?_, ?_⟩, ?_, ?_⟩
  · rintro ⟨hforwarded, -, o, hreading, hearlier⟩
    exact ⟨hforwarded, by rw [hreading]; rfl, (hbefore hreading).mp hearlier⟩
  · rintro ⟨hforwarded, hsome, hfollowed⟩
    obtain ⟨o, hreading⟩ := Option.isSome_iff_exists.mp hsome
    exact ⟨hforwarded, hsource, o, hreading, (hbefore hreading).mpr hfollowed⟩
  · rintro ⟨-, -, o, hreading, hearlier⟩
    by_contra hlater
    have hfollowed := (hbefore hreading).mp hearlier
    have hbehind := hr.unseen look hlook i entry (Nat.le_of_not_lt hlater) hentry
    omega
  · rintro ⟨-, -, o, hreading, hearlier⟩
    exact ⟨o, by rw [Look.payload_envelope, hreading, Option.map_some], hearlier⟩

/-- A subscriber comes, the camera reports, its report is announced, and it reports again before the session asks. -/
def overlap : List Event :=
  [.join "s" 7 4, sighting 0, .announce 0, .send 0 ⟨"s", 0⟩, .finish 0, sighting 60] ++
    List.replicate 10 (.proceed .year2000 true)

/-- What comes of that. -/
theorem run_overlap :
    let s := (start weirRegistry (weir [])).run overlap
    ∃ session look entry, s.session = some session ∧ session.stage = .forwarding ∧
      (s.hub.channelOf session.connection).evicted = false ∧ look ∈ s.looks ∧ s.entries[0]? = some entry ∧
      s.Forwarded session entry ∧ look.source = entry.source ∧ look.devices.key look.source = some entry.key ∧
      (s.engine.outside.times entry.source entry.key).Pairwise (fun a b => a.before b) ∧
      ∃ o, look.reading? = some o ∧ entry.observedAt.before o.observedAt ∧
        entry.position + 1 < (look.database.times entry.source entry.key).length := by
  intro s
  have hcame : s.session.map (fun session =>
      (session.stage.isForwarding, (s.hub.channelOf session.connection).evicted)) = some (true, false) := by
    decide +kernel
  obtain ⟨session, hsession, hcame⟩ := Option.map_eq_some_iff.mp hcame
  simp only [Prod.mk.injEq] at hcame
  obtain ⟨hstage, hevicted⟩ := hcame
  have hfirst : s.session.bind (fun session => s.entries[0]?.map fun entry =>
      (entry.location == session.location, session.outlet.written.drop s.looks.length == [.text entry.text])) =
      some (true, true) := by
    decide +kernel
  rw [hsession, Option.bind_some] at hfirst
  obtain ⟨entry, hentry, hfirst⟩ := Option.map_eq_some_iff.mp hfirst
  simp only [Prod.mk.injEq, beq_iff_eq] at hfirst
  have hforwarded : s.Forwarded session entry := ⟨hfirst.1, hfirst.2 ▸ List.mem_singleton_self _⟩
  have hlater : s.looks[1]?.bind (fun look => look.reading?.bind fun o => s.entries[0]?.map fun entry =>
      (decide (look.source = entry.source), decide (look.devices.key look.source = some entry.key),
        decide ((s.engine.outside.times entry.source entry.key).Pairwise fun a b => a.before b),
        entry.observedAt.before o.observedAt,
        decide (entry.position + 1 < (look.database.times entry.source entry.key).length))) =
      some (true, true, true, true, true) := by
    decide +kernel
  obtain ⟨look, hlook, hlater⟩ := Option.bind_eq_some_iff.mp hlater
  obtain ⟨o, hreading, hlater⟩ := Option.bind_eq_some_iff.mp hlater
  rw [hentry] at hlater
  simp only [Option.map_some, Option.some.injEq, Prod.mk.injEq, decide_eq_true_eq] at hlater
  obtain ⟨hsource, hkey, hascending, hearlier, hfollowed⟩ := hlater
  exact ⟨session, look, entry, hsession, Stage.isForwarding_iff.mp hstage, hevicted, List.mem_of_getElem? hlook,
    hentry, hforwarded, hsource, hkey, hascending, o, hreading, hearlier, hfollowed⟩

/-- The second report had been stored when the session asked, and so the first is outdated. -/
theorem outdated_iff_overlap :
    let s := (start weirRegistry (weir [])).run overlap
    ∃ session look entry, look ∈ s.looks ∧ s.entries[0]? = some entry ∧ s.Outdated session look entry ∧
      0 < look.stored := by
  intro s
  obtain ⟨session, look, entry, -, -, -, hlook, hentry, hforwarded, hsource, hkey, hascending, o, hreading, -,
    hfollowed⟩ := run_overlap
  obtain ⟨hiff, hstored, -⟩ := outdated_iff weirRegistry (weir []) overlap session look 0 entry hlook hentry hsource
    hkey hascending
  have houtdated := hiff.mpr ⟨hforwarded, Option.isSome_iff_exists.mpr ⟨o, hreading⟩, hfollowed⟩
  exact ⟨session, look, entry, hlook, hentry, houtdated, hstored houtdated⟩

/-- A report is taken in when those before it have been announced. -/
def InTurn (s : Scene) : Event → Prop
  | .store .. => (∀ entry ∈ s.entries, entry.announcement.isSome) ∧ ∀ a ∈ s.announcements, a.isOver
  | _ => True

instance (s : Scene) (e : Event) : Decidable (s.InTurn e) := by
  cases e <;> unfold InTurn <;> infer_instance

/-- Reports are taken in one after the other. -/
def Orderly (s : Scene) : List Event → Prop
  | [] => True
  | e :: events => s.InTurn e ∧ (s.step e).Orderly events

instance decidableOrderly (s : Scene) : (events : List Event) → Decidable (s.Orderly events)
  | [] => inferInstanceAs (Decidable True)
  | e :: events =>
    have := decidableOrderly (s.step e) events
    inferInstanceAs (Decidable (_ ∧ _))

/-- The first report is forwarded behind a snapshot that tells of the second, although they came one after the other and
were observed in that order. -/
theorem outdated_overlap :
    let s := (start weirRegistry (weir [])).run overlap
    (start weirRegistry (weir [])).Orderly overlap ∧
      (s.entries.map Entry.observedAt).Pairwise (fun a b => a.before b) ∧
      ∃ session, s.session = some session ∧ session.stage = .forwarding ∧
        (s.hub.channelOf session.connection).evicted = false ∧
        ∃ look ∈ s.looks, ∃ entry ∈ s.entries, s.Outdated session look entry := by
  intro s
  have horderly : (start weirRegistry (weir [])).Orderly overlap := by decide +kernel
  have hascending : (s.entries.map Entry.observedAt).Pairwise (fun a b => a.before b) := by decide +kernel
  obtain ⟨session, look, entry, hsession, hstage, hevicted, hlook, hentry, hforwarded, hsource, -, -, o, hreading,
    hearlier, -⟩ := run_overlap
  exact ⟨horderly, hascending, session, hsession, hstage, hevicted, look, hlook, entry, List.mem_of_getElem? hentry,
    hforwarded, hsource, o, hreading, hearlier⟩

end Scene

end Waterway
