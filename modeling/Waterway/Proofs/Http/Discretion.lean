import Waterway.Http.Service
import Waterway.Proofs.Ingest.Masking

/-!
# What failures do not tell

A client gets to know that the server or its database has failed, and nothing else. Whatever the wording of an error,
and whatever stands in a calibration that cannot be read, the response is the same.

## Main definitions

- `Http.Request.Reaches` — a request gets as far as the calibration of a sensor

## Main statements

- `ServiceError.response_eq_of_status` — errors of the server that have one status have one response
- `Http.Service.fst_handle_eq` — no response depends on calibrations that are malformed
- `details_hidden` — both, and what is answered where such a calibration is reached
-/

namespace Waterway

open Http

/-! ## Responses -/

/-- What is told about a failure of the server is one of two things. -/
theorem ServiceError.complaint_eq_or {error : ServiceError} (h : 500 ≤ error.complaint.status) :
    error.complaint = .hidden ∨ error.complaint = .unavailable := by
  cases error with
  | domain e =>
    cases e with
    | notFound entity id => exact absurd h (by decide : ¬500 ≤ 404)
    | validation reason => exact absurd h (by decide : ¬500 ≤ 400)
    | configuration reason => exact .inl rfl
    | internal reason => exact .inl rfl
  | engine e =>
    cases e with
    | notRegistered id => exact absurd h (by decide : ¬500 ≤ 404)
    | unknownLocation id => exact absurd h (by decide : ¬500 ≤ 404)
    | configuration reason => exact .inl rfl
    | collaborator reason => exact .inl rfl
    | workerStopped id => exact .inl rfl
  | database e =>
    cases e with
    | rowNotFound => exact absurd h (by decide : ¬500 ≤ 404)
    | poolTimedOut => exact .inr rfl
    | poolClosed => exact .inr rfl
    | io => exact .inr rfl
    | protocol => exact .inl rfl
    | columnNotFound => exact .inl rfl
    | workerCrashed => exact .inl rfl
    | reported code constraint =>
      rw [complaint, DatabaseError.complaint] at h ⊢
      by_cases hdangling : code = some DatabaseError.danglingReference
      · rw [if_pos hdangling] at h
        exact absurd h (by decide : ¬500 ≤ 404)
      · rw [if_neg hdangling]
        exact .inl rfl
  | badRequest reason => exact absurd h (by decide : ¬500 ≤ 400)
  | internal reason => exact .inl rfl

/-- Errors of the server that have one status have one response. -/
theorem ServiceError.response_eq_of_status {error error' : ServiceError} (h : 500 ≤ error.response.status)
    (hstatus : error'.response.status = error.response.status) : error'.response = error.response := by
  refine congrArg Complaint.response ?_
  change error'.complaint.status = error.complaint.status at hstatus
  have h' : 500 ≤ error'.complaint.status := hstatus ▸ h
  rcases complaint_eq_or h with heq | heq <;> rcases complaint_eq_or h' with heq' | heq' <;>
    rw [heq, heq'] at hstatus ⊢
  · exact absurd hstatus (by decide : ¬503 = 500)
  · exact absurd hstatus (by decide : ¬500 = 503)

namespace Http

/-! ## Two runs of one request -/

/-- A request gets as far as the calibration of a sensor: it posts a report that is in order, and finds the sensor. -/
structure Request.Reaches (request : Request) (db : Database) (segment : String) (location : LocationId)
    (report : SensorReport) (device : SensorDevice) : Prop where
  method : request.method = "POST"
  path : Endpoint.ofPath request.path = some (.sensorReadings segment)
  named : locationOfSegment segment = some location
  body : readBody SensorReport.read request = .ok report
  valid : report.validate = .ok ()
  lookup : db.fault .locationSensor = none
  found : db.sensors.find? (·.location == location) = some device

namespace Service

variable {α β : Type} {origins : OriginPolicy} {now : Instant} {request : Request} {e e' : Engine Database}

/-- What is answered to a report does not depend on what is masked, if its receipt does not. -/
theorem fst_takeIn_eq (he : e.Masked e') {read : Json.Draft → Except Json.ReadError α}
    {ingest : α → Intake Database β} {encode : β → Json}
    (h : ∀ report, Intake.Indistinct Engine.Masked (· = ·) (fun _ _ => True) (ingest report) (ingest report)) :
    ((takeIn request read ingest encode).run e').1 = ((takeIn request read ingest encode).run e).1 := by
  rw [takeIn]
  cases readBody read request with
  | error fault => rfl
  | ok report =>
    have halike := h report e e' he
    simp only [StateT.run_bind]
    rcases hrun : (ingest report).run.run e with ⟨error | receipt, after⟩ <;>
      rcases hrun' : (ingest report).run.run e' with ⟨error' | receipt', after'⟩ <;> rw [hrun, hrun'] at halike
    · cases halike with
      | error hresponse => exact hresponse.symm
    · cases halike
    · cases halike
    · cases halike with
      | ok hresult => exact congrArg (fun receipt => Response.data 201 (encode receipt)) hresult.symm

theorem fst_health_eq (he : e.Masked e') :
    ((health ⟨DatabaseSource.backend, origins⟩).run e').1 = ((health ⟨DatabaseSource.backend, origins⟩).run e).1 := by
  obtain ⟨db', hdb, rfl⟩ : ∃ db', e.outside.Masked db' ∧ e' = { e with outside := db' } := ⟨_, he.outside, he.rest⟩
  have hasked : (Query.health.run.run db').1 = (Query.health.run.run e.outside).1 := by
    rw [Query.health, Query.select, Query.run_statement, Query.run_statement, hdb.fault_eq]
    cases e.outside.fault .health <;> rfl
  have hresponse (db : Database) : ((health ⟨DatabaseSource.backend, origins⟩).run { e with outside := db }).1 =
      let healthy := (Query.health.run.run db).1.isOk
      .json 200 (.record [("db_healthy", .bool healthy), ("locations", .integer e.registry.lanes.length),
        ("status", .text (if healthy then "ok" else "degraded")),
        ("subscribers", .integer e.timeline.hub.connectionCount), ("version", .text version)]) := rfl
  refine (hresponse db').trans (Eq.trans ?_ (hresponse e.outside).symm)
  rw [hasked]

theorem fst_withLocation_eq {segment : String} {act : LocationId → StateM (Engine Database) Response}
    (h : ∀ location, ((act location).run e').1 = ((act location).run e).1) :
    ((withLocation segment act).run e').1 = ((withLocation segment act).run e).1 := by
  rw [withLocation]
  cases locationOfSegment segment with
  | none => rfl
  | some location => exact h location

theorem fst_answer_eq (he : e.Masked e') (endpoint : Endpoint) :
    ((answer ⟨DatabaseSource.backend, origins⟩ now request endpoint).run e').1 =
      ((answer ⟨DatabaseSource.backend, origins⟩ now request endpoint).run e).1 := by
  cases endpoint with
  | health => exact fst_health_eq he
  | updates segment => rfl
  | analysis segment =>
    refine fst_withLocation_eq fun location => ?_
    rw [he.rest, analysis]
    simp only [StateT.run_bind, StateT.run_get, pure_bind]
    cases e.registry.analysis location <;> rfl
  | sensorReadings segment =>
    exact fst_withLocation_eq fun location => fst_takeIn_eq he (ingestSensor_indistinct now location)
  | blockageReadings segment =>
    exact fst_withLocation_eq fun location => fst_takeIn_eq he (ingestBlockage_indistinct now location)
  | weather segment =>
    exact fst_withLocation_eq fun location => fst_takeIn_eq he (ingestWeather_indistinct location)

theorem fst_route_eq (he : e.Masked e') :
    ((route ⟨DatabaseSource.backend, origins⟩ now request).run e').1 =
      ((route ⟨DatabaseSource.backend, origins⟩ now request).run e).1 := by
  rw [route]
  cases Endpoint.ofPath request.path with
  | none => rfl
  | some endpoint =>
    simp only
    split
    · rfl
    · split
      · exact fst_answer_eq he endpoint
      · rfl

/-- No response depends on calibrations that are malformed. -/
theorem fst_handle_eq (he : e.Masked e') :
    ((handle ⟨DatabaseSource.backend, origins⟩ now request).run e').1 =
      ((handle ⟨DatabaseSource.backend, origins⟩ now request).run e).1 := by
  have hreply (e : Engine Database) : ((handle ⟨DatabaseSource.backend, origins⟩ now request).run e).1 =
      let response := trimmed request ((route ⟨DatabaseSource.backend, origins⟩ now request).run e).1
      { response := { response with headers := response.headers ++ origins.headers request }
        id := idOf request } := rfl
  rw [hreply, hreply, fst_route_eq he]

/-- A report that reaches a calibration that is malformed is answered like any failure of the server. -/
theorem response_of_reaches {segment : String} {location : LocationId} {report : SensorReport} {device : SensorDevice}
    {error : DomainError} (h : request.Reaches e.outside segment location report device)
    (herror : device.config = .error error) :
    ((handle ⟨DatabaseSource.backend, origins⟩ now request).run e).1.response.status = 500 ∧
      ((handle ⟨DatabaseSource.backend, origins⟩ now request).run e).1.response.content =
        Complaint.hidden.response.content := by
  obtain ⟨reason, rfl⟩ := Calibration.configuration_of_ofSetting herror
  have hrun : (ingestSensor DatabaseSource.backend now location report).run.run e =
      (.error (.domain (.configuration reason)), e) := by
    have hquery : (Query.locationSensor location).run.run e.outside = (.ok (some device), e.outside) := by
      rw [← h.found]
      exact Query.run_select_of_none h.lookup _
    exact (run_bind_ok (Intake.run_ofDomain_ok h.valid e)).trans <| (run_bind_ok (Intake.run_query_ok hquery)).trans <|
      (run_bind_ok (Intake.run_found _ _ rfl e)).trans (run_bind_error (Intake.run_ofDomain_error herror e))
  have hroute : ((route ⟨DatabaseSource.backend, origins⟩ now request).run e).1 = Complaint.hidden.response := by
    have hinquiry : OriginPolicy.isInquiry request = false := by rw [OriginPolicy.isInquiry, h.method]; rfl
    have hadmits : (Endpoint.sensorReadings segment).access.admits request.method = true := by rw [h.method]; rfl
    rw [route, h.path]
    simp only [hinquiry, hadmits, if_true, Bool.false_eq_true, if_false, answer, withLocation, h.named, takeIn, h.body]
    rw [StateT.run_bind, hrun]
    rfl
  have hwhole : trimmed request Complaint.hidden.response = Complaint.hidden.response := by
    rw [trimmed, h.method]
    rfl
  have hreply : ((handle ⟨DatabaseSource.backend, origins⟩ now request).run e).1.response =
      let response := trimmed request ((route ⟨DatabaseSource.backend, origins⟩ now request).run e).1
      { response with headers := response.headers ++ origins.headers request } := rfl
  rw [hreply, hroute, hwhole]
  exact ⟨rfl, rfl⟩

end Service

end Http

/-- Two errors, of whatever origin and wording, for which a client gets one and the same status of 500 or above, have
one and the same response. So no request is answered differently on two databases that differ only in calibrations that
are malformed in both; and a report that reaches such a calibration is answered with status 500, and with what is told
about any failure of the server. -/
theorem details_hidden :
    (∀ error error' : ServiceError, 500 ≤ error.response.status →
      error'.response.status = error.response.status → error'.response = error.response) ∧
    ∀ (origins : OriginPolicy) (now : Instant) (request : Request) (e : Engine Database) (db' : Database),
      e.outside.Masked db' →
      let service : Service Database := ⟨DatabaseSource.backend, origins⟩
      let reply := ((service.handle now request).run e).1
      ((service.handle now request).run { e with outside := db' }).1 = reply ∧
      ∀ segment location report device error, request.Reaches e.outside segment location report device →
        device.config = .error error →
        reply.response.status = 500 ∧ reply.response.content = Complaint.hidden.response.content := by
  refine ⟨fun error error' => ServiceError.response_eq_of_status, fun origins now request e db' hdb => ⟨?_, ?_⟩⟩
  · exact Service.fst_handle_eq ⟨hdb, rfl⟩
  · intro segment location report device error hreaches herror
    exact Service.response_of_reaches hreaches herror

/-- A distance is reported over the web. -/
def distanceRequest : Request where
  method := "POST"
  target := "/api/v1/locations/7/sensor-readings"
  headers := [("content-type", "application/json")]
  body := "\x7b\"raw_distance_cm\":130.0\x7d"

/-- The weir with a calibration that somebody has filled in by hand. -/
def miscalibrated (calibration : Json) : Database :=
  { weir [] with sensors := [{ gauge with calibration }] }

/-- A slip of the hand and a note to oneself are answered alike, as is a fault of the engine. -/
theorem details_hidden_miscalibrated :
    let reply (db : Database) : Reply :=
      (((⟨DatabaseSource.backend, ⟨[]⟩⟩ : Service Database).handle .year2000 distanceRequest).run
        { registry := {}, outside := db }).1
    let note := miscalibrated (.text "ask the office for the figures")
    let slip := miscalibrated (.list [.integer 300, .integer 200, .integer (-250)])
    reply note = reply slip ∧ (reply slip).response.status = 500 ∧
      (reply slip).response.content = Complaint.hidden.response.content ∧
      (ServiceError.engine (.ofDomain (.internal "no route to 10.0.0.7"))).response =
        (ServiceError.internal "out of memory").response := by
  intro reply note slip
  obtain ⟨herrors, hrequests⟩ := details_hidden
  have hmasked : slip.Masked note :=
    ⟨rfl, .cons ⟨rfl, .inr ⟨⟨_, rfl⟩, _, rfl⟩⟩ .nil⟩
  obtain ⟨hsame, hreached⟩ := hrequests ⟨[]⟩ .year2000 distanceRequest { registry := {}, outside := slip } note hmasked
  have hread : (readBody SensorReport.read distanceRequest).toOption.any (isAmount ·.distance) := by decide +kernel
  obtain ⟨report, hbody, hvalid⟩ : ∃ report, readBody SensorReport.read distanceRequest = .ok report ∧
      report.validate = .ok () := by
    cases hreport : readBody SensorReport.read distanceRequest with
    | error fault =>
      rw [hreport] at hread
      cases hread
    | ok report =>
      rw [hreport] at hread
      exact ⟨report, rfl, if_pos hread⟩
  have hreaches : distanceRequest.Reaches slip "7" 7 report slip.sensors[0] :=
    ⟨rfl, by decide +kernel, by decide +kernel, hbody, hvalid, rfl, rfl⟩
  obtain ⟨hstatus, hcontent⟩ := hreached _ _ _ _ _ hreaches rfl
  exact ⟨hsame, hstatus, hcontent, herrors _ _ (by decide) rfl⟩

end Waterway
