import Waterway.Http.Service
import Waterway.Proofs.Ingest.Intake

/-!
# Requests that are accepted

A response says that something has been created only if a report has been taken in, and then it carries the receipt.

## Main definitions

- `Receipt`, `receive` — what any of the three feeds is answered, and taking a report in for it
- `Http.Request.location?` — the location that the path of a request names

## Main statements

- `Http.Service.created_handle` — a response of this kind carries a receipt
-/

namespace Waterway

variable {σ α β : Type}

/-- What any of the three feeds is answered. -/
inductive Receipt where
  | sensor (r : SensorReceipt)
  | blockage (r : BlockageReceipt)
  | weather (r : WeatherReceipt)

namespace Receipt

/-- What subscribers and the worker get to know. -/
def observation : Receipt → Observation Float
  | .sensor r => .waterLevel r.status
  | .blockage r => .blockage r.status
  | .weather r => .weather r.status

/-- The device that the reading belongs to, or the location. -/
def key : Receipt → RowId
  | .sensor r => r.reading.device
  | .blockage r => r.reading.device
  | .weather r => r.reading.location

def toJson : Receipt → Json
  | .sensor r => r.toJson
  | .blockage r => r.toJson
  | .weather r => r.toJson

/-- The status stands in the answer as subscribers get it. -/
theorem field?_status (receipt : Receipt) : receipt.toJson.field? "status" = some receipt.observation.toJson := by
  cases receipt <;> rfl

end Receipt

/-- Takes a report in at the instant `now`. -/
def receive (b : Backend σ) (now : Instant) (location : LocationId) : Report → Intake σ Receipt
  | .sensor r => .sensor <$> ingestSensor b now location r
  | .blockage r => .blockage <$> ingestBlockage b now location r
  | .weather r => .weather <$> ingestWeather b location r

theorem Intake.run_map (f : α → β) (action : Intake σ α) (e : Engine σ) :
    (f <$> action).run.run e = ((action.run.run e).1.map f, (action.run.run e).2) := by
  rw [ExceptT.run_map, StateT.run_map]
  rfl

theorem Intake.exists_of_run_map {f : α → β} {action : Intake σ α} {e after : Engine σ} {b : β}
    (h : (f <$> action).run.run e = (.ok b, after)) : ∃ a, action.run.run e = (.ok a, after) ∧ f a = b := by
  rw [run_map] at h
  rcases hrun : action.run.run e with ⟨error | a, done⟩
  · rw [hrun] at h
    cases h
  · rw [hrun] at h
    cases h
    exact ⟨a, rfl, rfl⟩

theorem ServiceError.status_response_ne (error : ServiceError) : error.response.status ≠ 201 := by
  show error.complaint.status ≠ 201
  cases error with
  | domain e => cases e <;> simp [complaint, DomainError.complaint, Http.Complaint.missing, Http.Complaint.hidden]
  | engine e => cases e <;> simp [complaint, EngineError.complaint, Http.Complaint.missing, Http.Complaint.hidden]
  | database e =>
    cases e with
    | reported code constraint =>
      rw [complaint, DatabaseError.complaint]
      split <;> simp [Http.Complaint.missing, Http.Complaint.hidden]
    | _ =>
      simp [complaint, DatabaseError.complaint, Http.Complaint.missing, Http.Complaint.hidden,
        Http.Complaint.unavailable]
  | badRequest reason => simp [complaint]
  | internal reason => simp [complaint, Http.Complaint.hidden]

namespace Http

/-- The part of a path that names a location. -/
def Endpoint.segment? : Endpoint → Option String
  | .health => none
  | .updates s | .analysis s | .sensorReadings s | .blockageReadings s | .weather s => some s

/-- The location that the path of a request names. -/
def Request.location? (r : Request) : Option LocationId :=
  ((Endpoint.ofPath r.path).bind Endpoint.segment?).bind locationOfSegment

namespace Service

variable {s : Service σ} {now : Instant} {request : Request} {e : Engine σ}

/-- Something is created only if a report is taken in. -/
theorem created_takeIn {read : Json.Draft → Except Json.ReadError α} {ingest : α → Intake σ β} {encode : β → Json}
    (h : ((takeIn request read ingest encode).run e).1.status = 201) :
    ∃ report receipt after, (ingest report).run.run e = (.ok receipt, after) ∧
      (takeIn request read ingest encode).run e = (.data 201 (encode receipt), after) := by
  rw [takeIn] at h ⊢
  cases hread : readBody read request with
  | error fault =>
    rw [hread] at h
    cases fault <;> cases h
  | ok report =>
    rw [hread] at h
    simp only [StateT.run_bind] at h ⊢
    rcases hrun : (ingest report).run.run e with ⟨error | receipt, after⟩
    · rw [hrun] at h
      exact absurd h error.status_response_ne
    · exact ⟨report, receipt, after, hrun, rfl⟩

theorem created_withLocation {segment : String} {act : LocationId → StateM (Engine σ) Response}
    (h : ((withLocation segment act).run e).1.status = 201) :
    ∃ location, locationOfSegment segment = some location ∧ (withLocation segment act).run e = (act location).run e ∧
      ((act location).run e).1.status = 201 := by
  rw [withLocation] at h ⊢
  cases hlocation : locationOfSegment segment with
  | none =>
    rw [hlocation] at h
    cases h
  | some location =>
    rw [hlocation] at h
    exact ⟨location, rfl, rfl, h⟩

theorem status_analysis_ne (location : LocationId) (e : Engine σ) : ((analysis location).run e).1.status ≠ 201 := by
  rw [analysis, StateT.run_bind, StateT.run_get, pure_bind]
  cases e.registry.analysis location with
  | ok a =>
    show 200 ≠ 201
    decide
  | error error => exact (ServiceError.engine error).status_response_ne

/-- One feed: its reports and receipts are among those of all three. -/
theorem created_feed {segment : String} {read : Json.Draft → Except Json.ReadError α}
    {ingest : LocationId → α → Intake σ β} {encode : β → Json} {toReport : α → Report} {toReceipt : β → Receipt}
    (hreceive : ∀ location report,
      receive s.backend now location (toReport report) = toReceipt <$> ingest location report)
    (hencode : ∀ receipt, (toReceipt receipt).toJson = encode receipt)
    (h : ((withLocation segment fun location => takeIn request read (ingest location) encode).run e).1.status = 201) :
    ∃ location report receipt after, locationOfSegment segment = some location ∧
      (receive s.backend now location report).run.run e = (.ok receipt, after) ∧
      (withLocation segment fun location => takeIn request read (ingest location) encode).run e =
        (.data 201 receipt.toJson, after) := by
  obtain ⟨location, hlocation, hact, h⟩ := created_withLocation h
  obtain ⟨report, receipt, after, hrun, htaken⟩ := created_takeIn h
  refine ⟨location, toReport report, toReceipt receipt, after, hlocation, ?_, ?_⟩
  · rw [hreceive, Intake.run_map, hrun]
    rfl
  · rw [hact, htaken, hencode]

/-- Something is created only by one of the three feeds. -/
theorem created_answer {endpoint : Endpoint} (h : ((s.answer now request endpoint).run e).1.status = 201) :
    ∃ location report receipt after, endpoint.segment?.bind locationOfSegment = some location ∧
      endpoint.access = .write ∧ (receive s.backend now location report).run.run e = (.ok receipt, after) ∧
      (s.answer now request endpoint).run e = (.data 201 receipt.toJson, after) := by
  cases endpoint with
  | health =>
    have h : 200 = 201 := h
    cases h
  | updates segment =>
    have hrefused : (s.answer now request (.updates segment)).run e = (request.socketRefusal, e) := rfl
    rw [hrefused, Request.socketRefusal] at h
    simp only [Response.refusal] at h
    split at h
    · cases h
    · split at h <;> cases h
  | analysis segment =>
    obtain ⟨location, -, -, h⟩ := created_withLocation h
    exact absurd h (status_analysis_ne location e)
  | sensorReadings segment =>
    obtain ⟨location, report, receipt, after, hlocation, hfed⟩ :=
      created_feed (fun _ _ => rfl : ∀ location report, receive s.backend now location (.sensor report) =
        Receipt.sensor <$> ingestSensor s.backend now location report) (fun _ => rfl) h
    exact ⟨location, report, receipt, after, hlocation, rfl, hfed⟩
  | blockageReadings segment =>
    obtain ⟨location, report, receipt, after, hlocation, hfed⟩ :=
      created_feed (fun _ _ => rfl : ∀ location report, receive s.backend now location (.blockage report) =
        Receipt.blockage <$> ingestBlockage s.backend now location report) (fun _ => rfl) h
    exact ⟨location, report, receipt, after, hlocation, rfl, hfed⟩
  | weather segment =>
    obtain ⟨location, report, receipt, after, hlocation, hfed⟩ :=
      created_feed (fun _ _ => rfl : ∀ location report, receive s.backend now location (.weather report) =
        Receipt.weather <$> ingestWeather s.backend location report) (fun _ => rfl) h
    exact ⟨location, report, receipt, after, hlocation, rfl, hfed⟩

theorem created_route (h : ((s.route now request).run e).1.status = 201) :
    ∃ endpoint, Endpoint.ofPath request.path = some endpoint ∧ endpoint.access.admits request.method ∧
      (s.route now request).run e = (s.answer now request endpoint).run e := by
  rw [route] at h ⊢
  cases hendpoint : Endpoint.ofPath request.path with
  | none =>
    rw [hendpoint] at h
    have h : (if OriginPolicy.isInquiry request then 200 else 404) = 201 := h
    split at h <;> cases h
  | some endpoint =>
    rw [hendpoint] at h
    simp only at h ⊢
    split at h
    · cases h
    · next hinquiry =>
      split at h
      · next hadmits => exact ⟨endpoint, rfl, hadmits, by rw [if_neg hinquiry, if_pos hadmits]⟩
      · cases h

/-- A response that says that something has been created carries the receipt of a report about the location that the
request names. -/
theorem created_handle (h : ((s.handle now request).run e).1.response.status = 201) :
    ∃ location report receipt after, request.location? = some location ∧
      (receive s.backend now location report).run.run e = (.ok receipt, after) ∧
      ((s.handle now request).run e).1.response.content = .json (.record [("data", receipt.toJson)]) ∧
      ((s.handle now request).run e).2 = after := by
  have hhandle : (s.handle now request).run e =
      ({ response := { trimmed request ((s.route now request).run e).1 with
           headers := (trimmed request ((s.route now request).run e).1).headers ++ s.origins.headers request }
         id := idOf request }, ((s.route now request).run e).2) := rfl
  have hstatus (response : Response) : (trimmed request response).status = response.status := by
    rw [trimmed]
    split <;> rfl
  rw [hhandle] at h ⊢
  obtain ⟨endpoint, hendpoint, hadmits, hroute⟩ := created_route ((hstatus _).symm.trans h)
  have h : ((s.route now request).run e).1.status = 201 := (hstatus _).symm.trans h
  rw [hroute] at h ⊢
  obtain ⟨location, report, receipt, after, hlocation, haccess, hrun, hanswer⟩ := created_answer h
  rw [hanswer]
  refine ⟨location, report, receipt, after, ?_, hrun, ?_, rfl⟩
  · rw [Request.location?, hendpoint]
    exact hlocation
  · -- reports are posted, so that the content is not left out
    have hposted : request.method = "POST" := by
      rw [haccess] at hadmits
      exact beq_iff_eq.mp hadmits
    have htrimmed (response : Response) : trimmed request response = response := by
      rw [trimmed, hposted]
      rfl
    rw [htrimmed]
    rfl

end Service

end Http

end Waterway
