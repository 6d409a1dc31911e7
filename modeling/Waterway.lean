import Waterway.Alert.Json
import Waterway.Alert.Judgement
import Waterway.Alert.Provider
import Waterway.Alert.Site
import Waterway.Alert.Thresholds
import Waterway.Database.Basic
import Waterway.Database.Row
import Waterway.Database.Sources
import Waterway.Decimal.Integer
import Waterway.Decimal.Layout
import Waterway.Decimal.Quantity
import Waterway.Decimal.Rounding
import Waterway.Decimal.Shortest
import Waterway.Envelope
import Waterway.Error
import Waterway.Fanout.Channel
import Waterway.Fanout.Hub
import Waterway.Fanout.Timeline
import Waterway.Freshness
import Waterway.Http.Endpoint
import Waterway.Http.Failure
import Waterway.Http.Message
import Waterway.Http.Origin
import Waterway.Http.Report
import Waterway.Http.Service
import Waterway.Ingest
import Waterway.Instant.Basic
import Waterway.Instant.Calendar
import Waterway.Instant.Text
import Waterway.Json.Basic
import Waterway.Json.Draft
import Waterway.Json.Printer
import Waterway.Json.Reader
import Waterway.Json.Token
import Waterway.Keyed
import Waterway.Observation.Basic
import Waterway.Observation.Calibration
import Waterway.Observation.Json
import Waterway.Observation.WeatherCode
import Waterway.Proofs.Calibration.CriticalLine
import Waterway.Proofs.Calibration.HigherWater
import Waterway.Proofs.Calibration.Movement
import Waterway.Proofs.Calibration.Range
import Waterway.Proofs.Database.Latest
import Waterway.Proofs.Database.Statements
import Waterway.Proofs.Database.Times
import Waterway.Proofs.Decimal.Finite
import Waterway.Proofs.Decimal.Integer
import Waterway.Proofs.Decimal.Nearest
import Waterway.Proofs.Decimal.Order
import Waterway.Proofs.Decimal.Overflow
import Waterway.Proofs.Decimal.Rounding
import Waterway.Proofs.Envelope
import Waterway.Proofs.Fanout.Audience
import Waterway.Proofs.Fanout.Beat
import Waterway.Proofs.Fanout.Bystanders
import Waterway.Proofs.Fanout.Channels
import Waterway.Proofs.Fanout.Delivery
import Waterway.Proofs.Fanout.Directory
import Waterway.Proofs.Fanout.Eviction
import Waterway.Proofs.Fanout.Heartbeat
import Waterway.Proofs.Fanout.Members
import Waterway.Proofs.Fanout.Rounds
import Waterway.Proofs.Fanout.Senders
import Waterway.Proofs.Fanout.StaleFailure
import Waterway.Proofs.Fanout.Waiting
import Waterway.Proofs.Forms
import Waterway.Proofs.Http.Discretion
import Waterway.Proofs.Ingest.Failure
import Waterway.Proofs.Ingest.Intake
import Waterway.Proofs.Ingest.Masking
import Waterway.Proofs.Ingest.Receipts
import Waterway.Proofs.Ingest.Recovery
import Waterway.Proofs.Ingest.Station
import Waterway.Proofs.Ingest.Storing
import Waterway.Proofs.Ingest.Views
import Waterway.Proofs.Instant.Text
import Waterway.Proofs.Json.Documents
import Waterway.Proofs.Json.Numbers
import Waterway.Proofs.Json.Records
import Waterway.Proofs.Json.RoundTrip
import Waterway.Proofs.Json.Showing
import Waterway.Proofs.Json.Tokens
import Waterway.Proofs.Judgement.Explained
import Waterway.Proofs.Judgement.Findings
import Waterway.Proofs.Judgement.Risk
import Waterway.Proofs.Judgement.Tiers
import Waterway.Proofs.Judgement.Wording
import Waterway.Proofs.Keyed
import Waterway.Proofs.Reading
import Waterway.Proofs.Reading.Ageing
import Waterway.Proofs.Reading.Loading
import Waterway.Proofs.Registry.Account
import Waterway.Proofs.Registry.Actions
import Waterway.Proofs.Registry.Admission
import Waterway.Proofs.Registry.Crowd
import Waterway.Proofs.Registry.FailedJudgement
import Waterway.Proofs.Registry.FirstObservation
import Waterway.Proofs.Registry.Interleaving
import Waterway.Proofs.Registry.Isolation
import Waterway.Proofs.Registry.Judged
import Waterway.Proofs.Registry.Lanes
import Waterway.Proofs.Registry.Membership
import Waterway.Proofs.Registry.Operations
import Waterway.Proofs.Registry.Outcomes
import Waterway.Proofs.Registry.Roster
import Waterway.Proofs.Registry.Scheduling
import Waterway.Proofs.Registry.Serialisation
import Waterway.Proofs.Registry.Serving
import Waterway.Proofs.Registry.Shutdown
import Waterway.Proofs.Registry.Startup
import Waterway.Proofs.Registry.Strangers
import Waterway.Proofs.Registry.Tickets
import Waterway.Proofs.Relay.Board
import Waterway.Proofs.Relay.Course
import Waterway.Proofs.Relay.Order
import Waterway.Proofs.Settings
import Waterway.Proofs.Settings.Loading
import Waterway.Proofs.Site
import Waterway.Proofs.SiteHistory
import Waterway.Proofs.Socket.Arrival
import Waterway.Proofs.Socket.Forwarding
import Waterway.Proofs.Socket.Outdated
import Waterway.Proofs.Socket.Scene
import Waterway.Proofs.Socket.Sessions
import Waterway.Proofs.StoredSettings
import Waterway.Proofs.ThresholdCache
import Waterway.Proofs.ThresholdCache.Callers
import Waterway.Reading.Bootstrap
import Waterway.Reading.Shelf
import Waterway.Reading.Snapshot
import Waterway.Reading.Store
import Waterway.Registry.Basic
import Waterway.Registry.Engine
import Waterway.Registry.Memory
import Waterway.Registry.Worker
import Waterway.Settings.Basic
import Waterway.Settings.Json
import Waterway.Socket.Outlet
import Waterway.Socket.Session
import Waterway.Text.Blank
import Waterway.Text.Hexadecimal
import Waterway.Text.Printed
import Waterway.Text.Quoted
import Waterway.Text.Search
import Waterway.Text.Split
