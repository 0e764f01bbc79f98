import DeviceLab.Alias
import DeviceLab.Channel
import DeviceLab.Client
import DeviceLab.Cluster
import DeviceLab.Cluster.Claim
import DeviceLab.Cluster.Client
import DeviceLab.Cluster.Release
import DeviceLab.Config
import DeviceLab.Config.Document
import DeviceLab.Device.Command
import DeviceLab.Device.Coordinate
import DeviceLab.Device.State
import DeviceLab.Error
import DeviceLab.Event
import DeviceLab.Json
import DeviceLab.Json.Errors
import DeviceLab.Json.Events
import DeviceLab.Json.Form
import DeviceLab.Json.Order
import DeviceLab.Json.Printer
import DeviceLab.Json.Reader
import DeviceLab.Json.Settings
import DeviceLab.Json.Strings
import DeviceLab.Listing
import DeviceLab.Local
import DeviceLab.Logs
import DeviceLab.Params
import DeviceLab.Request
import DeviceLab.Reservation
import DeviceLab.Router
import DeviceLab.Run
import DeviceLab.Scheduler
import DeviceLab.Session
import DeviceLab.Session.Step
import DeviceLab.Sha256
import DeviceLab.Simulation.Actor
import DeviceLab.Simulation.Bridge
import DeviceLab.Simulation.Control
import DeviceLab.Simulation.Device
import DeviceLab.Simulation.Lab
import DeviceLab.Simulation.Orchestrator
import DeviceLab.Simulation.Pool
import DeviceLab.Simulation.Report
import DeviceLab.Simulation.Script
import DeviceLab.Simulation.Settle
import DeviceLab.Span
import DeviceLab.Text.Blank
import DeviceLab.Text.Digits
import DeviceLab.Text.Mark
import DeviceLab.Text.Quoted
import DeviceLab.Toml
import DeviceLab.Toml.Reader
import DeviceLab.Uuid
import DeviceLab.Worker
import DeviceLab.Proofs.Worker.Course
import DeviceLab.Proofs.Worker.Word
import DeviceLab.Proofs.Channel
import DeviceLab.Proofs.Session.Course
import DeviceLab.Proofs.Session.Working
import DeviceLab.Proofs.Session.Token
import DeviceLab.Proofs.Session.Account
import DeviceLab.Proofs.Session.Tally
import DeviceLab.Proofs.Session.Stages
import DeviceLab.Proofs.Session.Attempts
import DeviceLab.Proofs.Session.Quiet
import DeviceLab.Proofs.Session.Ending
import DeviceLab.Proofs.Session.Waiting
import DeviceLab.Proofs.Session.Progress
import DeviceLab.Proofs.Text
import DeviceLab.Proofs.Device.Digest
import DeviceLab.Proofs.Router.History
import DeviceLab.Proofs.Distinct
import DeviceLab.Proofs.Router.Waking
import DeviceLab.Proofs.Worker.Diary
import DeviceLab.Proofs.Worker.Reconciling
import DeviceLab.Proofs.Worker.Reach
import DeviceLab.Proofs.Worker.Containment
import DeviceLab.Proofs.Session.Crew
import DeviceLab.Proofs.Session.Containment
import DeviceLab.Proofs.Scheduler.Transcript
import DeviceLab.Proofs.Cluster.History
import DeviceLab.Proofs.Cluster.Booting
import DeviceLab.Proofs.Json.Form
import DeviceLab.Proofs.Worker.Origin
import DeviceLab.Proofs.Session.Carrying
import DeviceLab.Proofs.Session.Supply
import DeviceLab.Proofs.Session.Collected
import DeviceLab.Proofs.Session.WindingDown
import DeviceLab.Proofs.Session.Teardown
import DeviceLab.Proofs.Session.Exclusive
import DeviceLab.Proofs.Session.Scripted
import DeviceLab.Proofs.Cluster.Releasing
import DeviceLab.Proofs.Cluster.Life
import DeviceLab.Proofs.Session.ClusterSession
import DeviceLab.Proofs.Reservation.Protocol
import DeviceLab.Proofs.Session.ClientSession
import DeviceLab.Proofs.Json.Spelling
import DeviceLab.Proofs.Json.RoundTrip
import DeviceLab.Proofs.Service.Operation
import DeviceLab.Proofs.Service.Drain
import DeviceLab.Proofs.Service.Routing
import DeviceLab.Proofs.Client.Translation
import DeviceLab.Proofs.Client.Correlation
import DeviceLab.Proofs.Cluster.PodCare
import DeviceLab.Proofs.Local.Course
import DeviceLab.Proofs.Local.Assignment
import DeviceLab.Proofs.Text.Cutting
import DeviceLab.Proofs.Listing.Serials
import DeviceLab.Proofs.Listing.Locality
import DeviceLab.Proofs.Listing.RoundTrip
import DeviceLab.Proofs.Worker.Installing
import DeviceLab.Proofs.Config
import DeviceLab.Proofs.Session.Capacity
import DeviceLab.Proofs.Logs.Files
import DeviceLab.Proofs.Logs.Reporting
import DeviceLab.Proofs.Logs.History
import DeviceLab.Proofs.Logs.Isolation
