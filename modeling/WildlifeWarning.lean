import WildlifeWarning.Main
import WildlifeWarning.Proofs.Air.Copies
import WildlifeWarning.Proofs.Air.SampleQueue
import WildlifeWarning.Proofs.Outcome
import WildlifeWarning.Proofs.Air.EchoBoard
import WildlifeWarning.Proofs.Air.HealthReports
import WildlifeWarning.Proofs.Air.Airtime
import WildlifeWarning.Proofs.Detector
import WildlifeWarning.Proofs.Gateway.Airing
import WildlifeWarning.Proofs.AlertPanel
import WildlifeWarning.Proofs.Gateway.Effects
import WildlifeWarning.Proofs.Gateway.Commands
import WildlifeWarning.Proofs.Gateway.Service
import WildlifeWarning.Proofs.Gateway.Orderly
import WildlifeWarning.Proofs.Gateway.Debounce
import WildlifeWarning.Proofs.Gateway.Scope
import WildlifeWarning.Proofs.Gateway.Laws
import WildlifeWarning.Proofs.Air.Room
import WildlifeWarning.Proofs.Gateway.Room
import WildlifeWarning.Proofs.Air.Headers
import WildlifeWarning.Proofs.Gateway.Acknowledgement
import WildlifeWarning.Proofs.Gateway.Independence
import WildlifeWarning.Proofs.HealthLog
import WildlifeWarning.Proofs.Number.Rounding
import WildlifeWarning.Proofs.ActivityGrid
import WildlifeWarning.Proofs.Gateway.Field
import WildlifeWarning.Proofs.Air.OnAir
import WildlifeWarning.Proofs.Air.Delivery
import WildlifeWarning.Proofs.Gateway.Records
import WildlifeWarning.Proofs.Gateway.Reminder
import WildlifeWarning.Proofs.Gateway.Endures
import WildlifeWarning.Proofs.Gateway.ShownClasses
import WildlifeWarning.Proofs.Air.Broadcast
import WildlifeWarning.Proofs.Air.Sharing
import WildlifeWarning.Proofs.Air.Relay
import WildlifeWarning.Proofs.AllClear
import WildlifeWarning.Proofs.CarriedFlags
import WildlifeWarning.Proofs.HealthHistory
import WildlifeWarning.Proofs.Air.MessageIds
import WildlifeWarning.Proofs.Gateway.Outbox
import WildlifeWarning.Proofs.Session
import WildlifeWarning.Proofs.Edges
import WildlifeWarning.Proofs.Reinforcement
import WildlifeWarning.Proofs.Air.Backlog
import WildlifeWarning.Proofs.Gateway.Rejections
import WildlifeWarning.Proofs.Hyperactivity
import WildlifeWarning.Proofs.Inactivity
import WildlifeWarning.Proofs.Air.Rotation
import WildlifeWarning.Proofs.Page.Inbound
import WildlifeWarning.Proofs.Page.Outbound
import WildlifeWarning.Proofs.Geometry.Ahead
import WildlifeWarning.Proofs.Geometry.QuarterTurn
import WildlifeWarning.Proofs.Ranging
import WildlifeWarning.Proofs.Replay
import WildlifeWarning.Proofs.Number.Neighbours
import WildlifeWarning.Proofs.Decay
import WildlifeWarning.Proofs.RawLevel
import WildlifeWarning.Proofs.Keyed
import WildlifeWarning.Proofs.Provisioning
import WildlifeWarning.Proofs.Settings
