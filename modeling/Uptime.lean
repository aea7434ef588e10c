import Uptime.Channel.Script
import Uptime.Check.Probe
import Uptime.Check.Run
import Uptime.Files.Tree
import Uptime.Json.Writer
import Uptime.Main
import Uptime.Service
import Uptime.Target.Record
import Uptime.Proofs.Alert.Conversation
import Uptime.Proofs.Alert.Edits
import Uptime.Proofs.Alert.Announcements
import Uptime.Proofs.Alert.Record
import Uptime.Proofs.Alert.Resolution
import Uptime.Proofs.Alert.Desk
import Uptime.Proofs.Alert.Supersession
import Uptime.Proofs.Alert.Window
import Uptime.Proofs.Alert.Wording
import Uptime.Proofs.Registry
import Uptime.Proofs.Watch
import Uptime.Proofs.Alert.FirstCheck
import Uptime.Proofs.Alert.Accounting
import Uptime.Proofs.Alert.Origin
import Uptime.Proofs.Alert.Consistency
import Uptime.Proofs.Alert.Numbers
import Uptime.Proofs.Alert.Order
import Uptime.Proofs.ByteOrder
import Uptime.Proofs.Registry.Consistency
import Uptime.Proofs.Registry.Epoch
import Uptime.Proofs.Round
import Uptime.Proofs.Round.Order
import Uptime.Proofs.Round.Accounting
import Uptime.Proofs.Round.Sequential
import Uptime.Proofs.Alert.LastWord
import Uptime.Proofs.Registry.News
import Uptime.Proofs.Station
import Uptime.Proofs.Station.LastWord
import Uptime.Proofs.Station.Sequential
import Uptime.Proofs.Timeline
import Uptime.Proofs.Registry.Results
import Uptime.Proofs.Unlogged
import Uptime.Proofs.Round.Schedule
import Uptime.Proofs.Office
import Uptime.Proofs.Office.Undisturbed
import Uptime.Proofs.Registry.Listing
import Uptime.Proofs.Office.Listings
import Uptime.Proofs.Office.Convergence
import Uptime.Proofs.Polling
import Uptime.Proofs.Seeding
import Uptime.Proofs.AcceptedSettings
import Uptime.Proofs.Launches
import Uptime.Proofs.Episode
import Uptime.Proofs.Round.CutShort
import Uptime.Proofs.Vigil
import Uptime.Proofs.Vigil.Heeded
import Uptime.Proofs.Cancellation
import Uptime.Proofs.Registry.Takeover
import Uptime.Proofs.Office.Changes
import Uptime.Proofs.Diligence
import Uptime.Proofs.Text.Chunks
import Uptime.Proofs.Posts.Parts
import Uptime.Proofs.ByName
import Uptime.Proofs.LogReplies.Size
import Uptime.Proofs.Commands
import Uptime.Proofs.Exchanges
import Uptime.Proofs.Delivery
import Uptime.Proofs.History.Reading
import Uptime.Proofs.History.Definitions
import Uptime.Proofs.History.Migration
import Uptime.Proofs.History.Retention
import Uptime.Proofs.Text.Entities
import Uptime.Proofs.Downtime
import Uptime.Proofs.EntryChecks
