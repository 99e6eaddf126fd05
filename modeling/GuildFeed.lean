import GuildFeed.Activity
import GuildFeed.Availability
import GuildFeed.Bus
import GuildFeed.Channel
import GuildFeed.Cluster
import GuildFeed.Decimal.Double
import GuildFeed.Decimal.Shortest
import GuildFeed.Decoding
import GuildFeed.Dispatch
import GuildFeed.Emoji
import GuildFeed.Envelope.Basic
import GuildFeed.Envelope.Text
import GuildFeed.Event
import GuildFeed.GatewayError
import GuildFeed.Guild
import GuildFeed.Intake
import GuildFeed.Invite
import GuildFeed.Json.Basic
import GuildFeed.Json.Print
import GuildFeed.Json.Scan
import GuildFeed.Main
import GuildFeed.Member
import GuildFeed.Metrics
import GuildFeed.Patch
import GuildFeed.Permissions
import GuildFeed.Presence
import GuildFeed.Queue
import GuildFeed.Record.Fault
import GuildFeed.Record.Reader
import GuildFeed.Record.Shape
import GuildFeed.Replay
import GuildFeed.Role
import GuildFeed.Session
import GuildFeed.Settings
import GuildFeed.Snowflake
import GuildFeed.Store.Basic
import GuildFeed.Store.Drain
import GuildFeed.Store.Entity
import GuildFeed.Store.Entry
import GuildFeed.Store.Footprint
import GuildFeed.Store.History
import GuildFeed.Store.InPlace
import GuildFeed.Store.Shelf
import GuildFeed.Store.Shelf.Lemmas
import GuildFeed.Store.Snapshot
import GuildFeed.Store.Update
import GuildFeed.Text.Blank
import GuildFeed.Text.Numeral
import GuildFeed.Text.Quoted
import GuildFeed.Text.Utf8
import GuildFeed.Text.Visible
import GuildFeed.Timestamp
import GuildFeed.User
import GuildFeed.VoiceState
import GuildFeed.Proofs.Shelf.Ownership
import GuildFeed.Proofs.Shelf.Refill
import GuildFeed.Proofs.Shelf.Repetition
import GuildFeed.Proofs.Shelf.Scope
import GuildFeed.Proofs.Store.InPlace
import GuildFeed.Proofs.Store.Refusal
import GuildFeed.Proofs.Store.Repetition
import GuildFeed.Proofs.Store.Scope
import GuildFeed.Proofs.Store.Locality
import GuildFeed.Proofs.Store.Footprint
import GuildFeed.Proofs.Session.Process
import GuildFeed.Proofs.Session.Accounting
import GuildFeed.Proofs.Session.Calls
import GuildFeed.Proofs.Session.Mirror
import GuildFeed.Proofs.Session.Custody
import GuildFeed.Proofs.Session.Renewal
import GuildFeed.Proofs.Session.Reconciliation
import GuildFeed.Proofs.Session.Simulation
import GuildFeed.Proofs.Session.Fruitless
import GuildFeed.Proofs.Session.Redelivery
import GuildFeed.Proofs.Session.Twins
import GuildFeed.Proofs.Session.Shards
import GuildFeed.Proofs.Store.Union
import GuildFeed.Proofs.Store.Ownership
import GuildFeed.Proofs.Store.Snapshot
import GuildFeed.Proofs.Store.Update
import GuildFeed.Proofs.Store.Listing
import GuildFeed.Proofs.Store.Drain
import GuildFeed.Proofs.Store.EmojiSet
import GuildFeed.Proofs.Store.Report
import GuildFeed.Proofs.Store.Clearing
import GuildFeed.Proofs.Store.Availability
import GuildFeed.Proofs.Store.Owning
import GuildFeed.Proofs.Store.Gauges
import GuildFeed.Proofs.Table
import GuildFeed.Proofs.Text.Numeral
import GuildFeed.Record.Rendering
import GuildFeed.Rendering
import GuildFeed.Proofs.Record.Reading
import GuildFeed.Proofs.Record.Records
import GuildFeed.Proofs.Record.Writing
import GuildFeed.Proofs.Record.Decoding
import GuildFeed.Proofs.Store.PartialUpdate
import GuildFeed.Proofs.Store.Chunking
import GuildFeed.Proofs.Store.Headcount
import GuildFeed.Proofs.Store.Commutation
import GuildFeed.Bus.History
import GuildFeed.Proofs.Bus.Delivery
import GuildFeed.Proofs.Session.Narration
import GuildFeed.Gateway
import GuildFeed.Proofs.Gateway.Draining
import GuildFeed.Proofs.Gateway.Replay
import GuildFeed.Proofs.Store.EmojiOwners
import GuildFeed.Proofs.Store.EmojiDifference
import GuildFeed.Proofs.Store.Deletion
import GuildFeed.Proofs.Store.RoleDeletion
import GuildFeed.Proofs.Store.Categories
import GuildFeed.Proofs.Store.Children
import GuildFeed.Proofs.Store.MapLaws
import GuildFeed.Proofs.Session.ResumePoint
import GuildFeed.Proofs.Text.Trimming
import GuildFeed.Proofs.Gateway.Settings
import GuildFeed.Proofs.Invite
import GuildFeed.Proofs.Link
import GuildFeed.Proofs.Record.Word
