import StreamScout.Address.Ipv4
import StreamScout.Address.Ipv6
import StreamScout.Api.Response
import StreamScout.Api.Uri
import StreamScout.Decimal.Binary64
import StreamScout.Decimal.Shortest
import StreamScout.Digest.Sha256
import StreamScout.Effect
import StreamScout.Json.Fault
import StreamScout.Json.Numbers
import StreamScout.Json.Strings
import StreamScout.Json.Values
import StreamScout.Json.Written
import StreamScout.Keyed
import StreamScout.Main
import StreamScout.Mdns.Announcement
import StreamScout.Mdns.Client
import StreamScout.Mdns.Forwarder
import StreamScout.Probe.Pool
import StreamScout.Probe.Target
import StreamScout.Probe.Worker
import StreamScout.Rehearsal.Backend
import StreamScout.Rehearsal.Bench
import StreamScout.Rehearsal.Registry
import StreamScout.Rehearsal.Session
import StreamScout.Resolve.Table
import StreamScout.Rtsp.Description
import StreamScout.Rtsp.Exchange
import StreamScout.Rtsp.Reply
import StreamScout.Rtsp.Request
import StreamScout.Schema.Mismatch
import StreamScout.Service.Endpoint
import StreamScout.Service.Event
import StreamScout.Service.Provider
import StreamScout.Service.Record
import StreamScout.Session.Loop
import StreamScout.Session.State
import StreamScout.Session.Step
import StreamScout.Settings.Basic
import StreamScout.Settings.Reader
import StreamScout.Source.Basic
import StreamScout.Source.Digest
import StreamScout.Source.Reader
import StreamScout.Source.Table
import StreamScout.Startup.FieldValue
import StreamScout.Startup.LogFilter
import StreamScout.Startup.Pattern.CharClass
import StreamScout.Startup.Pattern.Escape
import StreamScout.Startup.Pattern.Flags
import StreamScout.Startup.Pattern.Nesting
import StreamScout.Startup.Pattern.Reader
import StreamScout.Startup.Report
import StreamScout.Stream.Deadline
import StreamScout.Stream.Feed
import StreamScout.Stream.Pieces
import StreamScout.Stream.Plan
import StreamScout.Text.Alphanumeric
import StreamScout.Text.Blank
import StreamScout.Text.Lines
import StreamScout.Text.Numeral
import StreamScout.Text.Percent
import StreamScout.Text.Printable
import StreamScout.Text.Quoted
import StreamScout.Text.Ranges
import StreamScout.Text.Utf8
import StreamScout.Time.Date
import StreamScout.Time.Spelling
import StreamScout.Time.Timestamp
import StreamScout.Toml.Document
import StreamScout.Toml.Item
import StreamScout.Toml.Scalars
import StreamScout.Proofs.Address.Ipv4
import StreamScout.Proofs.Lists
import StreamScout.Proofs.Probe.Course
import StreamScout.Proofs.Probe.Pool
import StreamScout.Proofs.Probe.Registry
import StreamScout.Proofs.Rtsp.Grammar
import StreamScout.Proofs.Rtsp.Header
import StreamScout.Proofs.Rtsp.Line
import StreamScout.Proofs.Session.Shutdown
import StreamScout.Proofs.Session.Step
import StreamScout.Proofs.Session.Turn
import StreamScout.Proofs.Session.Units
import StreamScout.Proofs.Source.Calls
import StreamScout.Proofs.Source.History
import StreamScout.Proofs.Source.Order
import StreamScout.Proofs.Source.Table
import StreamScout.Proofs.Stream.Line
import StreamScout.Proofs.Text.Blank
import StreamScout.Proofs.Text.Numeral
import StreamScout.Proofs.Text.Utf8
import StreamScout.Proofs.Session.Delivery
import StreamScout.Proofs.Keyed
import StreamScout.Proofs.Service.Record
import StreamScout.Proofs.Mdns.Custody
import StreamScout.Proofs.Session.Wire
import StreamScout.Proofs.Session.Appearance
import StreamScout.Proofs.Session.Gone
import StreamScout.Proofs.Json.Strings
import StreamScout.Proofs.Source.Canonical
import StreamScout.Proofs.Stream.Feed
import StreamScout.Proofs.Stream.Decided
import StreamScout.Proofs.Stream.Pieces
import StreamScout.Proofs.Resolve.Calls
import StreamScout.Proofs.Resolve.Table
import StreamScout.Proofs.Rtsp.Arrival
import StreamScout.Proofs.Rtsp.Request
import StreamScout.Proofs.Source.Announced
import StreamScout.Proofs.Text.Percent
import StreamScout.Proofs.Api.Named
import StreamScout.Proofs.Source.Times
import StreamScout.Proofs.Probe.Maintenance
import StreamScout.Proofs.Session.Events
import StreamScout.Proofs.Session.Lifecycle
import StreamScout.Proofs.Session.Withdrawn
import StreamScout.Proofs.Time.Spelling
import StreamScout.Proofs.Source.Reader
import StreamScout.Proofs.Api.Faithful
import StreamScout.Proofs.Rtsp.Deadline
import StreamScout.Proofs.Source.RoundTrip
import StreamScout.Proofs.Service.FullName
import StreamScout.Proofs.Rtsp.SessionName
import StreamScout.Proofs.Address.Ipv6
import StreamScout.Proofs.Mdns.Reached
import StreamScout.Proofs.Mdns.Posts
import StreamScout.Proofs.Session.Resolution
import StreamScout.Proofs.Toml.Distinct
import StreamScout.Proofs.Settings.Section
import StreamScout.Proofs.Settings.Recognised
import StreamScout.Proofs.Settings.Document
import StreamScout.Proofs.Settings.Decided
