import Downlink.BitField
import Downlink.Bytes
import Downlink.Decimal.Plain
import Downlink.Decimal.Shortest
import Downlink.Dictionary.Basic
import Downlink.Dictionary.Decode
import Downlink.Dictionary.PacketDefinition
import Downlink.Dictionary.Shared
import Downlink.Dictionary.Table
import Downlink.Error
import Downlink.Frame.Demux
import Downlink.Frame.Geometry
import Downlink.Frame.Header
import Downlink.Frame.Order
import Downlink.Frame.Queue
import Downlink.Frame.Reassembler
import Downlink.Frame.Sorter
import Downlink.Frame.Stats
import Downlink.Frame.Stream
import Downlink.Packet.Field
import Downlink.Packet.Filter
import Downlink.Packet.Header
import Downlink.Packet.Stream
import Downlink.Packet.Summary
import Downlink.Packet.View
import Downlink.Packet.Writer
import Downlink.Point.Conversion
import Downlink.Point.Definition
import Downlink.Point.EngineeringValue
import Downlink.Point.FieldType
import Downlink.Point.RawValue
import Downlink.Proofs.Answers
import Downlink.Proofs.BitField
import Downlink.Proofs.BitField.OwnBits
import Downlink.Proofs.Checks
import Downlink.Proofs.Dictionary.Construction
import Downlink.Proofs.Dictionary.Decoding
import Downlink.Proofs.Dictionary.LetterCase
import Downlink.Proofs.Dictionary.Linking
import Downlink.Proofs.Dictionary.Lookup
import Downlink.Proofs.Dictionary.Naming
import Downlink.Proofs.Dictionary.Ownership
import Downlink.Proofs.Dictionary.Rereading
import Downlink.Proofs.Dictionary.SignedFields
import Downlink.Proofs.Frame.Balance
import Downlink.Proofs.Frame.Checked
import Downlink.Proofs.Frame.Contents
import Downlink.Proofs.Frame.Counts
import Downlink.Proofs.Frame.Cursor
import Downlink.Proofs.Frame.Emission
import Downlink.Proofs.Frame.Endings
import Downlink.Proofs.Frame.Feeds
import Downlink.Proofs.Frame.IdleFrames
import Downlink.Proofs.Frame.Isolation
import Downlink.Proofs.Frame.Layout
import Downlink.Proofs.Frame.Losses
import Downlink.Proofs.Frame.Mending
import Downlink.Proofs.Frame.Order
import Downlink.Proofs.Frame.Parallel
import Downlink.Proofs.Frame.Places
import Downlink.Proofs.Frame.Provenance
import Downlink.Proofs.Frame.Queue
import Downlink.Proofs.Frame.Records
import Downlink.Proofs.Frame.Renumbering
import Downlink.Proofs.Frame.Restart
import Downlink.Proofs.Frame.Resync
import Downlink.Proofs.Frame.RoundTrip
import Downlink.Proofs.Frame.Run
import Downlink.Proofs.Frame.Safety
import Downlink.Proofs.Frame.Sortable
import Downlink.Proofs.Frame.Sorter
import Downlink.Proofs.Frame.Stretch
import Downlink.Proofs.Frame.Tracking
import Downlink.Proofs.Frame.ZoneStream
import Downlink.Proofs.Packet.Accounts
import Downlink.Proofs.Packet.Copy
import Downlink.Proofs.Packet.Draft
import Downlink.Proofs.Packet.Header
import Downlink.Proofs.Packet.Split
import Downlink.Proofs.Packet.Stream
import Downlink.Proofs.Packet.TallySheet
import Downlink.Proofs.Packet.Whole
import Downlink.Proofs.Point.Checked
import Downlink.Proofs.Point.Enumeration
import Downlink.Proofs.Point.Extraction
import Downlink.Proofs.Point.ReturnedKind
import Downlink.Proofs.Search
import Downlink.Proofs.Source
import Downlink.Proofs.Text.Lowercase
import Downlink.Proofs.Text.Utf8
import Downlink.Proofs.Time.Calendar
import Downlink.Proofs.Time.Codes
import Downlink.Proofs.Time.Stamps
import Downlink.Proofs.Time.Text
import Downlink.Proofs.Word
import Downlink.Proofs.Word.InPlace
import Downlink.Proofs.Word.NumberForm
import Downlink.Record.Conversion
import Downlink.Record.Dictionary
import Downlink.Record.Frame
import Downlink.Record.Json.Number
import Downlink.Record.Json.Reader
import Downlink.Record.Json.Writer
import Downlink.Record.Packet
import Downlink.Record.Point
import Downlink.Record.Reader
import Downlink.Record.Value
import Downlink.Source
import Downlink.Text.CaseTable
import Downlink.Text.CodeRanges
import Downlink.Text.Lowercase
import Downlink.Text.Quoted
import Downlink.Text.Utf8
import Downlink.Text.Visible
import Downlink.Time.Calendar
import Downlink.Time.Code
import Downlink.Time.Instant
import Downlink.Word
