import DhcpDecoder.Capture.ByteOrder
import DhcpDecoder.Capture.Layers
import DhcpDecoder.Capture.Packet
import DhcpDecoder.Capture.Savefile
import DhcpDecoder.Capture.Slice
import DhcpDecoder.Capture.Wireless
import DhcpDecoder.Capture.Writer
import DhcpDecoder.Cli.Command
import DhcpDecoder.Cli.Flags
import DhcpDecoder.Cli.Run
import DhcpDecoder.Cli.Session
import DhcpDecoder.Compress.Checksum
import DhcpDecoder.Compress.Gzip
import DhcpDecoder.Compress.Inflate
import DhcpDecoder.Decoding.Render
import DhcpDecoder.Decoding.Result
import DhcpDecoder.Frame.Datagram
import DhcpDecoder.Frame.Header
import DhcpDecoder.Input.Format
import DhcpDecoder.Json.Value
import DhcpDecoder.Log.Event
import DhcpDecoder.Log.Line
import DhcpDecoder.Main
import DhcpDecoder.Message.Requirement
import DhcpDecoder.Net.Address
import DhcpDecoder.Net.Bind
import DhcpDecoder.Option.Catalog
import DhcpDecoder.Option.Decode
import DhcpDecoder.Option.Enum
import DhcpDecoder.Option.Report
import DhcpDecoder.Option.Value
import DhcpDecoder.Proofs.BearerHeader
import DhcpDecoder.Proofs.CaptureRoundTrip
import DhcpDecoder.Proofs.Concatenation
import DhcpDecoder.Proofs.ConfigRoundTrip
import DhcpDecoder.Proofs.DatagramParse
import DhcpDecoder.Proofs.FirstViolation
import DhcpDecoder.Proofs.FrameLimit
import DhcpDecoder.Proofs.FramedRegion
import DhcpDecoder.Proofs.HeaderCodec
import DhcpDecoder.Proofs.HexInput
import DhcpDecoder.Proofs.Inspection
import DhcpDecoder.Proofs.ListenerStats
import DhcpDecoder.Proofs.ReadBounds
import DhcpDecoder.Proofs.RecordChain
import DhcpDecoder.Proofs.RecordEndWidth
import DhcpDecoder.Proofs.SkipReasons
import DhcpDecoder.Proofs.TomlDocument
import DhcpDecoder.Proofs.TomlReading
import DhcpDecoder.Proofs.Trimming
import DhcpDecoder.Proofs.Truncation
import DhcpDecoder.Proofs.Utf8Codec
import DhcpDecoder.Proofs.ValueCodec
import DhcpDecoder.Record.Walk
import DhcpDecoder.Service.Auth
import DhcpDecoder.Service.Http
import DhcpDecoder.Service.Stats
import DhcpDecoder.Settings.Config
import DhcpDecoder.Settings.Toml
import DhcpDecoder.Text.Case
import DhcpDecoder.Text.Columns
import DhcpDecoder.Text.Graphic
import DhcpDecoder.Text.Hex
import DhcpDecoder.Text.Letter
import DhcpDecoder.Text.Quoted
import DhcpDecoder.Text.Space
import DhcpDecoder.Text.Utf8
import DhcpDecoder.Time.Stamp
