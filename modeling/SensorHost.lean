import SensorHost.Lib.Scanner
import SensorHost.Lib.Marked
import SensorHost.Lib.Bytes
import SensorHost.Lib.Text
import SensorHost.Lib.Numeral
import SensorHost.Lib.Crc32
import SensorHost.Lib.Program
import SensorHost.Lib.Channel
import SensorHost.Lib.Rounding
import SensorHost.Lib.Bisect
import SensorHost.Protocol.Iis
import SensorHost.Protocol.Walker
import SensorHost.Protocol.FifoWords
import SensorHost.Protocol.Ticks
import SensorHost.Protocol.Frame
import SensorHost.Protocol.Parser
import SensorHost.Protocol.Scan
import SensorHost.Protocol.Resync
import SensorHost.Protocol.Valid
import SensorHost.Protocol.Clock
import SensorHost.Protocol.Replay
import SensorHost.Protocol.Sequence
import SensorHost.Protocol.RoundTrip
import SensorHost.Protocol.Accounting
import SensorHost.Ota.Demux
import SensorHost.Ota.Separation
import SensorHost.Ota.Conservation
import SensorHost.Ota.Codec
import SensorHost.Ota.Package
import SensorHost.Ota.Layout
import SensorHost.Ota.Uploader
import SensorHost.Ota.Device
import SensorHost.Ota.Channel
import SensorHost.Ota.Lossless
import SensorHost.Ota.Safety
import SensorHost.Ota.Late
import SensorHost.Ota.Trace
import SensorHost.Ota.Malformed
import SensorHost.Protocol.ControlState
import SensorHost.Protocol.ControlFields
import SensorHost.Lib.Alike
import SensorHost.Protocol.Replies
import SensorHost.Storage.Recorder
import SensorHost.Storage.Threads
import SensorHost.Storage.Law
import SensorHost.Storage.ArchiveLibrary
import SensorHost.Storage.Exports
import SensorHost.Storage.Indexing
import SensorHost.Storage.Truncated
import SensorHost.Storage.Seeking
import SensorHost.Acquisition.Store
import SensorHost.Acquisition.Envelope
import SensorHost.Acquisition.Snapshot
import SensorHost.Acquisition.Controller
import SensorHost.Acquisition.OtaBridge
import SensorHost.Acquisition.LivePath
import SensorHost.Acquisition.LiveWindow
import SensorHost.Acquisition.Sessions
import SensorHost.Transport.Gateway
import SensorHost.Transport.Control
import SensorHost.Protocol.Delivery
import SensorHost.Acquisition.UuidReply
import SensorHost.Transport.Fake
import SensorHost.Transport.FakeSteps
import SensorHost.Lib.Chronicle
import SensorHost.Transport.FakeExport
import SensorHost.Transport.FakeStream
import SensorHost.Transport.FakeReplies
import SensorHost.Lib.Runs
import SensorHost.Acquisition.OtaReplies
import SensorHost.Acquisition.Inventory
import SensorHost.Acquisition.UuidText
import SensorHost.Acquisition.Registry
import SensorHost.Acquisition.Handling
import SensorHost.Acquisition.Backlog
import SensorHost.Acquisition.HandOff
import SensorHost.Presentation.AppController
import SensorHost.Presentation.Operations
import SensorHost.Presentation.Run
import SensorHost.Presentation.Steps
import SensorHost.Presentation.Leads
import SensorHost.Presentation.Labels
import SensorHost.Presentation.Events
import SensorHost.Presentation.Listed
import SensorHost.Presentation.Changes
import SensorHost.Presentation.OtaOwner
import SensorHost.Presentation.StaleOutcome
import SensorHost.Presentation.OtaGuard
import SensorHost.Presentation.Readmission
import SensorHost.Presentation.Reconnected
import SensorHost.Presentation.Quiet
import SensorHost.Presentation.Routed
import SensorHost.Presentation.Paths
import SensorHost.Presentation.OneDevice
import SensorHost.Presentation.Selection
import SensorHost.Presentation.Slots
import SensorHost.Presentation.Gateway
import SensorHost.Presentation.PlaybackController
import SensorHost.Presentation.Playback
import SensorHost.Presentation.Refused
import SensorHost.Protocol.Composition
import SensorHost.Protocol.Rendering
