import Hotplug.BlockDevice
import Hotplug.Channel
import Hotplug.CommandLine.Command
import Hotplug.CommandLine.Help
import Hotplug.CommandLine.Invocation
import Hotplug.CommandLine.Outcome
import Hotplug.CommandLine.Setting
import Hotplug.Config.Basic
import Hotplug.Config.Json
import Hotplug.Config.Yaml
import Hotplug.Device.Id
import Hotplug.Device.Json
import Hotplug.Device.Kind
import Hotplug.Device.Record
import Hotplug.Error
import Hotplug.Event
import Hotplug.Event.Json
import Hotplug.FileTree.Basic
import Hotplug.FileTree.Edit
import Hotplug.Json.Fault
import Hotplug.Json.Number
import Hotplug.Json.Read
import Hotplug.Json.Text
import Hotplug.Json.Write
import Hotplug.Lookup
import Hotplug.MountTable
import Hotplug.Path.Basic
import Hotplug.Proofs.Path.Order
import Hotplug.Proofs.Registry.Ascending
import Hotplug.Proofs.Registry.Continuity
import Hotplug.Proofs.Registry.Difference
import Hotplug.Proofs.Registry.History
import Hotplug.Proofs.Registry.Refresh
import Hotplug.Proofs.Registry.Replay
import Hotplug.Proofs.Registry.Topmost
import Hotplug.Proofs.Text.Escape
import Hotplug.Proofs.Text.Utf8
import Hotplug.Registry.Basic
import Hotplug.Registry.Memory
import Hotplug.Registry.Mounts
import Hotplug.Registry.Survey
import Hotplug.Registry.Watcher
import Hotplug.Text.Blank
import Hotplug.Text.ControlSequence
import Hotplug.Text.Escape
import Hotplug.Text.Number
import Hotplug.Text.Printable
import Hotplug.Text.Quoted
import Hotplug.Text.Utf8
import Hotplug.Time.Calendar
import Hotplug.Time.Instant
import Hotplug.Time.Timestamp
import Hotplug.Yaml.Cursor
import Hotplug.Yaml.Document
import Hotplug.Yaml.Lexer
import Hotplug.Yaml.Natural
import Hotplug.Yaml.Scalar
import Hotplug.Yaml.Token
import Hotplug.Main
import Hotplug.Proofs.MountTable.Written
import Hotplug.Proofs.Path.Relative
import Hotplug.Proofs.Registry.Records
import Hotplug.Proofs.Registry.Lookup
import Hotplug.Proofs.Registry.Census
import Hotplug.Proofs.Registry.MemoryLookup
import Hotplug.Proofs.Text.Strict
import Hotplug.Proofs.Path.FileName
import Hotplug.Proofs.Text.HexEscape
import Hotplug.Proofs.BlockDevice.Link
import Hotplug.Proofs.Registry.Identity
import Hotplug.Proofs.Registry.Agreement
import Hotplug.Proofs.Text.Boundary
import Hotplug.Proofs.Text.Scan
import Hotplug.Proofs.Registry.Unbroken
import Hotplug.Proofs.FileTree.Write
import Hotplug.Proofs.MountTable.Lines
import Hotplug.Proofs.Registry.Foreign
import Hotplug.Proofs.Registry.Watch
import Hotplug.Proofs.Channel.Audience
import Hotplug.Proofs.Registry.Announcement
import Hotplug.Proofs.Json.Text
import Hotplug.Proofs.Json.Number
import Hotplug.Proofs.Json.Layout
import Hotplug.Proofs.Json.Yield
import Hotplug.Proofs.Device.Codec
import Hotplug.Proofs.Device.Json
import Hotplug.Proofs.Config.Json
import Hotplug.Proofs.Event.Json
import Hotplug.Proofs.Json.Forms
import Hotplug.CheckTask
import Hotplug.Proofs.Registry.Attachment
import Hotplug.Proofs.CommandLine.Configuration
import Hotplug.Proofs.FileTree.Walk
import Hotplug.Proofs.BlockDevice.Partition
import Hotplug.Proofs.Text.Number
import Hotplug.Proofs.Registry.Partition
import Hotplug.Proofs.Registry.Spelling
import Hotplug.Proofs.MountTable.Insertion
import Hotplug.Proofs.CommandLine.Unbroken
import Hotplug.Proofs.CommandLine.Attached
import Hotplug.Proofs.Text.Writing
