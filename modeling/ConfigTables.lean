import ConfigTables.Text.Octets
import ConfigTables.Text.Utf8
import ConfigTables.Text.CaseMap
import ConfigTables.Text.Chars
import ConfigTables.Text.Cells
import ConfigTables.Files.Path
import ConfigTables.Format
import ConfigTables.Fault
import ConfigTables.Number.Binary64
import ConfigTables.Number.Literal
import ConfigTables.Json.Value
import ConfigTables.Json.Scan
import ConfigTables.Data.Shape
import ConfigTables.Data.FromJson
import ConfigTables.Data.ToJson
import ConfigTables.Message.Wire
import ConfigTables.Message.JsonForm
import ConfigTables.Data.Cbor
import ConfigTables.Data.Merge
import ConfigTables.Files.Tree
import ConfigTables.Payload
import ConfigTables.Load.Options
import ConfigTables.Load.Message
import ConfigTables.Ordered
import ConfigTables.Broker
import ConfigTables.Broker.Threads
import ConfigTables.Tables
import ConfigTables.Log.Record
import ConfigTables.Trace.Export
import ConfigTables.Hub.Report
import ConfigTables.Hub.Table
import ConfigTables.Hub.Registry
import ConfigTables.Hub.Core
import ConfigTables.Hub.Query
import ConfigTables.Time.Duration
import ConfigTables.Time.Civil
import ConfigTables.Time.Stamp
import ConfigTables.Log.Line
import ConfigTables.Text.LineDiff
import ConfigTables.Present.Grid
import ConfigTables.Present.Report
import ConfigTables.Schema
import ConfigTables.Config.Layers
import ConfigTables.Config.Weak
import ConfigTables.Config.Settings
import ConfigTables.Yaml.Node
import ConfigTables.Yaml.Source
import ConfigTables.Yaml.Scalar
import ConfigTables.Yaml.Read
import ConfigTables.Yaml.Comments
import ConfigTables.Yaml.Document
import ConfigTables.Yaml.Write
import ConfigTables.Config.File
import ConfigTables.Cache
import ConfigTables.Journal.Db
import ConfigTables.Journal
import ConfigTables.Fault.Json
import ConfigTables.Command.Flag
import ConfigTables.Command.Spec
import ConfigTables.Command.World
import ConfigTables.Command.Setup
import ConfigTables.Present.Markdown.Render
import ConfigTables.Command.Loader
import ConfigTables.Files.Action
import ConfigTables.Watch
import ConfigTables.Command.Run
import ConfigTables.Text.Redact
import ConfigTables.Command.Session
import ConfigTables.Main
import ConfigTables.Proofs.LoadPhase
import ConfigTables.Proofs.Barrier
import ConfigTables.Proofs.LoadCycle
import ConfigTables.Proofs.Schedule
import ConfigTables.Proofs.Panics
import ConfigTables.Proofs.Lifecycle
import ConfigTables.Proofs.LoadSettings
import ConfigTables.Proofs.PathExtension
import ConfigTables.Proofs.ReadFailures
import ConfigTables.Proofs.TableFaults
import ConfigTables.Proofs.ValidatedLoads
import ConfigTables.Proofs.Ledger
import ConfigTables.Proofs.JsonText
import ConfigTables.Proofs.TreeFrame
import ConfigTables.Proofs.JournalStore
import ConfigTables.Proofs.History
import ConfigTables.Proofs.LoadEvents
import ConfigTables.Proofs.PathKeys
import ConfigTables.Proofs.TreeWrites
import ConfigTables.Proofs.FailureSites
import ConfigTables.Proofs.LoadSemantics
import ConfigTables.Proofs.LoadReads
import ConfigTables.Proofs.WatchCoverage
import ConfigTables.Proofs.BrokerProtocol
import ConfigTables.Proofs.StoreFiles
import ConfigTables.Proofs.RoundTrip
import ConfigTables.Proofs.OptionLayers
import ConfigTables.Proofs.RowIndexes
import ConfigTables.Proofs.TaskRewards
import ConfigTables.Proofs.SettingsEdit
import ConfigTables.Proofs.MutationCheck
import ConfigTables.Proofs.StoreIsolation
import ConfigTables.Proofs.CachedReads
import ConfigTables.Proofs.WatchLoop
import ConfigTables.Proofs.FormatNames
import ConfigTables.Proofs.OrderedCalls
