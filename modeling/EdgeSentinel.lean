import EdgeSentinel.CLib.Strings
import EdgeSentinel.CLib.Lines
import EdgeSentinel.CLib.Split
import EdgeSentinel.CLib.Files
import EdgeSentinel.CLib.Descriptors
import EdgeSentinel.CLib.Numbers
import EdgeSentinel.CLib.Numerals
import EdgeSentinel.CLib.Printf
import EdgeSentinel.Encoding.Json
import EdgeSentinel.Encoding.JsonText
import EdgeSentinel.Encoding.JsonPrintf
import EdgeSentinel.Encoding.Utf8
import EdgeSentinel.Encoding.LineFormat
import EdgeSentinel.Encoding.Reading
import EdgeSentinel.Trace.Traced
import EdgeSentinel.Trace.ChangeDetector
import EdgeSentinel.Trace.Watched
import EdgeSentinel.Trace.Lockstep
import EdgeSentinel.Trace.Derived
import EdgeSentinel.Memory.Footprint
import EdgeSentinel.Totals.KeyedTotals
import EdgeSentinel.Config.Model
import EdgeSentinel.Config.Numbers
import EdgeSentinel.Config.Settings
import EdgeSentinel.Config.Load
import EdgeSentinel.Config.NameLists
import EdgeSentinel.Config.Valid
import EdgeSentinel.Config.Frame
import EdgeSentinel.Config.Sound
import EdgeSentinel.Config.Rules
import EdgeSentinel.Config.Fresh
import EdgeSentinel.Config.Lines
import EdgeSentinel.Config.WholeLines
import EdgeSentinel.Config.Order
import EdgeSentinel.Config.OneLine
import EdgeSentinel.Monitor.Alert
import EdgeSentinel.Monitor.System
import EdgeSentinel.Monitor.Process
import EdgeSentinel.Monitor.ProcessSearch
import EdgeSentinel.Monitor.StatusFile
import EdgeSentinel.Monitor.StatFile
import EdgeSentinel.Monitor.NetworkTotals
import EdgeSentinel.Monitor.NetworkResets
import EdgeSentinel.Monitor.DiskUsage
import EdgeSentinel.Monitor.Logger
import EdgeSentinel.Monitor.Notifier
import EdgeSentinel.Monitor.NotifierChild
import EdgeSentinel.Monitor.LogRotation
import EdgeSentinel.Monitor.LogLimit
import EdgeSentinel.Monitor.Directories
import EdgeSentinel.Monitor.ProcessRound
import EdgeSentinel.Monitor.MainLoop
import EdgeSentinel.Monitor.Signals
import EdgeSentinel.Monitor.Frame
import EdgeSentinel.Monitor.CpuUsage
import EdgeSentinel.Monitor.Record
import EdgeSentinel.Monitor.SetUp
import EdgeSentinel.Monitor.Rounds
import EdgeSentinel.Monitor.CpuSamples
import EdgeSentinel.Monitor.NetworkSpeed
import EdgeSentinel.Monitor.Recovery
import EdgeSentinel.Monitor.FailedReload
import EdgeSentinel.Monitor.LogDirectory
import EdgeSentinel.Monitor.Tracking
import EdgeSentinel.Monitor.MessageLengths
import EdgeSentinel.Monitor.Alerts
import EdgeSentinel.Monitor.NotificationLengths
import EdgeSentinel.Monitor.Restart
import EdgeSentinel.Monitor.Isolation
import EdgeSentinel.Monitor.Output
import EdgeSentinel.Monitor.OutputUtf8
import EdgeSentinel.Monitor.Coherence
import EdgeSentinel.Monitor.LineOrder
import EdgeSentinel.Monitor.Readings
import EdgeSentinel.Monitor.SystemRecords
import EdgeSentinel.Monitor.Progress
import EdgeSentinel.Monitor.Completion
import EdgeSentinel.Monitor.Sends
import EdgeSentinel.Monitor.JsonLines
import EdgeSentinel.Monitor.LogText
import EdgeSentinel.Monitor.LogOfRun
import EdgeSentinel.Monitor.NotificationText
import EdgeSentinel.Monitor.TextOutput
import EdgeSentinel.Monitor.ConfigInEffect
import EdgeSentinel.Monitor.ProgressText
import EdgeSentinel.Monitor.TextRuns
import EdgeSentinel.Monitor.Formats
import EdgeSentinel.Monitor.CommandLine
import EdgeSentinel.Monitor.Interleavings
import EdgeSentinel.Monitor.ProcFiles
import EdgeSentinel.Monitor.NotificationLog
import EdgeSentinel.Monitor.ProcessReadings
