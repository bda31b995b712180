import PlaybackConnector.App.AdaptiveReevaluation
import PlaybackConnector.App.AdaptiveResourceController
import PlaybackConnector.App.AdaptiveResourcePolicy
import PlaybackConnector.App.CaptureSnapshot
import PlaybackConnector.App.DeviceFactPublicationFence
import PlaybackConnector.App.DeviceFacts
import PlaybackConnector.App.DeviceMerge
import PlaybackConnector.App.EventState
import PlaybackConnector.App.LatestStartupTaskRequestState
import PlaybackConnector.App.Models
import PlaybackConnector.App.PresentedSnapshot
import PlaybackConnector.App.ResourcePressureMonitor
import PlaybackConnector.App.ResourcePressureState
import PlaybackConnector.App.Results
import PlaybackConnector.App.Shutdown
import PlaybackConnector.App.StartupTaskCoordinator
import PlaybackConnector.App.StartupTaskOutcomes
import PlaybackConnector.App.StartupTaskSerial
import PlaybackConnector.App.UiAction
import PlaybackConnector.App.UiDispatcher
import PlaybackConnector.App.UiRefreshScheduler
import PlaybackConnector.Arith.Signed
import PlaybackConnector.Control.Accounting
import PlaybackConnector.Control.CliParser
import PlaybackConnector.Control.CliRequests
import PlaybackConnector.Control.CommandClient
import PlaybackConnector.Control.CommandLineControlServer
import PlaybackConnector.Control.CommandPipeIo
import PlaybackConnector.Control.CommandProtocol
import PlaybackConnector.Control.ControlCommandAdapter
import PlaybackConnector.Control.EndToEnd
import PlaybackConnector.Control.Executions
import PlaybackConnector.Control.JsonScan
import PlaybackConnector.Control.Ledger
import PlaybackConnector.Control.LocalError
import PlaybackConnector.Control.Once
import PlaybackConnector.Control.PipeInstance
import PlaybackConnector.Control.Privacy
import PlaybackConnector.Control.Refusals
import PlaybackConnector.Control.RequestCache
import PlaybackConnector.Core.ReconnectPolicy
import PlaybackConnector.Json.Grammar
import PlaybackConnector.Json.Same
import PlaybackConnector.Json.Text
import PlaybackConnector.Json.Value
import PlaybackConnector.Power.Coordinator
import PlaybackConnector.Power.Delivery
import PlaybackConnector.Selection.Pattern
import PlaybackConnector.Selection.Ranked
import PlaybackConnector.Service.Cancellation
import PlaybackConnector.Service.Coverage
import PlaybackConnector.Service.Executor
import PlaybackConnector.Service.Inventory
import PlaybackConnector.Service.Joining
import PlaybackConnector.Service.Ownership
import PlaybackConnector.Service.Policy
import PlaybackConnector.Service.PowerCycles
import PlaybackConnector.Service.Recovery
import PlaybackConnector.Service.Snapshot
import PlaybackConnector.Service.State
import PlaybackConnector.Service.Steps
import PlaybackConnector.Service.Suspension
import PlaybackConnector.Service.Tasks
import PlaybackConnector.Service.Watcher
import PlaybackConnector.Session.Abandoned
import PlaybackConnector.Session.Barrier
import PlaybackConnector.Session.Budget
import PlaybackConnector.Session.Callbacks
import PlaybackConnector.Session.Control
import PlaybackConnector.Session.Disconnect
import PlaybackConnector.Session.Joining
import PlaybackConnector.Session.Lifecycle
import PlaybackConnector.Session.Moves
import PlaybackConnector.Session.Operations
import PlaybackConnector.Session.Pursuit
import PlaybackConnector.Session.Recovery
import PlaybackConnector.Session.Relisten
import PlaybackConnector.Session.Reports
import PlaybackConnector.Session.Silence
import PlaybackConnector.Session.State
import PlaybackConnector.Session.Steps
import PlaybackConnector.Session.Suspension
import PlaybackConnector.Settings.Codec
import PlaybackConnector.Settings.Data
import PlaybackConnector.Settings.Libraries
import PlaybackConnector.Settings.Migration
import PlaybackConnector.Settings.Mutations
import PlaybackConnector.Settings.Persistence
import PlaybackConnector.Settings.Publication
import PlaybackConnector.Settings.RoundTrip
import PlaybackConnector.Settings.Saved
import PlaybackConnector.Settings.Size
import PlaybackConnector.Settings.Store
import PlaybackConnector.Settings.Takeover
import PlaybackConnector.Text.Case
import PlaybackConnector.Text.Replace
import PlaybackConnector.Text.Utf8
import PlaybackConnector.Text.Xml
import PlaybackConnector.Toast.ToastArguments
import PlaybackConnector.Toast.ToastXmlSanitizer
import PlaybackConnector.Transition.Admission
import PlaybackConnector.Transition.Changes
import PlaybackConnector.Transition.Delivery
import PlaybackConnector.Transition.Fallible
import PlaybackConnector.Transition.History
import PlaybackConnector.Transition.Reporter
import PlaybackConnector.Transition.Ring
import PlaybackConnector.Transition.System
import PlaybackConnector.Transition.Timed
import PlaybackConnector.Transition.Versioned
import PlaybackConnector.Ui.DevicePickerViewState
import PlaybackConnector.Ui.DiagnosticsLogCollector
import PlaybackConnector.Ui.PickerFlyout
import PlaybackConnector.Ui.TrayIcon
import PlaybackConnector.Ui.TrayVisuals
import PlaybackConnector.Ui.WindowPlacement
import PlaybackConnector.Util.EmergencyState
import PlaybackConnector.Util.Logger
import PlaybackConnector.Wire.Fragments
import PlaybackConnector.Wire.Layout
import PlaybackConnector.Wire.Percent
