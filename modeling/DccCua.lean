import DccCua.Lib.Runs
import DccCua.Lib.Checks
import DccCua.Lib.Script
import DccCua.Lib.Json
import DccCua.Lib.Unicode
import DccCua.Lib.Lines
import DccCua.Lib.Keyed
import DccCua.Lib.Rounds
import DccCua.Text
import DccCua.Words
import DccCua.Paths
import DccCua.Host.TaskAuthorization
import DccCua.Host.Broker
import DccCua.Theorems.BrokerRecords
import DccCua.Theorems.BrokerRuns
import DccCua.Theorems.Lease
import DccCua.Protocol.Frame
import DccCua.Theorems.Frame
import DccCua.Host.Connection
import DccCua.Theorems.Connection
import DccCua.Host.SessionEvents
import DccCua.Theorems.SessionEvents
import DccCua.Host.Wire
import DccCua.Theorems.Wire
import DccCua.Host.Cancellation
import DccCua.Theorems.Cancellation
import DccCua.Core.LiveObservation
import DccCua.Theorems.LiveObservation
import DccCua.Showcase.Encoder
import DccCua.Theorems.Encoder
import DccCua.Showcase.Producer
import DccCua.Theorems.Producer
import DccCua.Client.HostClient
import DccCua.Theorems.HostClient
import DccCua.Theorems.HostReady
import DccCua.Theorems.HostBatch
import DccCua.Host.ImageTransport
import DccCua.Client.Attachments
import DccCua.Theorems.ImageTransport
import DccCua.Extension.Protocol
import DccCua.Extension.ContentProtocol
import DccCua.Extension.TabBridge
import DccCua.Theorems.TabBridge
import DccCua.Host.ExtensionMessages
import DccCua.Theorems.ExtensionMessages
import DccCua.Host.ExtensionCalls
import DccCua.Theorems.ExtensionRequests
import DccCua.Theorems.ExtensionCalls
import DccCua.Indicator.EscapeHub
import DccCua.Theorems.EscapeHub
import DccCua.Host.Interrupts
import DccCua.Theorems.Interrupts
import DccCua.Host.RawInput
import DccCua.Theorems.RawInput
import DccCua.Host.Sessions
import DccCua.Theorems.Sessions
import DccCua.Core.Session
import DccCua.Core.Actions
import DccCua.Core.Recording
import DccCua.Theorems.SessionChecks
import DccCua.Theorems.SessionFences
import DccCua.Theorems.ActionAttempts
import DccCua.Theorems.LiveScreenshots
import DccCua.Theorems.SessionLedger
import DccCua.Theorems.StopHonesty
import DccCua.Theorems.StopRuns
import DccCua.Theorems.OpenCleanup
import DccCua.Browser.Session
import DccCua.Host.WindowSession
import DccCua.Host.BrowserRequests
import DccCua.Host.WindowRequests
import DccCua.Theorems.WindowKeeps
import DccCua.Theorems.Evidence
import DccCua.Theorems.BrowserEvidence
import DccCua.Theorems.EvidenceRuns
import DccCua.Theorems.IdleSessions
import DccCua.Uuid
import DccCua.Cli.Workflow
import DccCua.Theorems.WorkflowRuns
import DccCua.Theorems.WorkflowLimits
import DccCua.Core.NativeAuthority
import DccCua.Theorems.NativeAuthority
import DccCua.Host.Endpoint
import DccCua.Theorems.Endpoint
import DccCua.Cli.TaskServer
import DccCua.Theorems.TaskMoves
import DccCua.Theorems.TaskRequests
import DccCua.Theorems.TaskSafety
import DccCua.Theorems.TaskStops
import DccCua.Theorems.TaskRebind
import DccCua.Theorems.TaskCapacity
import DccCua.Indicator.InputSuppression
import DccCua.Theorems.InputSuppression
import DccCua.Host.ExtensionPolls
import DccCua.Theorems.ExtensionPolls
import DccCua.Cli.Relay
import DccCua.Theorems.Relay
import DccCua.Extension.Navigation
import DccCua.Theorems.Navigation
import DccCua.Host.ExtensionRegistry
import DccCua.Theorems.ExtensionRegistry
import DccCua.Host.CrossClient
import DccCua.Theorems.CrossClient
import DccCua.Theorems.CrossClientRuns
import DccCua.Theorems.CrossClientScopes
import DccCua.Theorems.CrossClientClock
import DccCua.Cli.McpTransport
import DccCua.Theorems.McpTransport
import DccCua.Profiles.Profile
import DccCua.Profiles.Matching
import DccCua.Profiles.Package
import DccCua.Profiles.Store
import DccCua.Theorems.ProfileMerge
import DccCua.Theorems.ProfileLookup
import DccCua.Theorems.ProfileResolution
import DccCua.Theorems.ProfileStore
import DccCua.Theorems.ProfileParents
import DccCua.Theorems.StoreLaw
import DccCua.Theorems.StoreChanges
import DccCua.Theorems.AncestorPages
import DccCua.Protocol.BoundedJsonl
import DccCua.Theorems.BoundedJsonl
import DccCua.Lib.Rects
import DccCua.Core.CapturePopup
import DccCua.Theorems.CapturePopup
import DccCua.Windows.Occlusion
import DccCua.Theorems.Occlusion
import DccCua.Core.DragPath
import DccCua.Theorems.DragPath
import DccCua.Windows.InputEvents
import DccCua.Theorems.TextEvents
import DccCua.Windows.NativeCapturePopup
import DccCua.Theorems.NativeCapturePopup
import DccCua.Windows.GuardedInput
import DccCua.Theorems.HeldInput
import DccCua.Theorems.GuardedReleases
import DccCua.Theorems.GuardedSteps
import DccCua.Theorems.GuardedChecks
import DccCua.Windows.CapturePopupInput
import DccCua.Theorems.CapturePopupInput
import DccCua.Theorems.ProfileWindows
import DccCua.Theorems.WorkflowFinality
import DccCua.Cli.StartContract
import DccCua.Theorems.StartContract
import DccCua.Lib.Calls
import DccCua.Windows.RestoreActivate
import DccCua.Theorems.RestoreActivate
import DccCua.Windows.ExactWindowFrame
import DccCua.Core.WindowFrameCommand
import DccCua.Theorems.WindowFrameCommand
import DccCua.Theorems.NativeReadFailures
import DccCua.Lib.Rounding
import DccCua.Core.WindowTarget
import DccCua.Theorems.WindowTarget
import DccCua.Core.DragSequences
import DccCua.Theorems.DragSequences
import DccCua.Theorems.FencedPath
import DccCua.Core.RelativePath
import DccCua.Theorems.RelativePath
import DccCua.Core.LinuxPixels
import DccCua.Theorems.LinuxPixels
import DccCua.Lib.Saturation
import DccCua.Windows.ConnectedScope
import DccCua.Theorems.ConnectedScope
import DccCua.Core.ActionPolicy
import DccCua.Windows.HeldKeys
import DccCua.Theorems.HeldKeys
import DccCua.Core.SdkActionCompat
import DccCua.Cli.Actions
import DccCua.Theorems.ElementTokens
import DccCua.Showcase.Samples
import DccCua.Theorems.Samples
import DccCua.Showcase.Resize
import DccCua.Theorems.Resize
import DccCua.Cli.ConnectionRegistry
import DccCua.Theorems.ConnectionRegistry
import DccCua.Core.NativePublication
import DccCua.Theorems.NativePublication
import DccCua.Windows.CapturePreparation
import DccCua.Theorems.CapturePreparation
import DccCua.Theorems.PreparationRuns
import DccCua.Theorems.PreparationJournal
