import SimpleVM.Agent.AcceptLoop
import SimpleVM.Agent.Attribution
import SimpleVM.Agent.Broker
import SimpleVM.Agent.Crossing
import SimpleVM.Agent.Daemon
import SimpleVM.Agent.EnvelopeCodec
import SimpleVM.Agent.FrameLimit
import SimpleVM.Agent.Framing
import SimpleVM.Agent.GuestProtocol
import SimpleVM.Agent.GuestText
import SimpleVM.Agent.HostCodec
import SimpleVM.Agent.HostDecoding
import SimpleVM.Agent.HostText
import SimpleVM.Agent.Matching
import SimpleVM.Agent.MountTable
import SimpleVM.Agent.OSRelease
import SimpleVM.Agent.Operations
import SimpleVM.Agent.Protocol
import SimpleVM.Agent.Registration
import SimpleVM.Agent.Resynchronisation
import SimpleVM.Agent.RoundTrip
import SimpleVM.Agent.SessionReplies
import SimpleVM.Agent.SocketTransport
import SimpleVM.Agent.Sources
import SimpleVM.Agent.Survival
import SimpleVM.Agent.Understanding
import SimpleVM.App.Admission
import SimpleVM.App.AppLifecycleDelegate
import SimpleVM.App.AppProcess
import SimpleVM.App.Calls
import SimpleVM.App.DownloadRegistry
import SimpleVM.App.DownloadTasks
import SimpleVM.App.Exclusion
import SimpleVM.App.ImageCalls
import SimpleVM.App.ImageReferences
import SimpleVM.App.ImmersionController
import SimpleVM.App.ImmersionScope
import SimpleVM.App.Library
import SimpleVM.App.LibraryFile
import SimpleVM.App.MachineCalls
import SimpleVM.App.OrphanCleanup
import SimpleVM.App.PersistedLibrary
import SimpleVM.App.Provisioning
import SimpleVM.App.QuitProtection
import SimpleVM.App.Restoration
import SimpleVM.App.Rollback
import SimpleVM.App.Session
import SimpleVM.App.SettingCalls
import SimpleVM.App.SettingsIsolation
import SimpleVM.App.StrandedMachines
import SimpleVM.App.UnsavedChanges
import SimpleVM.Apple.Coherence
import SimpleVM.Apple.MachineRuntime
import SimpleVM.Apple.Recovery
import SimpleVM.Apple.SocketConnectionCompletion
import SimpleVM.Clipboard.Convergence
import SimpleVM.Clipboard.InFlight
import SimpleVM.Clipboard.LoopGuard
import SimpleVM.Clipboard.Quiescence
import SimpleVM.Clipboard.Rounds
import SimpleVM.Clipboard.Synchronizer
import SimpleVM.Domain.Image
import SimpleVM.Domain.Machine
import SimpleVM.Effects.Failing
import SimpleVM.Effects.Result
import SimpleVM.Files.LexicalPath
import SimpleVM.Files.SymbolicLinks
import SimpleVM.Files.Tree
import SimpleVM.GuestTools.Coordinator
import SimpleVM.GuestTools.StaleProbes
import SimpleVM.Images.ConcurrentPreparation
import SimpleVM.Images.DownloadCancellation
import SimpleVM.Images.ISOArchitectureDetector
import SimpleVM.Images.ImageDownloadClient
import SimpleVM.Images.VerifiedDownloads
import SimpleVM.Images.WindowsSupportMedia
import SimpleVM.Images.WindowsSupportTools
import SimpleVM.Input.CanonicalRules
import SimpleVM.Input.CustomKeyboardProfiles
import SimpleVM.Input.DockGesture
import SimpleVM.Input.GuestInputRouter
import SimpleVM.Input.GuestTextInput
import SimpleVM.Input.InputPaths
import SimpleVM.Input.KarabinerInputBridge
import SimpleVM.Input.KarabinerRules
import SimpleVM.Input.KeyBalance
import SimpleVM.Input.KeyReplay
import SimpleVM.Input.KeyboardMappingSettings
import SimpleVM.Input.KeyboardProfileStore
import SimpleVM.Input.LatchFollows
import SimpleVM.Input.ModifierFlags
import SimpleVM.Input.PCXTKeyMapper
import SimpleVM.Input.QEMUKeyMapper
import SimpleVM.Input.RespelledRules
import SimpleVM.Input.RuleSpelling
import SimpleVM.Input.StoredProfiles
import SimpleVM.Input.TypedText
import SimpleVM.Input.WorkspaceTracking
import SimpleVM.Python.CodePoints
import SimpleVM.Python.Joined
import SimpleVM.Python.Json
import SimpleVM.Python.Loaded
import SimpleVM.Python.Locality
import SimpleVM.Python.Nesting
import SimpleVM.Python.Text
import SimpleVM.QEMU.CommandLine
import SimpleVM.QEMU.Configuration
import SimpleVM.QEMU.ControlSocket
import SimpleVM.QEMU.DisplaySize
import SimpleVM.QEMU.ForceStop
import SimpleVM.QEMU.HeldKeys
import SimpleVM.QEMU.KeySink
import SimpleVM.QEMU.LoopbackPorts
import SimpleVM.QEMU.MACAddress
import SimpleVM.QEMU.MachineRuntime
import SimpleVM.QEMU.Occupancy
import SimpleVM.QEMU.OptionRoundTrip
import SimpleVM.QEMU.OptionText
import SimpleVM.QEMU.ProcessController
import SimpleVM.QEMU.ProcessCycles
import SimpleVM.QEMU.Recovery
import SimpleVM.QEMU.Resumption
import SimpleVM.QEMU.RunIsolation
import SimpleVM.QEMU.SerialMonitor
import SimpleVM.QEMU.SoftwareTPM
import SimpleVM.QEMU.StuckKeys
import SimpleVM.Raster.Mirror
import SimpleVM.Raster.Rectangles
import SimpleVM.Raster.RowMajor
import SimpleVM.SPICE.CSDisplay
import SimpleVM.SPICE.CanvasCurrent
import SimpleVM.SPICE.ConnectionController
import SimpleVM.SPICE.Continuations
import SimpleVM.SPICE.CopyBounds
import SimpleVM.SPICE.DrawsAnswered
import SimpleVM.SPICE.PasteboardAgreement
import SimpleVM.SPICE.PasteboardBridge
import SimpleVM.SPICE.ScanoutCurrent
import SimpleVM.Storage.CloneCompleteness
import SimpleVM.Storage.CreatedFiles
import SimpleVM.Storage.DiskCapacity
import SimpleVM.Storage.ExportSafety
import SimpleVM.Storage.LibraryCodec
import SimpleVM.Storage.LibraryRoundTrip
import SimpleVM.Storage.LibraryStore
import SimpleVM.Storage.ManagedFileExporter
import SimpleVM.Storage.ManagedImageStore
import SimpleVM.Storage.ManagedMachineStore
import SimpleVM.Storage.Paths
import SimpleVM.Storage.SnapshotAtomicity
import SimpleVM.Storage.SnapshotCopies
import SimpleVM.Storage.SnapshotFailures
import SimpleVM.Storage.SnapshotFidelity
import SimpleVM.Storage.SnapshotOperations
import SimpleVM.Storage.SnapshotStore
import SimpleVM.Storage.StorageLayout
import SimpleVM.Storage.UUIDText
import SimpleVM.Storage.Volume
import SimpleVM.Streams.Reader
import SimpleVM.Swift.Characters
import SimpleVM.Swift.Codable
import SimpleVM.Swift.Dictionaries
import SimpleVM.Swift.ISO8601
import SimpleVM.Swift.JSONDecoder
import SimpleVM.Swift.JSONEncoder
import SimpleVM.Swift.JSONSerialization
import SimpleVM.Swift.JSONText
import SimpleVM.Swift.PrettyPrinted
import SimpleVM.Text.ChunkedSearch
import SimpleVM.Text.DoubledSeparator
import SimpleVM.Text.RepairedUTF8
import SimpleVM.Text.SpacedParts
import SimpleVM.Text.Trimming
import SimpleVM.Text.UTF8
import SimpleVM.Text.Unescaping
import SimpleVM.Transition.Run
import SimpleVM.Transition.Tasks
import SimpleVM.VNC.ClientStream
import SimpleVM.VNC.RectangleBounds
import SimpleVM.VNC.Refinement
import SimpleVM.VNC.RemoteFramebuffer
import SimpleVM.VNC.SimpleVNCClient
