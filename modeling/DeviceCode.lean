import DeviceCode.Accelerator
import DeviceCode.Assoc
import DeviceCode.Bytes
import DeviceCode.Device.Table
import DeviceCode.Elf.Draft
import DeviceCode.Elf.Error
import DeviceCode.Elf.Format
import DeviceCode.Elf.Object
import DeviceCode.Elf.StringTable
import DeviceCode.Elf.Symbol
import DeviceCode.Error
import DeviceCode.Handle
import DeviceCode.Host.FileSystem
import DeviceCode.Host.Image
import DeviceCode.Host.LoadBias
import DeviceCode.Host.Path
import DeviceCode.JsonText
import DeviceCode.Kernel.ArgLayout
import DeviceCode.Kernel.Dim3
import DeviceCode.Kernel.Geometry
import DeviceCode.Kernel.LaunchArgs
import DeviceCode.Kernel.LayoutCache
import DeviceCode.Kernel.Metadata
import DeviceCode.Kernel.Packet
import DeviceCode.Kernel.Parameter
import DeviceCode.Launch.Completion
import DeviceCode.Launch.Hooks
import DeviceCode.Launch.Request
import DeviceCode.Loader.Binding
import DeviceCode.Loader.Completions
import DeviceCode.Loader.Launch
import DeviceCode.Loader.Layouts
import DeviceCode.Loader.Load
import DeviceCode.Loader.Lookup
import DeviceCode.Loader.Module
import DeviceCode.Loader.Residency
import DeviceCode.Loader.Teardown
import DeviceCode.Loader.Unload
import DeviceCode.Loader.World
import DeviceCode.Pattern.Atom
import DeviceCode.Pattern.CharSet
import DeviceCode.Pattern.Compilable
import DeviceCode.Pattern.Mode
import DeviceCode.Proofs.Accounting
import DeviceCode.Proofs.Acquired
import DeviceCode.Proofs.Alike
import DeviceCode.Proofs.Apart
import DeviceCode.Proofs.Attributed
import DeviceCode.Proofs.Audit
import DeviceCode.Proofs.Bindings
import DeviceCode.Proofs.Blame
import DeviceCode.Proofs.Bookkeeping
import DeviceCode.Proofs.Books
import DeviceCode.Proofs.Carrying
import DeviceCode.Proofs.Chronicle
import DeviceCode.Proofs.Conservation
import DeviceCode.Proofs.Crossing
import DeviceCode.Proofs.CurrentDevice
import DeviceCode.Proofs.Custody
import DeviceCode.Proofs.Elf.Extension
import DeviceCode.Proofs.Elf.Extent
import DeviceCode.Proofs.Elf.FirstTables
import DeviceCode.Proofs.Elf.Layout
import DeviceCode.Proofs.Elf.Names
import DeviceCode.Proofs.Elf.ReadBack
import DeviceCode.Proofs.Elf.Records
import DeviceCode.Proofs.Elf.RoundTrip
import DeviceCode.Proofs.Elf.TableBounds
import DeviceCode.Proofs.EventSession
import DeviceCode.Proofs.Exposure
import DeviceCode.Proofs.FailedLoad
import DeviceCode.Proofs.FieldRoundTrip
import DeviceCode.Proofs.Fleet
import DeviceCode.Proofs.Follows
import DeviceCode.Proofs.FrozenExecutables
import DeviceCode.Proofs.HookCalls
import DeviceCode.Proofs.Host.AddressText
import DeviceCode.Proofs.Host.Mappings
import DeviceCode.Proofs.Host.Paths
import DeviceCode.Proofs.HostIndex
import DeviceCode.Proofs.Kernel.LayoutHistory
import DeviceCode.Proofs.Kernel.MetadataText
import DeviceCode.Proofs.Kernel.NaturalLayout
import DeviceCode.Proofs.Kernel.PackedFields
import DeviceCode.Proofs.Kernel.PacketLayout
import DeviceCode.Proofs.Kernel.Packing
import DeviceCode.Proofs.Kernel.Spelling
import DeviceCode.Proofs.LaunchOutcome
import DeviceCode.Proofs.Lawfulness
import DeviceCode.Proofs.LayoutSession
import DeviceCode.Proofs.Leads
import DeviceCode.Proofs.Leases
import DeviceCode.Proofs.Ledger
import DeviceCode.Proofs.LoadAlike
import DeviceCode.Proofs.LoadCalls
import DeviceCode.Proofs.LoadDecided
import DeviceCode.Proofs.LoadOutcome
import DeviceCode.Proofs.LoadPaths
import DeviceCode.Proofs.LoadProgress
import DeviceCode.Proofs.LoadSuccess
import DeviceCode.Proofs.LoaderAlike
import DeviceCode.Proofs.Lookups
import DeviceCode.Proofs.Maps
import DeviceCode.Proofs.Memoized
import DeviceCode.Proofs.Moves
import DeviceCode.Proofs.Operations
import DeviceCode.Proofs.Orderly
import DeviceCode.Proofs.Outliving
import DeviceCode.Proofs.Protocol
import DeviceCode.Proofs.Quiet
import DeviceCode.Proofs.RequestCalls
import DeviceCode.Proofs.ResumedUnloads
import DeviceCode.Proofs.Resumption
import DeviceCode.Proofs.RetainedImages
import DeviceCode.Proofs.Retention
import DeviceCode.Proofs.Session
import DeviceCode.Proofs.SessionSteps
import DeviceCode.Proofs.SimulatorCalls
import DeviceCode.Proofs.SimulatorSuccess
import DeviceCode.Proofs.Soundness
import DeviceCode.Proofs.SpanSession
import DeviceCode.Proofs.Standing
import DeviceCode.Proofs.Submission
import DeviceCode.Proofs.SymbolSearch
import DeviceCode.Proofs.TeardownOutcome
import DeviceCode.Proofs.Text.Blanks
import DeviceCode.Proofs.Text.Numerals
import DeviceCode.Proofs.Text.Splitting
import DeviceCode.Proofs.TrailingBytes
import DeviceCode.Proofs.Turns
import DeviceCode.Proofs.UnloadCalls
import DeviceCode.Proofs.UnloadOutcome
import DeviceCode.Proofs.UnloadSuccess
import DeviceCode.Proofs.Variables
import DeviceCode.Proofs.Watch
import DeviceCode.Reader
import DeviceCode.Settings
import DeviceCode.Simulator.Dispatches
import DeviceCode.Simulator.Executables
import DeviceCode.Simulator.Memory
import DeviceCode.Simulator.State
import DeviceCode.Text.Alphanumeric
import DeviceCode.Text.Blank
import DeviceCode.Text.BytePlace
import DeviceCode.Text.Hex
import DeviceCode.Text.Number
import DeviceCode.Text.Numeral
import DeviceCode.Text.Quoted
import DeviceCode.Text.Ranges
import DeviceCode.Text.Shortest
import DeviceCode.Text.Unseen
import DeviceCode.Text.Utf8
import DeviceCode.Trace.Directive
import DeviceCode.Trace.Event
import DeviceCode.Trace.Filter
import DeviceCode.Trace.Settings
import DeviceCode.Trace.Span
