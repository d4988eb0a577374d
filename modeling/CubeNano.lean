import CubeNano.Flight.CommandDispatch
import CubeNano.Flight.ConfigHistory
import CubeNano.Flight.DownlinkMachine
import CubeNano.Flight.DownlinkOrder
import CubeNano.Flight.FileDownlink
import CubeNano.Flight.JobLifecycle
import CubeNano.Flight.JobRuns
import CubeNano.Flight.Journal
import CubeNano.Flight.JournalFrames
import CubeNano.Flight.JournalPublication
import CubeNano.Flight.MissionComScheduler
import CubeNano.Flight.RequestRetention
import CubeNano.Flight.SatelliteSimulator
import CubeNano.Flight.SatelliteUdpService
import CubeNano.Flight.SchedulerFairness
import CubeNano.Flight.SchedulerRuns
import CubeNano.Flight.SessionFrames
import CubeNano.Flight.StockRouter
import CubeNano.Flight.TmAllocations
import CubeNano.Flight.TmCounters
import CubeNano.Flight.WorkerResults
import CubeNano.Gds.Admission
import CubeNano.Gds.AttemptLimit
import CubeNano.Gds.Binding
import CubeNano.Gds.BindingHistory
import CubeNano.Gds.BindingThreads
import CubeNano.Gds.CatalogBundle
import CubeNano.Gds.CatalogPages
import CubeNano.Gds.CatalogReplica
import CubeNano.Gds.ContactChanges
import CubeNano.Gds.ContactEpisode
import CubeNano.Gds.ContactFrame
import CubeNano.Gds.DecodeErrors
import CubeNano.Gds.DispatchRefinement
import CubeNano.Gds.FileCoverage
import CubeNano.Gds.FileEpochs
import CubeNano.Gds.FileReassembly
import CubeNano.Gds.FileRestart
import CubeNano.Gds.HeldCommands
import CubeNano.Gds.IdempotencyKeys
import CubeNano.Gds.KeyRegistry
import CubeNano.Gds.LeaseFence
import CubeNano.Gds.Ledger
import CubeNano.Gds.LedgerAdmissions
import CubeNano.Gds.LedgerEntries
import CubeNano.Gds.LedgerMachine
import CubeNano.Gds.LedgerPairing
import CubeNano.Gds.LedgerRefinement
import CubeNano.Gds.ManifestReading
import CubeNano.Gds.ManifestRoundTrip
import CubeNano.Gds.Outbox
import CubeNano.Gds.ProductManifest
import CubeNano.Gds.RawSegmentRuns
import CubeNano.Gds.RawSegments
import CubeNano.Gds.Realtime
import CubeNano.Gds.RealtimeDelivery
import CubeNano.Gds.RepeatedPackets
import CubeNano.Gds.RequestKeys
import CubeNano.Gds.RequestLifecycle
import CubeNano.Gds.Retirement
import CubeNano.Gds.SendDeadline
import CubeNano.Gds.SendRollback
import CubeNano.Gds.SqliteWriter
import CubeNano.Gds.TelemetryRollups
import CubeNano.Gds.TerminalTimes
import CubeNano.Gds.Tm
import CubeNano.Gds.TmAcceptance
import CubeNano.Gds.TmDecoder
import CubeNano.Gds.TmReplay
import CubeNano.Gds.TmUnwrap
import CubeNano.Gds.TransferLedger
import CubeNano.Gds.TransferMerge
import CubeNano.Gds.UplinkIntegrity
import CubeNano.Gds.WriterRuns
import CubeNano.Lib.Chunks
import CubeNano.Lib.Effect
import CubeNano.Lib.Entries
import CubeNano.Lib.ExceptFold
import CubeNano.Lib.ExceptSpec
import CubeNano.Lib.GridTiling
import CubeNano.Lib.Intervals
import CubeNano.Lib.Keyset
import CubeNano.Lib.LogFollower
import CubeNano.Lib.Machine
import CubeNano.Lib.NamedBits
import CubeNano.Lib.OrderedLog
import CubeNano.Lib.Plane
import CubeNano.Lib.PositionSum
import CubeNano.Lib.PriorityQueue
import CubeNano.Lib.RankedMerge
import CubeNano.Lib.ReadWriteFence
import CubeNano.Lib.RecordLayout
import CubeNano.Lib.RunningSummary
import CubeNano.Lib.Serial
import CubeNano.Lib.SortByKey
import CubeNano.Lib.Table
import CubeNano.Lib.TableTotal
import CubeNano.Lib.WeightedSum
import CubeNano.Link.AdmissionFailure
import CubeNano.Link.Consumption
import CubeNano.Link.DeliveryOrder
import CubeNano.Link.FaultModel
import CubeNano.Link.FenceRelease
import CubeNano.Link.Footprint
import CubeNano.Link.LinkSimulator
import CubeNano.Link.LinkSteps
import CubeNano.Link.MissionLink
import CubeNano.Link.MissionLinkReset
import CubeNano.Link.MissionLinkRuns
import CubeNano.Link.ReplayAccounting
import CubeNano.Link.ReplayManager
import CubeNano.Link.SessionReset
import CubeNano.Link.SessionRuns
import CubeNano.Link.Sessions
import CubeNano.Link.Transmission
import CubeNano.Link.TransmitOutcome
import CubeNano.Link.Transport
import CubeNano.Link.UdpTransport
import CubeNano.Link.VirtualClock
import CubeNano.Preprocess.AxisKernels
import CubeNano.Preprocess.BorderSampling
import CubeNano.Preprocess.StripIndependence
import CubeNano.Preprocess.TransformPlan
import CubeNano.Preprocess.ValidityBuilder
import CubeNano.Preprocess.WarpBackend
import CubeNano.Preprocess.WarpMasks
import CubeNano.Protocol.Bytes
import CubeNano.Protocol.CanonicalJson
import CubeNano.Protocol.Cbor
import CubeNano.Protocol.CborOrder
import CubeNano.Protocol.CborRoundTrip
import CubeNano.Protocol.Ccsds
import CubeNano.Protocol.CfdpChecksum
import CubeNano.Protocol.Command
import CubeNano.Protocol.CommandRoundTrip
import CubeNano.Protocol.Exceptions
import CubeNano.Protocol.FileIntegrity
import CubeNano.Protocol.FilePacket
import CubeNano.Protocol.Jcs
import CubeNano.Protocol.Json
import CubeNano.Protocol.JsonEquality
import CubeNano.Protocol.JsonOrder
import CubeNano.Protocol.JsonReading
import CubeNano.Protocol.JsonSpec
import CubeNano.Protocol.Messages
import CubeNano.Protocol.ProductRef
import CubeNano.Protocol.PyNumbers
import CubeNano.Protocol.PyRepr
import CubeNano.Protocol.PyValue
import CubeNano.Protocol.Refusals
import CubeNano.Protocol.Sha256
import CubeNano.Protocol.StructFormat
import CubeNano.Protocol.TcFrame
import CubeNano.Protocol.TmProfile
import CubeNano.Protocol.Utf8
import CubeNano.Results.DecisionPolicy
import CubeNano.Results.DecisionSafety
import CubeNano.Results.InferenceAdapter
import CubeNano.Results.InferenceCoverage
import CubeNano.Results.PatchResultReading
import CubeNano.Results.PatchResults
import CubeNano.SatAi.Classification
import CubeNano.SatAi.Roi
import CubeNano.SatAi.Segmentation
import CubeNano.SatAi.ThresholdLut
import CubeNano.Web.MissionState
import CubeNano.Web.Realtime
import CubeNano.Web.Store
import CubeNano.Web.TileCache
import CubeNano.Web.TileCacheRuns
