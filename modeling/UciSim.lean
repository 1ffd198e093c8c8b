import UciSim.EventOwnership
import UciSim.TransferEvents
import UciSim.MeasurementTimes
import UciSim.HostView
import UciSim.ValidatorsAgree
import UciSim.DeferredRejection
import UciSim.RangeDataSlots
import UciSim.Repetitions
import UciSim.Deliveries
import UciSim.PacketCodec
import UciSim.Reassembly
import UciSim.TableRoom
import UciSim.SessionIsolation
import UciSim.ConfigRoundTrip
import UciSim.RangingNumbers
import UciSim.DeferredOrder
import UciSim.MemoryBounds
import UciSim.DataRefusals
import UciSim.FailedSets
import UciSim.GetReplies
import UciSim.RuledParameters
import UciSim.Segmentation
import UciSim.Listings
import UciSim.CoreConfigs
import UciSim.Multicast
import UciSim.LinkHistories
import UciSim.TransferFrames
import UciSim.TransferSteps
import UciSim.TransferRuns
import UciSim.TransferScripts
import UciSim.EventScheduler
import UciSim.General.Formats
import UciSim.Calibrations
import UciSim.General.Patches
import UciSim.RangeDataFields
import UciSim.RangeDataLimits
import UciSim.Measurements
import UciSim.MeasurementReports
import UciSim.MeasurementLogs
import UciSim.MeasurementMoves
import UciSim.MeasurementRuns
import UciSim.SampledDistances
import UciSim.StreamGating
import UciSim.MeasurementBudgets
import UciSim.TcpConversation
import UciSim.TcpClock
import UciSim.ChardevConversation
import UciSim.HostAnswers
import UciSim.Unqueued
import UciSim.Queries
import UciSim.Deferral
import UciSim.Retries
import UciSim.CoreAnswers
import UciSim.StreamRuns
import UciSim.TcpPacing
import UciSim.TransportAgreement
import UciSim.ClientView
