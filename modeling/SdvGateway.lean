import SdvGateway.CanLayer.DecodeCompleteness
import SdvGateway.CanLayer.DefinedDecoding
import SdvGateway.CanLayer.ExactLoading
import SdvGateway.CanLayer.FrameIdentity
import SdvGateway.CanLayer.MotorolaSignals
import SdvGateway.Cloud.AnomalyLoop
import SdvGateway.Cloud.Dashboard
import SdvGateway.Cloud.HumanGate
import SdvGateway.Cloud.RecordOwnership
import SdvGateway.Cloud.Topics
import SdvGateway.Common.TimestampOrder
import SdvGateway.Gateway.AcknowledgedRows
import SdvGateway.Gateway.AnomalyAlerts
import SdvGateway.Gateway.Downlink
import SdvGateway.Gateway.Fanout
import SdvGateway.Gateway.FreshCommands
import SdvGateway.Gateway.MalformedMessages
import SdvGateway.Gateway.OfflineCapacity
import SdvGateway.Gateway.OfflineQueue
import SdvGateway.Gateway.OtaShutdown
import SdvGateway.Gateway.OtaSurvival
import SdvGateway.Gateway.PayloadTexts
import SdvGateway.Gateway.Redelivery
import SdvGateway.Gateway.RepeatedExecution
import SdvGateway.Gateway.SpeedInterlock
import SdvGateway.Gateway.Startup
import SdvGateway.Gateway.TornSnapshots
import SdvGateway.Gateway.Uplink
import SdvGateway.Gateway.WholeFile
import SdvGateway.Common.SafeQueue
import SdvGateway.Gateway.Actuation
import SdvGateway.Gateway.OtaProtocol
import SdvGateway.Cloud.Records
import SdvGateway.Cloud.DashboardApi
import SdvGateway.Gateway.Lifecycle
import SdvGateway.Cloud.Infrastructure
import SdvGateway.Cloud.Provisioning
import SdvGateway.Tools.CanInjector
