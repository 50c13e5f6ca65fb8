import GlRs485.Foundation.TracedSystem
import GlRs485.Foundation.LinkedChain
import GlRs485.Foundation.CrcDetection
import GlRs485.Foundation.Overlay
import GlRs485.Foundation.WordTally
import GlRs485.Crc16
import GlRs485.HexDecoder
import GlRs485.SpacedHex
import GlRs485.WriteFrames
import GlRs485.FrameCheck
import GlRs485.RequestTurns
import GlRs485.SocketTransparency
import GlRs485.HexRequests
import GlRs485.ReplyIsolation
import GlRs485.WholeReplies
import GlRs485.SerialOwnership
import GlRs485.LineSharing
import GlRs485.DescriptorUse
import GlRs485.ConnectionExpiry
import GlRs485.ConnectionTimers
import GlRs485.TimeoutPrecision
import GlRs485.MqttReconnect
import GlRs485.MqttTransparency
import GlRs485.StoredSettings
import GlRs485.OwnSettings
import GlRs485.StepOutcomes
import GlRs485.ClientSockets
import GlRs485.ConnectionLimits
import GlRs485.SocketLeaks
import GlRs485.LostConnections
import GlRs485.FreedConnections
import GlRs485.UdpBridge
import GlRs485.UdpPeers
import GlRs485.ElapsedTime
import GlRs485.Segmentation
import GlRs485.TransmissionType
import GlRs485.Foundation.SkippingWalk
import GlRs485.ServingPasses
import GlRs485.RunningStatus
import GlRs485.Foundation.Footprint
import GlRs485.LineTransfers
import GlRs485.BufferBounds
import GlRs485.FrameVerdicts
import GlRs485.MqttRetries
import GlRs485.LeadingNumbers
import GlRs485.LoadedTexts
import GlRs485.CommandHistories
import GlRs485.NumericOptions
import GlRs485.FirmwareTransfer
import GlRs485.SerialMode
import GlRs485.LogFile
import GlRs485.LogRotation
import GlRs485.LogBounds
import GlRs485.DisabledLogging
import GlRs485.BlankRemoval
import GlRs485.HexReaders
import GlRs485.ReceiveCounts
import GlRs485.ReplyContents
import GlRs485.PortLoss
import GlRs485.Foundation.FlipDistance
import GlRs485.FlippedBits
import GlRs485.EchoedFrames
import GlRs485.LineMonopoly
import GlRs485.Foundation.Transactions
import GlRs485.SequentialServer
import GlRs485.ServedRequests
import GlRs485.ServedMessages
import GlRs485.Foundation.BorrowedSetting
import GlRs485.LineSettings
import GlRs485.Foundation.KeyedWrites
import GlRs485.SettingsApi
import GlRs485.RequestedSettings
import GlRs485.ServerStart
import GlRs485.ServerSocket
import GlRs485.MainProgram
import GlRs485.WholeLine
import GlRs485.TransferProgress
import GlRs485.Foundation.FinalSteps
import GlRs485.DaemonEnd
import GlRs485.MqttEnd
import GlRs485.PunctualExpiry
import GlRs485.Foundation.OpenStreams
import GlRs485.SharedLog
