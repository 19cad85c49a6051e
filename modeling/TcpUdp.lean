import TcpUdp.Lib.SortedMap
import TcpUdp.Lib.LittleEndian
import TcpUdp.Lib.Framing
import TcpUdp.Lib.FrameGrammar
import TcpUdp.Lib.Run
import TcpUdp.Lib.StreamWriter
import TcpUdp.Lib.Custody
import TcpUdp.VcProtocol
import TcpUdp.IoThread
import TcpUdp.PacketStream
import TcpUdp.Queues
import TcpUdp.SentState
import TcpUdp.ConnectionOrder
import TcpUdp.SendThread
import TcpUdp.SendThreadTheorems
import TcpUdp.Reorder
import TcpUdp.ReorderTheorems
import TcpUdp.ReorderConservation
import TcpUdp.GapTimer
import TcpUdp.MissingNotify
import TcpUdp.Wakeup
import TcpUdp.WakeupTheorems
import TcpUdp.Descriptors
import TcpUdp.DescriptorsTheorems
import TcpUdp.DeadSlots
import TcpUdp.IoLoop
import TcpUdp.IoLoopTheorems
import TcpUdp.Lifecycle
import TcpUdp.LifecycleTheorems
import TcpUdp.Outage
import TcpUdp.ServerTables
import TcpUdp.SlotPairing
import TcpUdp.SlotPairingTheorems
import TcpUdp.Sessions
import TcpUdp.SessionLedger
import TcpUdp.SessionsTheorems
import TcpUdp.Server
import TcpUdp.Shutdown
import TcpUdp.ServerTheorems
import TcpUdp.LeftThreads
import TcpUdp.Incarnations
import TcpUdp.ReorderJoinTheorems
import TcpUdp.QueueDepthTheorems
import TcpUdp.SendWakerTheorems
import TcpUdp.SpscRingTheorems
import TcpUdp.RuntimeInfoTheorems
import TcpUdp.Attribution
import TcpUdp.MissingList
import TcpUdp.WellFormed
import TcpUdp.ClosingCall
import TcpUdp.MalformedInput
import TcpUdp.OneClose
import TcpUdp.Client
import TcpUdp.ClientTheorems
import TcpUdp.ClientTeardown
import TcpUdp.Channel
import TcpUdp.ChannelTheorems
import TcpUdp.ChannelSending
import TcpUdp.ChannelReceiving
import TcpUdp.EndToEnd
import TcpUdp.Lib.Rotation
import TcpUdp.BestFirst
import TcpUdp.AttemptLoop
import TcpUdp.TieRotation
import TcpUdp.Scoring
import TcpUdp.PendingResends
import TcpUdp.ResendCall
import TcpUdp.ResendBudget
import TcpUdp.StaleChannel
import TcpUdp.AtomicAccept
import TcpUdp.CloseOutcome
import TcpUdp.StartWatchdog
import TcpUdp.SentWindow
import TcpUdp.ByteQueue
import TcpUdp.ParserSafety
import TcpUdp.ReadThread
import TcpUdp.ParsersAgree
import TcpUdp.Uvt
import TcpUdp.ConnectionManager
import TcpUdp.NetworkScore
import TcpUdp.NetworkScoreTheorems
import TcpUdp.DeadCount
import TcpUdp.SnapshotRefreshTheorems
import TcpUdp.NotifiedIds
import TcpUdp.SharedStatusTheorems
import TcpUdp.SendCallsTheorems
import TcpUdp.DequeueWaitTheorems
import TcpUdp.TunnelTheorems
import TcpUdp.GaplessDelivery
import TcpUdp.BoundedWait
import TcpUdp.Lib.LeadsTo
import TcpUdp.SendProgress
import TcpUdp.HealthyConnection
import TcpUdp.ResendLedger
import TcpUdp.HealthyResend
import TcpUdp.Backpressure
import TcpUdp.ReceiveLedger
import TcpUdp.PayloadCustody
import TcpUdp.ReceiverProgress
import TcpUdp.EventualDelivery
