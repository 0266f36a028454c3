import BatsIperf.Foundation.Machine
import BatsIperf.Foundation.Octets
import BatsIperf.Foundation.Narrowing
import BatsIperf.Foundation.Registry
import BatsIperf.Common
import BatsIperf.Foundation.Fault
import BatsIperf.Foundation.Traced
import BatsIperf.Foundation.BinaryFormat
import BatsIperf.Stream.Report
import BatsIperf.Foundation.Marking
import BatsIperf.Foundation.SeqTools
import BatsIperf.Foundation.Loop
import BatsIperf.Foundation.FlowControl
import BatsIperf.Stream.FinSummary
import BatsIperf.Stream.TestData
import BatsIperf.Stream.LiveStream
import BatsIperf.Stream.SendingLoop
import BatsIperf.Stream.Handling
import BatsIperf.Stream.IntervalDetection
import BatsIperf.Stream.IntervalCalls
import BatsIperf.Stream.SenderPackets
import BatsIperf.Stream.ReceiverReport
import BatsIperf.Stream.ReceiveSummary
import BatsIperf.Stream.MarkingSender
import BatsIperf.Stream.SenderIntervals
import BatsIperf.Stream.SendCount
import BatsIperf.Stream.Pointers
import BatsIperf.Stream.NullCalls
import BatsIperf.Stream.DataBuffer
import BatsIperf.Stream.ReadLengths
import BatsIperf.Stream.ConnectRetry
import BatsIperf.Stream.SeqReset
import BatsIperf.Stream.FinLoop
import BatsIperf.Stream.FlowControl
import BatsIperf.Stream.Divisions
import BatsIperf.Stream.DivisionSafety
import BatsIperf.Test.IperfTest
import BatsIperf.Test.Summary
import BatsIperf.Test.SummaryDelivery
import BatsIperf.Test.Session
import BatsIperf.Test.Acks
import BatsIperf.Test.SummaryAck
import BatsIperf.Test.Ready
import BatsIperf.Test.StateOrder
import BatsIperf.Test.SummaryBuffer
import BatsIperf.Test.StreamReady
import BatsIperf.Test.Ticks
import BatsIperf.Test.SnapshotTicks
import BatsIperf.FileTransfer.Block
import BatsIperf.FileTransfer.Compressor
import BatsIperf.FileTransfer.IperfFileTransfer
import BatsIperf.Api
import BatsIperf.Negotiation
import BatsIperf.FileTransfer.BlockData
import BatsIperf.FileTransfer.SendBuffer
import BatsIperf.FileTransfer.FileLength
import BatsIperf.FileTransfer.Completion
import BatsIperf.FileTransfer.Announcement
import BatsIperf.FileTransfer.FileSession
import BatsIperf.FileTransfer.AllAcked
import BatsIperf.FileTransfer.ClosedStreams
import BatsIperf.FileTransfer.FinFlag
import BatsIperf.FileTransfer.BlockSizes
import BatsIperf.FileTransfer.DataChannels
import BatsIperf.FileTransfer.UserPointers
import BatsIperf.FileTransfer.FlowControl
import BatsIperf.FileTransfer.Space
import BatsIperf.Foundation.Assembly
import BatsIperf.FileTransfer.Reassembly
import BatsIperf.FileTransfer.Sending
import BatsIperf.FileTransfer.QuietRun
import BatsIperf.FileTransfer.Names
import BatsIperf.FileTransfer.Delivery
import BatsIperf.FileTransfer.FileNames
import BatsIperf.FileTransfer.WriterSafety
import BatsIperf.FileTransfer.WriteBytes
import BatsIperf.Server.IperfBatsApi
import BatsIperf.Server.Dispatch
import BatsIperf.Server.Clients
import BatsIperf.Server.ControlLengths
import BatsIperf.Server.Arguments
import BatsIperf.Server.ArgumentGrammar
import BatsIperf.Stream.Handover
import BatsIperf.Stream.StreamPair
import BatsIperf.Stream.BlockReception
import BatsIperf.Stream.PairDelivery
import BatsIperf.Stream.ReceiverExit
import BatsIperf.Stream.PairIntervals
import BatsIperf.Stream.ThreadEnd
import BatsIperf.Foundation.Smoothing
import BatsIperf.Stream.Jitter
import BatsIperf.Stream.ClockOffset
import BatsIperf.Test.ClientLoop
import BatsIperf.Foundation.Sweep
import BatsIperf.Server.IntervalLoop
import BatsIperf.FileTransfer.StopJoins
import BatsIperf.FileTransfer.SenderDone
import BatsIperf.FileTransfer.DoneStays
import BatsIperf.FileTransfer.Interruption
import BatsIperf.FileTransfer.FailedWrites
import BatsIperf.FileTransfer.Beginnings
import BatsIperf.FileTransfer.FileClientLoop
import BatsIperf.Test.MessageHandling
import BatsIperf.Simple.BATSSender
