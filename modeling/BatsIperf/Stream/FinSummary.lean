import BatsIperf.Stream.IperfStream

/-!
# The receiver summary and the order of FIN and summary message

The FIN block arrives on the data channel and the summary message on the control channel, so a receiver meets them in either order. Both touch the sender report that a receiver keeps: the FIN-ACK is counted in it, and the summary message overwrites it. The receiver summary is computed when the FIN is handled, from the sender report as it is then, so the order matters as soon as the message changes the number of datagrams in it.
-/

namespace BatsIperf

open Octets

structure ReceiverSummary where
  bytes : UInt64
  datagrams : UInt64
  lostDatagrams : Int
  deriving DecidableEq

namespace TestReportOfStream

def receiverSummary (report : TestReportOfStream) : ReceiverSummary where
  bytes := report.receiverReport.summary.bytes
  datagrams := report.receiverReport.summary.datagrams
  lostDatagrams := report.receiverReport.summary.lostDatagrams

/-- The figures a receiver ends with if the sender report counts `sent` datagrams when it computes them. -/
def summaryFrom (report : TestReportOfStream) (sent : UInt64) : ReceiverSummary where
  bytes := report.receiverReport.summary.bytes
  datagrams := sent
  lostDatagrams := lostDatagrams sent report.receiverReport.summary.datagrams

theorem genReceiveSummary_receiverSummary (report : TestReportOfStream) (config : TestConfig) :
    (report.genReceiveSummary config).receiverSummary
      = report.summaryFrom report.senderReport.summary.datagrams := rfl

theorem summaryFrom_inj (report : TestReportOfStream) (first second : UInt64) :
    report.summaryFrom first = report.summaryFrom second ↔ first = second :=
  ⟨fun h => congrArg ReceiverSummary.datagrams h, fun h => h ▸ rfl⟩

/-- What the entry of a sender report leaves in the report that reads it. -/
def withSender (report sent : TestReportOfStream) : TestReportOfStream :=
  let summary := sent.senderReport.summary
  report.setSender summary.bytes summary.datagrams (bitrateWord summary.bitrate)

theorem deserialize_serialize (report sent : TestReportOfStream) (rest : Octets) :
    report.deserialize (sent.serialize ++ rest) = some (report.withSender sent, rest) :=
  report.deserialize_words _ _ _ [] rest

end TestReportOfStream

namespace IperfStream

theorem deserializeReport_serialize (stream : IperfStream) (sent : TestReportOfStream) (rest : Octets) :
    stream.deserializeReport (sent.serialize ++ rest)
      = some ({ stream with report := stream.report.withSender sent, isSumReceived := true }, rest) := by
  simp only [deserializeReport, TestReportOfStream.deserialize_serialize, Option.bind_eq_bind, Option.bind_some]
  rfl

variable {stream : IperfStream}

/-- Forcing the last snapshot leaves the summary alone, so the figures come from the counters alone. -/
theorem finishReport_receiverSummary (hrole : stream.config.role = .roleReceiver) (now : UInt64) :
    (stream.finishReport now).report.receiverSummary
      = stream.report.summaryFrom stream.report.senderReport.summary.datagrams := by
  simp only [finishReport, hrole, TestReportOfStream.genReceiveSummary_receiverSummary]
  split <;> rfl

/-- The datagrams in the sender report once the FIN-ACK is counted. -/
def datagramsAfterFin (sent : UInt64) (acked : Bool) : UInt64 := if acked then sent + 1 else sent

theorem datagramsAfterFin_inj (first second : UInt64) (acked : Bool) :
    datagramsAfterFin first acked = datagramsAfterFin second acked ↔ first = second := by
  cases acked with
  | false => rfl
  | true => exact UInt64.add_left_inj 1

theorem onReceivedFIN_receiverSummary (hrole : stream.config.role = .roleReceiver) (hconn : stream.dataConn)
    {sendOk acked : Bool} {views : List RetryView} (hleft : finAckSent sendOk views = some acked) (now : UInt64) :
    ∃ done, stream.onReceivedFIN sendOk views now = .ok done ∧ done.report.receiverSummary
      = stream.report.summaryFrom (datagramsAfterFin stream.report.senderReport.summary.datagrams acked) := by
  refine ⟨_, by simp only [onReceivedFIN, Fault.require_of_true hconn, finAckSent_eq_some.mp hleft, Fault.ok_bind]; rfl, ?_⟩
  have hcounted : (stream.countFinAck acked).config.role = .roleReceiver := by cases acked <;> exact hrole
  have hsummary := finishReport_receiverSummary hcounted now
  cases acked <;> exact hsummary

/-- The FIN is handled before the summary message. -/
def finThenReport (stream : IperfStream) (sendOk : Bool) (views : List RetryView) (now : UInt64) (cursor : Octets) :
    Except Fault IperfStream := do
  let stream ← stream.onReceivedFIN sendOk views now
  let (stream, _) ← Fault.need .outOfBounds (stream.deserializeReport cursor)
  return stream

/-- The summary message is handled before the FIN. -/
def reportThenFin (stream : IperfStream) (sendOk : Bool) (views : List RetryView) (now : UInt64) (cursor : Octets) :
    Except Fault IperfStream := do
  let (stream, _) ← Fault.need .outOfBounds (stream.deserializeReport cursor)
  stream.onReceivedFIN sendOk views now

theorem finThenReport_receiverSummary (hrole : stream.config.role = .roleReceiver) (hconn : stream.dataConn)
    {sendOk acked : Bool} {views : List RetryView} (hleft : finAckSent sendOk views = some acked) (now : UInt64)
    (sent : TestReportOfStream) (rest : Octets) :
    ∃ done, stream.finThenReport sendOk views now (sent.serialize ++ rest) = .ok done
      ∧ done.report.receiverSummary
        = stream.report.summaryFrom (datagramsAfterFin stream.report.senderReport.summary.datagrams acked) := by
  obtain ⟨fin, hfin, hsummary⟩ := onReceivedFIN_receiverSummary hrole hconn hleft now
  refine ⟨_, by simp only [finThenReport, hfin, Fault.ok_bind, deserializeReport_serialize, Fault.need_some]; rfl, ?_⟩
  exact hsummary

theorem reportThenFin_receiverSummary (hrole : stream.config.role = .roleReceiver) (hconn : stream.dataConn)
    {sendOk acked : Bool} {views : List RetryView} (hleft : finAckSent sendOk views = some acked) (now : UInt64)
    (sent : TestReportOfStream) (rest : Octets) :
    ∃ done, stream.reportThenFin sendOk views now (sent.serialize ++ rest) = .ok done
      ∧ done.report.receiverSummary
        = stream.report.summaryFrom (datagramsAfterFin sent.senderReport.summary.datagrams acked) := by
  let told : IperfStream := { stream with report := stream.report.withSender sent, isSumReceived := true }
  have htold : told.config.role = .roleReceiver := hrole
  obtain ⟨done, hdone, hsummary⟩ := onReceivedFIN_receiverSummary htold hconn hleft now
  refine ⟨done, ?_, hsummary⟩
  simp only [reportThenFin, deserializeReport_serialize, Fault.need_some, Fault.ok_bind]
  exact hdone

/-- The two orders end in the same figures exactly when the message does not change the number of datagrams in the receiver's copy of the sender report. -/
theorem receiverSummary_order_iff (hrole : stream.config.role = .roleReceiver) (hconn : stream.dataConn)
    {sendOk : Bool} {views : List RetryView} (hleft : (finAckSent sendOk views).isSome) (now now' : UInt64)
    (sent : TestReportOfStream) (rest : Octets) :
    ∃ finFirst finLast, stream.finThenReport sendOk views now (sent.serialize ++ rest) = .ok finFirst
      ∧ stream.reportThenFin sendOk views now' (sent.serialize ++ rest) = .ok finLast
      ∧ (finFirst.report.receiverSummary = finLast.report.receiverSummary
        ↔ stream.report.senderReport.summary.datagrams = sent.senderReport.summary.datagrams) := by
  obtain ⟨acked, hleft⟩ := Option.isSome_iff_exists.mp hleft
  obtain ⟨finFirst, hfirst, hfirstSummary⟩ := finThenReport_receiverSummary hrole hconn hleft now sent rest
  obtain ⟨finLast, hlast, hlastSummary⟩ := reportThenFin_receiverSummary hrole hconn hleft now' sent rest
  refine ⟨finFirst, finLast, hfirst, hlast, ?_⟩
  rw [hfirstSummary, hlastSummary, TestReportOfStream.summaryFrom_inj, datagramsAfterFin_inj]

/-- An accepted BRTP stream that has received six blocks of 1000 bytes. -/
def sixReceived : IperfStream where
  config := { protocol := 1, role := .roleReceiver }
  connState := .connConnected
  report := { receiverReport := { summary := { bytes := 6000, datagrams := 6 } } }
  dataConn := true
  idealLength := 1000

def sevenSent : TestReportOfStream where
  senderReport := { summary := { bytes := 7000, datagrams := 7 } }

theorem receiverSummary_order_iff_sixReceived :
    sixReceived.config.role = .roleReceiver ∧ sixReceived.dataConn ∧ (finAckSent true []).isSome ∧
      ∃ finFirst finLast, sixReceived.finThenReport true [] 0 (sevenSent.serialize ++ []) = .ok finFirst
        ∧ sixReceived.reportThenFin true [] 0 (sevenSent.serialize ++ []) = .ok finLast
        ∧ (finFirst.report.receiverSummary = finLast.report.receiverSummary
          ↔ sixReceived.report.senderReport.summary.datagrams = sevenSent.senderReport.summary.datagrams) :=
  ⟨rfl, rfl, rfl, receiverSummary_order_iff rfl rfl rfl 0 0 sevenSent []⟩

/-- With the FIN first the receiver ends with one datagram, the FIN-ACK it sent itself; with the message first it ends with eight. -/
theorem receiverSummary_order_counterexample :
    ∃ finFirst finLast, sixReceived.finThenReport true [] 0 (sevenSent.serialize ++ []) = .ok finFirst
      ∧ sixReceived.reportThenFin true [] 0 (sevenSent.serialize ++ []) = .ok finLast
      ∧ isReliableProtocol sixReceived.config.protocol
      ∧ finFirst.report.receiverSummary = { bytes := 6000, datagrams := 1, lostDatagrams := 0 }
      ∧ finLast.report.receiverSummary = { bytes := 6000, datagrams := 8, lostDatagrams := 2 }
      ∧ finFirst.report.receiverSummary ≠ finLast.report.receiverSummary := by
  have hrole : sixReceived.config.role = .roleReceiver := rfl
  have hleft : finAckSent true [] = some true := rfl
  obtain ⟨finFirst, hfirst, hfirstSummary⟩ :=
    finThenReport_receiverSummary hrole rfl hleft 0 sevenSent []
  obtain ⟨finLast, hlast, hlastSummary⟩ :=
    reportThenFin_receiverSummary hrole rfl hleft 0 sevenSent []
  refine ⟨finFirst, finLast, hfirst, hlast, by decide, ?_, ?_, ?_⟩
  · rw [hfirstSummary]
    decide
  · rw [hlastSummary]
    decide
  · rw [hfirstSummary, hlastSummary]
    decide

end IperfStream

end BatsIperf
