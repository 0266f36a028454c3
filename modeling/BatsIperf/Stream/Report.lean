import BatsIperf.Common
import BatsIperf.Foundation.Fault

/-!
# The reports of a stream

A report counts what a stream has sent or received since it was created and keeps two intervals, the last snapshot of the counters and the increments of the last interval. The summary a test ends with is computed from these counters once.

The counters are 64-bit and wrap. `lost_datagrams` is signed, so the difference of two counters is converted before it is compared with zero.
-/

namespace BatsIperf

open Octets

structure TestInterval where
  startSeq : UInt64 := 0
  bytes : UInt64 := 0
  datagrams : UInt64 := 0
  lostDatagrams : Int := 0
  bitrate : ℚ := 0
  jitter : ℚ := 0
  loss : ℚ := 0
  deriving DecidableEq

structure TestReport where
  lastSnapshotTime : UInt64 := 0
  interval : ℚ := 1
  snapshotCnt : Int := 0
  summary : TestInterval := {}
  lastSnapshot : TestInterval := {}
  lastInterval : TestInterval := {}
  deriving DecidableEq

structure TestReportOfStream where
  streamId : Int := 0
  senderReport : TestReport := {}
  receiverReport : TestReport := {}
  deriving DecidableEq

/-- `std::llabs` of the difference of two clock values read as signed. -/
def escapedTime (current lastSnapshotTime : UInt64) : Nat :=
  (Narrowing.signed 64 current.toNat - Narrowing.signed 64 lastSnapshotTime.toNat).natAbs

namespace TestReport

/-- `interval` is the elapsed time in milliseconds; the rate is rounded to two decimals. -/
def snapshotRxTxReport (report : TestReport) (current : UInt64) (interval : Nat) : TestReport :=
  let bytes := report.summary.bytes - report.lastSnapshot.bytes
  let bitrate : ℚ := bytes.toNat / ((interval : ℚ) / 1000)
  { report with
    lastInterval := { report.lastInterval with
      bitrate := round (bitrate * 100) / 100
      bytes := bytes
      datagrams := report.summary.datagrams - report.lastSnapshot.datagrams
      startSeq := report.lastSnapshot.datagrams }
    lastSnapshot := { report.lastSnapshot with
      bytes := report.summary.bytes
      datagrams := report.summary.datagrams
      jitter := report.summary.jitter }
    lastSnapshotTime := current
    snapshotCnt := report.snapshotCnt + 1 }

/-- What a block of `length` bytes that was sent or received adds to the counters. -/
def count (report : TestReport) (length : Int) : TestReport :=
  { report with summary := { report.summary with
      bytes := report.summary.bytes + .ofNat (Narrowing.unsigned 64 length)
      datagrams := report.summary.datagrams + 1 } }

end TestReport

/-- The signed difference of the two counters, and zero where the receiver counted more than the sender reported. -/
def lostDatagrams (sent received : UInt64) : Int :=
  max 0 (Narrowing.signed 64 (sent - received).toNat)

namespace TestReportOfStream

def genSendSummary (report : TestReportOfStream) (config : TestConfig) : TestReportOfStream :=
  let summary := report.senderReport.summary
  { report with senderReport := { report.senderReport with summary := { summary with
      bitrate := summary.bytes.toNat / (report.senderReport.snapshotCnt * config.interval) } } }

/-- The datagrams of the sender report replace the number of received datagrams once the losses are computed. -/
def genReceiveSummary (report : TestReportOfStream) (config : TestConfig) : TestReportOfStream :=
  let summary := report.receiverReport.summary
  let sent := report.senderReport.summary.datagrams
  let lost := lostDatagrams sent summary.datagrams
  { report with receiverReport := { report.receiverReport with summary := { summary with
      bitrate := summary.bytes.toNat / (report.receiverReport.snapshotCnt * config.interval)
      lostDatagrams := lost
      datagrams := sent
      loss := lost / sent.toNat } } }

/-- `*reinterpret_cast<uint64_t*>(to_buffer) = bitrate * 100`. -/
def bitrateWord (bitrate : ℚ) : UInt64 := .ofNat (bitrate * 100).floor.toNat

def serialize (report : TestReportOfStream) : Octets :=
  let summary := report.senderReport.summary
  words [summary.bytes, summary.datagrams, bitrateWord summary.bitrate]

/-- The sender report with the counters of a received entry. -/
def setSender (report : TestReportOfStream) (bytes datagrams bitrate : UInt64) : TestReportOfStream :=
  { report with senderReport := { report.senderReport with summary := { report.senderReport.summary with
    bytes := bytes, datagrams := datagrams, bitrate := bitrate.toNat / 100 } } }

/-- The cursor stands behind the identifier of the entry and moves over the rest of it. -/
def deserialize (report : TestReportOfStream) (cursor : Octets) : Option (TestReportOfStream × Octets) := do
  let (bytes, cursor) ← nextWord cursor
  let (datagrams, cursor) ← nextWord cursor
  let (bitrate, cursor) ← nextWord cursor
  return (report.setSender bytes datagrams bitrate, cursor)

theorem deserialize_words (report : TestReportOfStream) (bytes datagrams bitrate : UInt64) (ws : List UInt64)
    (rest : Octets) : report.deserialize (words (bytes :: datagrams :: bitrate :: ws) ++ rest)
      = some (report.setSender bytes datagrams bitrate, words ws ++ rest) := by
  simp only [deserialize, nextWord_words_cons, Option.bind_eq_bind, Option.bind_some]
  rfl

/-- A summary that is read changes the figures of the sender and nothing else. -/
theorem deserialize_eq {report next : TestReportOfStream} {cursor rest : Octets}
    (h : report.deserialize cursor = some (next, rest)) :
    ∃ bytes datagrams bitrate, next = report.setSender bytes datagrams bitrate := by
  obtain ⟨⟨bytes, _⟩, _, h⟩ := Option.bind_eq_some_iff.mp h
  obtain ⟨⟨datagrams, _⟩, _, h⟩ := Option.bind_eq_some_iff.mp h
  obtain ⟨⟨bitrate, _⟩, _, h⟩ := Option.bind_eq_some_iff.mp h
  obtain ⟨rfl, _⟩ := Prod.mk.inj (Option.some.inj h)
  exact ⟨bytes, datagrams, bitrate, rfl⟩

end TestReportOfStream

end BatsIperf
