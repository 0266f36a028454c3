import BatsIperf.Stream.NullCalls

/-!
# The data buffer of a stream

`iperf_data_` byte by byte. It is filled once and then written in place, by the constructor, by the sending thread, for the FIN and for the FIN-ACK, and each `SendData` passes a first part of it. No write leaves the first 72 bytes, so the buffer is at any time the image of the header and the interval that the stream keeps, with `iperf_char` behind them.
-/

namespace BatsIperf

open Octets

/-! ### Writes -/

/-- A 64-bit field of the header or of the interval. -/
def putWord (buffer : Octets) (offset : Nat) (word : UInt64) : Octets := putAt buffer offset (leBytes 8 word.toNat)

def setBit (octet : UInt8) (bit : Nat) (value : Bool) : UInt8 :=
  if value then octet ||| 1 <<< UInt8.ofNat bit else octet &&& ~~~(1 <<< UInt8.ofNat bit)

/-- A bit field of the header, which is read and written with its octet. -/
def putFlag (buffer : Octets) (bit : Nat) (value : Bool) : Octets :=
  putAt buffer 32 [setBit (buffer.getD 32 0) bit value]

/-- `SerializeInterval` at a place in the buffer. -/
def putInterval (buffer : Octets) (offset : Nat) (interval : TestInterval) : Octets :=
  putWord (putWord (putWord (putWord buffer offset interval.bytes) (offset + 8) interval.datagrams)
    (offset + 16) interval.startSeq) (offset + 24) (TestReportOfStream.bitrateWord interval.bitrate)

namespace IperfData

def image (data : IperfData) (size : Nat) : Octets :=
  data.header.encode ++ (data.interval.bytes ++ List.replicate (size - 72) iperfChar)

theorem take_image (data : IperfData) {length size : Nat} (hlow : 72 ≤ length) (hhigh : length ≤ size) :
    (data.image size).take length = data.packet length := by
  have hfilling : (List.replicate (size - 72) iperfChar).take (length - 72) = List.replicate (length - 72) iperfChar := by
    rw [List.take_replicate, min_eq_left (by omega)]
  rw [packet_eq hlow, image, ← List.append_assoc, ← List.append_assoc, List.take_append, hfilling.symm]
  have hfront : (data.header.encode ++ data.interval.bytes).length = 72 := by
    rw [List.length_append, data.header.length_encode, data.interval.length_bytes]
    rfl
  rw [hfront, List.take_of_length_le (by omega)]

theorem image_words (data : IperfData) (size : Nat) : data.image size =
    words [data.header.magic, data.header.streamIdentifier, data.header.seq, data.header.time] ++
      ([data.header.flags] ++ (List.replicate 7 iperfChar ++
        (data.interval.bytes ++ List.replicate (size - 72) iperfChar))) := by
  simp [image, IperfTestHeader.encode]

section

variable (data : IperfData) (size : Nat)

theorem putWord_magic (word : UInt64) :
    putWord (data.image size) 0 word = image { data with header := { data.header with magic := word } } size := by
  rw [image_words, image_words]
  exact putAt_words [_, _, _, _] _ (show 0 < 4 by decide) word

theorem putWord_streamIdentifier (word : UInt64) :
    putWord (data.image size) 8 word = image { data with header := { data.header with streamIdentifier := word } } size := by
  rw [image_words, image_words]
  exact putAt_words [_, _, _, _] _ (show 1 < 4 by decide) word

theorem putWord_seq (word : UInt64) :
    putWord (data.image size) 16 word = image { data with header := { data.header with seq := word } } size := by
  rw [image_words, image_words]
  exact putAt_words [_, _, _, _] _ (show 2 < 4 by decide) word

theorem putWord_time (word : UInt64) :
    putWord (data.image size) 24 word = image { data with header := { data.header with time := word } } size := by
  rw [image_words, image_words]
  exact putAt_words [_, _, _, _] _ (show 3 < 4 by decide) word

theorem putAt_flags (octet : UInt8) : putAt (data.image size) 32 [octet] =
    words [data.header.magic, data.header.streamIdentifier, data.header.seq, data.header.time] ++
      ([octet] ++ (List.replicate 7 iperfChar ++ (data.interval.bytes ++ List.replicate (size - 72) iperfChar))) := by
  rw [image_words]
  exact putAt_append (by simp) rfl

theorem getD_flags : (data.image size).getD 32 0 = data.header.flags := by
  rw [image_words, List.getD_eq_getElem?_getD, List.getElem?_append_right (by simp)]
  simp

theorem setBit_flags : ∀ (header : IperfTestHeader) (value : Bool),
    setBit header.flags 0 value = IperfTestHeader.flags { header with grpId := value } ∧
      setBit header.flags 1 value = IperfTestHeader.flags { header with last := value } ∧
      setBit header.flags 2 value = IperfTestHeader.flags { header with ack := value } ∧
      setBit header.flags 3 value = IperfTestHeader.flags { header with hasInterval := value } := by
  have hall : ∀ (grpId last ack hasInterval value : Bool) (reserved : BitVec 4),
      setBit (IperfTestHeader.mk 0 0 0 0 grpId last ack hasInterval reserved).flags 0 value
          = (IperfTestHeader.mk 0 0 0 0 value last ack hasInterval reserved).flags ∧
        setBit (IperfTestHeader.mk 0 0 0 0 grpId last ack hasInterval reserved).flags 1 value
          = (IperfTestHeader.mk 0 0 0 0 grpId value ack hasInterval reserved).flags ∧
        setBit (IperfTestHeader.mk 0 0 0 0 grpId last ack hasInterval reserved).flags 2 value
          = (IperfTestHeader.mk 0 0 0 0 grpId last value hasInterval reserved).flags ∧
        setBit (IperfTestHeader.mk 0 0 0 0 grpId last ack hasInterval reserved).flags 3 value
          = (IperfTestHeader.mk 0 0 0 0 grpId last ack value reserved).flags := by
    decide +kernel
  rintro ⟨magic, streamIdentifier, seq, time, grpId, last, ack, hasInterval, reserved⟩ value
  exact hall grpId last ack hasInterval value reserved

theorem putFlag_grpId (value : Bool) :
    putFlag (data.image size) 0 value = image { data with header := { data.header with grpId := value } } size := by
  rw [putFlag, getD_flags, (setBit_flags data.header value).1, putAt_flags, image_words]

theorem putFlag_last (value : Bool) :
    putFlag (data.image size) 1 value = image { data with header := { data.header with last := value } } size := by
  rw [putFlag, getD_flags, (setBit_flags data.header value).2.1, putAt_flags, image_words]

theorem putFlag_ack (value : Bool) :
    putFlag (data.image size) 2 value = image { data with header := { data.header with ack := value } } size := by
  rw [putFlag, getD_flags, (setBit_flags data.header value).2.2.1, putAt_flags, image_words]

theorem putFlag_hasInterval (value : Bool) :
    putFlag (data.image size) 3 value = image { data with header := { data.header with hasInterval := value } } size := by
  rw [putFlag, getD_flags, (setBit_flags data.header value).2.2.2, putAt_flags, image_words]

theorem putInterval_image (interval : TestInterval) :
    putInterval (data.image size) 40 interval = (data.setInterval interval).image size := by
  have hinside : 40 ≤ (data.image size).length := by
    rw [image, List.length_append, data.header.length_encode]
    exact Nat.le_add_right _ _
  have hone : putInterval (data.image size) 40 interval = putAt (data.image size) 40 (serializeInterval interval) := by
    have hwords : serializeInterval interval = leBytes 8 interval.bytes.toNat ++ leBytes 8 interval.datagrams.toNat
        ++ leBytes 8 interval.startSeq.toNat ++ leBytes 8 (TestReportOfStream.bitrateWord interval.bitrate).toNat := by
      simp [serializeInterval, words_cons]
    rw [hwords, ← putAt_putAt _ _ _ hinside, ← putAt_putAt _ _ _ hinside, ← putAt_putAt _ _ _ hinside]
    simp [putInterval, putWord]
  rw [hone, image, image]
  exact putAt_append data.header.length_encode (data.interval.length_bytes.trans (length_serializeInterval interval).symm)

end

end IperfData

namespace LiveStream

variable {Recorder : Type} {tools : SeqTools Recorder}

/-! ### The writes of a stream -/

def dataLength (s : LiveStream Recorder) : Nat := (IperfStream.dataSize s.config).toNat

def newBuffer (s : LiveStream Recorder) : Octets :=
  putWord (putWord (List.replicate s.dataLength iperfChar) 0 batsIperfMagicCode) 8 s.streamIdentifier

/-- The header of the next block, in `StartSend`. -/
def writeHeader (s : LiveStream Recorder) (time : UInt64) (buffer : Octets) : Octets :=
  let sent := s.report.senderReport
  let grpId := decide (sent.snapshotCnt % 2 = 1)
  let buffer := putWord buffer 16 sent.summary.datagrams
  let buffer := putWord buffer 24 time
  let buffer := putFlag buffer 0 grpId
  let buffer := putFlag buffer 1 false
  let buffer := putFlag buffer 2 false
  let buffer := if sent.snapshotCnt ≤ 0 then putFlag buffer 3 false else buffer
  if 0 < sent.snapshotCnt ∧ s.threadGrpId ≠ grpId then putInterval (putFlag buffer 3 true) 40 sent.lastInterval
  else buffer

/-- The header of the FIN, in `SendFIN`. -/
def writeFin (s : LiveStream Recorder) (time : UInt64) (buffer : Octets) : Octets :=
  let sent := s.report.senderReport
  let buffer := putWord buffer 16 sent.summary.datagrams
  let buffer := putFlag buffer 0 (decide (sent.snapshotCnt % 2 = 1))
  let buffer := putWord buffer 24 time
  putFlag (putFlag (putFlag buffer 1 true) 2 false) 3 false

/-- The header of the FIN-ACK, in `OnReceivedFIN`. -/
def writeFinAck (s : LiveStream Recorder) (buffer : Octets) : Octets :=
  let buffer := putWord buffer 16 s.report.senderReport.summary.datagrams
  putFlag (putFlag (putFlag buffer 1 true) 2 true) 3 false

def noteBuffer (s : LiveStream Recorder) (a : Action) (buffer : Octets) : Octets :=
  match a with
  | .thread input =>
    if s.sendingThread = .sending then
      match s.point with
      | .build => s.writeHeader input.time buffer
      | .fin => if isReliableProtocol s.config.protocol then s.writeFin input.time buffer else buffer
      | _ => buffer
    else buffer
  | .received reception => if s.handlesFin reception.data then s.writeFinAck buffer else buffer
  | _ => buffer

/-- The length that a step passes where it calls `SendData`. -/
def passedLength (s : LiveStream Recorder) (a : Action) : Int :=
  match a, s.point with
  | .thread _, .send length | .thread _, .retry length => length
  | _, _ => s.idealLength

/-- The buffer and the length that a step passes to `SendData`. The FIN-ACK is written in the same step. -/
def passed (s : LiveStream Recorder) (a : Action) (buffer : Octets) : Option (Octets × Int) :=
  if s.callsConn a then some (s.noteBuffer a buffer, s.passedLength a) else none

/-- The FIN-ACK over the data that a stream keeps. -/
def finAckData (s : LiveStream Recorder) : IperfData :=
  { s.iperfData with header := { s.iperfData.header with
      seq := s.report.senderReport.summary.datagrams, last := true, ack := true, hasInterval := false } }

def dataAfter (s : LiveStream Recorder) (a : Action) : IperfData :=
  match a with
  | .thread input =>
    if s.sendingThread = .sending then
      match s.point with
      | .build => (s.buildHeader input.time).iperfData
      | .fin => if isReliableProtocol s.config.protocol then (s.buildFin input.time).iperfData else s.iperfData
      | _ => s.iperfData
    else s.iperfData
  | .received reception => if s.handlesFin reception.data then s.finAckData else s.iperfData
  | _ => s.iperfData

theorem writeHeader_image (s : LiveStream Recorder) (time : UInt64) (size : Nat) :
    s.writeHeader time (s.iperfData.image size) = (s.buildHeader time).iperfData.image size := by
  unfold writeHeader buildHeader
  simp only [IperfData.putWord_seq, IperfData.putWord_time, IperfData.putFlag_grpId, IperfData.putFlag_last,
    IperfData.putFlag_ack, IperfData.putFlag_hasInterval]
  by_cases hfirst : s.report.senderReport.snapshotCnt ≤ 0
  · have hnone : ¬ (0 < s.report.senderReport.snapshotCnt ∧
        s.threadGrpId ≠ decide (s.report.senderReport.snapshotCnt % 2 = 1)) := fun h => absurd h.1 (by omega)
    simp only [hfirst, if_true, if_neg hnone]
  · simp only [hfirst, if_false]
    split
    · rw [IperfData.putFlag_hasInterval, IperfData.putInterval_image]
    · rfl

theorem writeFin_image (s : LiveStream Recorder) (time : UInt64) (size : Nat) :
    s.writeFin time (s.iperfData.image size) = (s.buildFin time).iperfData.image size := by
  simp only [writeFin, IperfData.putWord_seq, IperfData.putWord_time, IperfData.putFlag_grpId, IperfData.putFlag_last,
    IperfData.putFlag_ack, IperfData.putFlag_hasInterval]
  rfl

theorem writeFinAck_image (s : LiveStream Recorder) (size : Nat) :
    s.writeFinAck (s.iperfData.image size) = s.finAckData.image size := by
  simp only [writeFinAck, IperfData.putWord_seq, IperfData.putFlag_last, IperfData.putFlag_ack,
    IperfData.putFlag_hasInterval]
  rfl

theorem dataLength_ge (s : LiveStream Recorder) : 72 ≤ s.dataLength := by
  unfold dataLength IperfStream.dataSize
  split <;> decide

theorem newBuffer_image (s : LiveStream Recorder) :
    s.newBuffer = (IperfData.fresh s.streamIdentifier).image s.dataLength := by
  -- the buffer before the two writes is an image as well
  have hblank : List.replicate s.dataLength iperfChar = IperfData.image
      { IperfData.fresh 0x7777777777777777 with header :=
        { (IperfData.fresh 0x7777777777777777).header with magic := 0x7777777777777777 } } s.dataLength := by
    obtain ⟨rest, hrest⟩ := Nat.exists_eq_add_of_le s.dataLength_ge
    have hfront : List.replicate 72 iperfChar = IperfTestHeader.encode { (IperfData.fresh 0x7777777777777777).header with
        magic := 0x7777777777777777 } ++ List.replicate intervalDataSize iperfChar := by decide +kernel
    rw [hrest, List.replicate_add, hfront, IperfData.image, Nat.add_sub_cancel_left, List.append_assoc]
    rfl
  rw [newBuffer, hblank, IperfData.putWord_magic, IperfData.putWord_streamIdentifier]
  rfl

/-! ### What a step does to the data -/

theorem loopStep_data {s t : LiveStream Recorder} {input : ThreadInput} (h : s.loopStep input = .ok t) :
    t.iperfData = match s.point with
      | .build => (s.buildHeader input.time).iperfData
      | .fin => if isReliableProtocol s.config.protocol then (s.buildFin input.time).iperfData else s.iperfData
      | _ => s.iperfData := by
  have hsend {length : Int} {sent unsent : SendPoint} (hsend : s.sendData length input.sendOk sent unsent = .ok t) :
      t.iperfData = s.iperfData := by
    rw [(sendData_eq hsend).2]
    split <;> rfl
  unfold loopStep at h
  cases hpoint : s.point with
  | check | errorCheck =>
    rw [hpoint] at h
    obtain rfl := Except.ok.inj h
    dsimp only
    split <;> rfl
  | waitWritable =>
    rw [hpoint] at h
    obtain rfl := Except.ok.inj h
    dsimp only
    split
    · rfl
    · split <;> rfl
  | build | countBytes | countDatagrams | finCountBytes | finCountDatagrams =>
    rw [hpoint] at h
    obtain rfl := Except.ok.inj h
    rfl
  | send | finSend =>
    rw [hpoint] at h
    exact hsend h
  | retry | finRetry =>
    rw [hpoint] at h
    dsimp only at h
    split at h
    · obtain rfl := Except.ok.inj h
      rfl
    split at h
    · exact hsend h
    · obtain rfl := Except.ok.inj h
      rfl
  | fin =>
    rw [hpoint] at h
    obtain rfl := Except.ok.inj h
    dsimp only
    split <;> rfl

theorem onFlags_data {s t : LiveStream Recorder} {flags : TestFlags} {answer : FinAnswer}
    (h : s.onFlags flags answer = .ok t) :
    t.iperfData = if flags.last = true ∧ flags.ack = false then s.finAckData else s.iperfData := by
  unfold onFlags at h
  cases hlast : flags.last with
  | false =>
    rw [hlast, if_neg Bool.false_ne_true] at h
    obtain rfl := Except.ok.inj h
    rfl
  | true =>
    rw [hlast, if_pos rfl] at h
    cases hack : flags.ack with
    | true =>
      rw [hack, if_pos rfl] at h
      obtain rfl := Except.ok.inj h
      rfl
    | false =>
      rw [hack, if_neg Bool.false_ne_true] at h
      obtain ⟨stream, _, h⟩ := Fault.bind_eq_ok.mp h
      obtain rfl := Fault.pure_eq_ok.mp h
      rfl

theorem updateReceived_data {s t : LiveStream Recorder} {reception : Reception}
    (h : s.updateReceived tools reception = .ok t) :
    t.iperfData = if s.handlesFin reception.data then s.finAckData else s.iperfData := by
  rcases updateReceived_stages h with ⟨hempty, rfl⟩ | ⟨seq, time, flags, identified, flagged, detected, hseq, hflags,
    hidentified, hflagged, hdetected, rfl⟩
  · rw [hempty]
    rfl
  · have hcheck : s.checkData reception.data = .ok () := by
      unfold updateReceived at h
      split at h
      · rename_i hempty
        rw [hempty] at hseq
        cases hseq
      · obtain ⟨_, _, h⟩ := Fault.bind_eq_ok.mp h
        obtain ⟨_, hcheck, _⟩ := Fault.bind_eq_ok.mp h
        exact hcheck
    have hlearned : (s.learnIdentifier reception.data seq).isOk = true := by
      refine Eq.trans ?_ (Fault.isOk_iff.mpr ⟨_, hidentified⟩)
      symm
      apply learnIdentifier_isOk_congr
      · rfl
      · rfl
    have hfin : s.handlesFin reception.data = true ↔ flags.last = true ∧ flags.ack = false := by
      rw [handlesFin_iff]
      constructor
      · rintro ⟨_, _, _, hread, _, _, hfin⟩
        obtain rfl := Except.ok.inj (hflags.symm.trans hread)
        exact hfin
      · intro hfin
        exact ⟨seq, flags, hseq, hflags, hcheck, hlearned, hfin⟩
    have hjitter : (detected.updateJitter reception.arrival time).iperfData = detected.iperfData := by
      unfold updateJitter
      dsimp only
      split <;> rfl
    have hinterval : detected.iperfData = flagged.iperfData := by
      obtain ⟨found, rfl | ⟨received, actual, escaped, rfl⟩⟩ := onInterval_cases hdetected
      · rfl
      · rfl
    obtain ⟨identifier, rfl⟩ := learnIdentifier_eq hidentified
    rw [hjitter, hinterval, onFlags_data hflagged]
    simp only [hfin]
    rfl

theorem step_data {s t : LiveStream Recorder} {a : Action} (hstep : (machine tools).step s a = some t) :
    t.iperfData = s.dataAfter a := by
  have hstep := step_eq_some.mp hstep
  cases a with
  | event event | startSend now =>
    obtain ⟨stream, _, hstep⟩ := Fault.bind_eq_ok.mp hstep
    obtain rfl := Fault.pure_eq_ok.mp hstep
    rfl
  | received reception => exact updateReceived_data hstep
  | thread input =>
    change s.threadStep input = .ok t at hstep
    unfold threadStep at hstep
    unfold dataAfter
    cases hthread : s.sendingThread with
    | notStarted | ended =>
      rw [hthread] at hstep
      cases hstep
    | starting =>
      rw [hthread] at hstep
      obtain rfl := Except.ok.inj hstep
      dsimp only
      split <;> rfl
    | sending =>
      rw [hthread] at hstep
      exact loopStep_data hstep
  | snapshotReport now =>
    obtain rfl := Except.ok.inj hstep
    unfold snapshotReport
    dsimp only
    split <;> rfl
  | poll now | finishReport now | stop now =>
    obtain rfl := Except.ok.inj hstep
    rfl
  | summary cursor now =>
    obtain ⟨⟨stream, _⟩, _, hstep⟩ := Fault.bind_eq_ok.mp hstep
    obtain rfl := Fault.pure_eq_ok.mp hstep
    dsimp only
    split <;> rfl

theorem noteBuffer_image (s : LiveStream Recorder) (a : Action) (size : Nat) :
    s.noteBuffer a (s.iperfData.image size) = (s.dataAfter a).image size := by
  unfold noteBuffer dataAfter
  cases a with
  | thread input =>
    dsimp only
    split
    · cases s.point with
      | build => exact writeHeader_image s input.time size
      | fin =>
        dsimp only
        split
        · exact writeFin_image s input.time size
        · rfl
      | check | errorCheck | waitWritable | send | retry | countBytes | countDatagrams | finSend | finRetry
        | finCountBytes | finCountDatagrams => rfl
    · rfl
  | received reception =>
    dsimp only
    split
    · exact writeFinAck_image s size
    · rfl
  | event | startSend | snapshotReport | poll | summary | finishReport | stop => rfl

theorem dataAfter_magic (s : LiveStream Recorder) (a : Action) :
    (s.dataAfter a).header.magic = s.iperfData.header.magic := by
  unfold dataAfter
  cases a with
  | thread input =>
    dsimp only
    split
    · cases s.point with
      | build =>
        dsimp only
        unfold buildHeader
        dsimp only
        split <;> rfl
      | fin =>
        dsimp only
        split <;> rfl
      | check | errorCheck | waitWritable | send | retry | countBytes | countDatagrams | finSend | finRetry
        | finCountBytes | finCountDatagrams => rfl
    · rfl
  | received reception =>
    dsimp only
    split <;> rfl
  | event | startSend | snapshotReport | poll | summary | finishReport | stop => rfl

/-! ### What the peer accepts -/

/-- The buffer is the image of the data that the stream keeps, and the header starts with the magic number. -/
structure Buffered (size : Nat) (s : LiveStream Recorder) (buffer : Octets) : Prop where
  image : buffer = s.iperfData.image size
  magic : s.iperfData.header.magic = batsIperfMagicCode

theorem buffered_new {s : LiveStream Recorder} {recorder : Recorder} (hnew : IsNew recorder s) :
    Buffered s.dataLength s s.newBuffer := by
  constructor
  · rw [newBuffer_image]
    cases hnew <;> rfl
  · cases hnew <;> rfl

theorem buffered_step {size : Nat} {s t : LiveStream Recorder} {buffer : Octets} {a : Action}
    (h : Buffered size s buffer) (hstep : (machine tools).step s a = some t) :
    Buffered size t (s.noteBuffer a buffer) := by
  constructor
  · rw [h.image, noteBuffer_image, step_data hstep]
  · rw [step_data hstep, dataAfter_magic, h.magic]

/-- Whatever a new stream has done, what it passes to `SendData`, a block with or without an interval, the FIN or the FIN-ACK, is valid data to the peer for every length from 72 bytes up to the buffer. -/
theorem packets_valid {s₀ s : LiveStream Recorder} {recorder : Recorder} (hnew : IsNew recorder s₀) {acts : List Action}
    (hrun : (machine tools).run s₀ acts = some s) {a : Action} {buffer : Octets} {length : Int}
    (hpassed : s.passed a ((machine tools).record noteBuffer s₀.newBuffer s₀ acts) = some (buffer, length))
    (hlow : 72 ≤ length) (hhigh : length ≤ s₀.dataLength) :
    validateReceivedData (buffer.take length.toNat) = .ok true := by
  have hbuffered : Buffered s₀.dataLength s ((machine tools).record noteBuffer s₀.newBuffer s₀ acts) :=
    Machine.run_record (fun _ _ _ _ h _ => buffered_step h) (buffered_new hnew)
      (Machine.respects_of_forall (fun _ _ => trivial) s₀ acts) hrun
  have himage : buffer = (s.dataAfter a).image s₀.dataLength := by
    unfold passed at hpassed
    split at hpassed
    · rw [← noteBuffer_image, ← hbuffered.image]
      exact (Prod.mk.inj (Option.some.inj hpassed)).1.symm
    · exact absurd hpassed (by simp)
  rw [himage, IperfData.take_image _ (by omega) (by omega)]
  apply validateReceivedData_packet
  · omega
  · rw [dataAfter_magic, hbuffered.magic]

def newSender : LiveStream (List UInt64) := connecting { role := .roleSender, protocol := 1 } 1 5 []

theorem packets_valid_first :
    ∃ s buffer, (machine SeqTools.ofLists).run newSender untilBuilt = some s ∧
      s.passed acceptedStep ((machine SeqTools.ofLists).record noteBuffer newSender.newBuffer newSender untilBuilt)
        = some (buffer, 1000) ∧
      validateReceivedData (buffer.take 1000) = .ok true := by
  have hrun : ((machine SeqTools.ofLists).run newSender untilBuilt).map
      (fun s => (s.callsConn acceptedStep, s.passedLength acceptedStep)) = some (true, 1000) := by decide +kernel
  obtain ⟨s, hs, hrun⟩ := Option.map_eq_some_iff.mp hrun
  obtain ⟨hcalls, hlength⟩ := Prod.mk.inj hrun
  have hpassed (buffer : Octets) : s.passed acceptedStep buffer = some (s.noteBuffer acceptedStep buffer, 1000) := by
    rw [passed, hcalls, if_pos rfl, hlength]
  have hnew : IsNew [] newSender := .connecting _ 1 5
  have hsize : 1000 ≤ newSender.dataLength := by decide
  have hvalid := packets_valid hnew hs (hpassed _) (by decide) (by omega)
  exact ⟨s, _, hs, hpassed _, hvalid⟩

end LiveStream

end BatsIperf
