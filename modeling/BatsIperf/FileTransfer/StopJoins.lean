import BatsIperf.FileTransfer.AllAcked

/-!
# What `Stop` waits for

`Stop` of a file sender writes `TEST_DONE` and joins the sending threads, holding the lock that a callback of the control channel may want as well. Whatever the callbacks do meanwhile, every thread is a bounded number of steps away from its end, and sends one more block at most on the way.
-/

namespace BatsIperf

open Octets IperfFileTransfer

namespace ThreadPoint

/-- How many steps a place is away from the end of the thread at most, once the test is done. -/
def stepsLeft : ThreadPoint → Nat
  | .finished | .aborted => 0
  | .setDone | .outerHead => 1
  | .notStarted | .innerHead _ => 2
  | .openFile _ | .retry .. => 3
  | .dequeue | .sending .. => 4
  | .errCheck | .build _ => 5
  | .waitWritable _ => 6
  | .innerCheck _ => 7

/-- How many blocks may be sent from a place, once the test is done. -/
def blocksLeft : ThreadPoint → Nat
  | .innerCheck _ | .waitWritable _ | .build _ | .sending .. => 1
  | _ => 0

theorem stepsLeft_le (point : ThreadPoint) : point.stepsLeft ≤ 7 := by
  cases point <;> exact Nat.le_of_ble_eq_true rfl

theorem blocksLeft_le (point : ThreadPoint) : point.blocksLeft ≤ 1 := by
  cases point <;> exact Nat.le_of_ble_eq_true rfl

end ThreadPoint

namespace FileSession

/-- A step of a thread is nearer to its end than the one before, and a block it sends was left to it. -/
structure Nearer (stream : FileStream) (result : ThreadResult) : Prop where
  steps : result.stream.thread.stepsLeft < stream.thread.stepsLeft
  blocks : result.accepted.toList.length + result.stream.thread.blocksLeft ≤ stream.thread.blocksLeft

theorem nearer_moveTo {test : IperfFileTransfer} {stream : FileStream} {header : FileBkHeader} {point next : ThreadPoint}
    (hthread : stream.thread = point) (hsteps : Nat.blt next.stepsLeft point.stepsLeft = true)
    (hblocks : Nat.ble next.blocksLeft point.blocksLeft = true) :
    Nearer stream (test.moveTo { stream with bkHeader := header } next) where
  steps := by
    rw [hthread]
    exact Nat.le_of_ble_eq_true hsteps
  blocks := by
    rw [hthread]
    exact (Nat.zero_add _).trans_le (Nat.le_of_ble_eq_true hblocks)

theorem threadStep_nearer {disk : Disk} {density : Density} {test : IperfFileTransfer} {stream : FileStream}
    {answers : ThreadAnswers} {result : ThreadResult} (hdone : test.state = .testDone)
    (h : threadStep disk density test stream answers = .ok result) : Nearer stream result := by
  have hidle : test.isInActive stream = false := by rw [isInActive, hdone, bne_self_eq_false, Bool.and_false]
  have hmove {point next : ThreadPoint} (hthread : stream.thread = point)
      (hsteps : Nat.blt next.stepsLeft point.stepsLeft = true)
      (hblocks : Nat.ble next.blocksLeft point.blocksLeft = true) : Nearer stream (test.moveTo stream next) :=
    @nearer_moveTo test stream stream.bkHeader _ _ hthread hsteps hblocks
  cases threadStep_move h with
  | stops hthread | aborts hthread | asks hthread | findsNone hthread | leaves hthread | breaks hthread | passes hthread
    | waited hthread | refused hthread | givesUp hthread => exact hmove hthread rfl rfl
  | goesOn _ hrunning => exact absurd hdone hrunning
  | fetches hthread | ends hthread | sends hthread =>
    constructor <;> rw [hthread] <;> exact Nat.le_of_ble_eq_true rfl
  | opens hthread =>
    obtain ⟨header, point, hopened, hpoint⟩ := openStep_moves disk test stream _ answers.opens
    rw [hopened]
    rcases hpoint with rfl | ⟨_, rfl⟩ <;> exact nearer_moveTo hthread rfl rfl
  | enters _ hactive => exact absurd (hidle.symm.trans hactive.2) Bool.false_ne_true
  | builds hthread hbuild =>
    obtain ⟨header, point, rfl, ⟨_, rfl⟩ | ⟨_, _, _, rfl⟩⟩ := buildStep_moves hbuild <;>
      exact nearer_moveTo hthread rfl rfl
  | resends _ hactive => exact absurd (.inl (by rw [hidle]; exact Bool.false_ne_true)) hactive

/-! ### Every step -/

def Action.isThread (i : Nat) : Action → Bool
  | .thread k _ => k == i
  | _ => false

theorem Action.isThread_eq_false {a : Action} {i : Nat} (ha : ∀ answers, a ≠ .thread i answers) : a.isThread i = false := by
  cases a with
  | thread k answers => exact beq_false_of_ne fun hk => ha answers (by rw [hk])
  | event | poll | stop | clearStreams | accept | receiverEvent | deliver | receiverPoll => rfl

def stepsLeft (i : Nat) (s : FileSession) : Nat := (s.sender.streams[i]?.map (·.thread.stepsLeft)).getD 0

def blocksLeft (i : Nat) (s : FileSession) : Nat := (s.sender.streams[i]?.map (·.thread.blocksLeft)).getD 0

theorem step_done {senderDisk : Disk} {density : Density} {s t : FileSession} {a : Action}
    (hdone : s.sender.state = .testDone) (hstep : (machine senderDisk density).step s a = some t) :
    t.sender.state = .testDone := by
  cases a with
  | event k event =>
    obtain ⟨_, sender, hcallback, rfl⟩ := event_inv hstep
    rcases connectionCallback_cases hcallback with ⟨_, _, _, _, rfl⟩ | ⟨rfl, _⟩ | ⟨rfl, _⟩ <;> exact hdone
  | thread k answers =>
    obtain ⟨_, _, _, _, rfl⟩ := thread_inv hstep
    exact hdone
  | poll =>
    obtain rfl := Option.some.inj hstep
    show s.sender.isStreamDone.2.state = .testDone
    unfold isStreamDone
    split
    · exact hdone
    split
    · exact hdone
    split
    · rfl
    · exact hdone
  | stop =>
    obtain rfl := Option.some.inj hstep
    show s.sender.stop.state = .testDone
    unfold IperfFileTransfer.stop
    split
    · exact hdone
    · rfl
  | clearStreams =>
    obtain rfl := clearStreams_inv hstep
    exact hdone
  | accept | receiverEvent | deliver | receiverPoll =>
    rw [(sender_unchanged hstep rfl).1]
    exact hdone

/-- An event leaves a running thread where it is, and starts one that was not started. -/
theorem streamEvent_nearer {test : IperfFileTransfer} {event : ConnEvent} {stream next : FileStream}
    (h : test.streamEvent event stream = .ok next) :
    next.thread.stepsLeft ≤ stream.thread.stepsLeft ∧ next.thread.blocksLeft ≤ stream.thread.blocksLeft := by
  cases streamEvent_move h with
  | established hthread =>
    rw [hthread]
    exact ⟨Nat.le_of_ble_eq_true rfl, Nat.le_of_ble_eq_true rfl⟩
  | _ => exact ⟨Nat.le_refl _, Nat.le_refl _⟩

theorem wire_other {senderDisk : Disk} {density : Density} {s t : FileSession} {a : Action} {i : Nat}
    (hstep : (machine senderDisk density).step s a = some t) (ha : ∀ answers, a ≠ .thread i answers) :
    t.wire i = s.wire i := by
  cases a with
  | thread k answers =>
    obtain ⟨_, _, _, _, rfl⟩ := thread_inv hstep
    exact Function.update_of_ne (fun hk => ha answers (by rw [hk])) ..
  | event | poll | stop | clearStreams | accept | receiverEvent | deliver | receiverPoll =>
    rw [(unsent_of_not_thread hstep fun _ _ => Action.noConfusion).1]

theorem left_of_some {i : Nat} {s : FileSession} {stream : FileStream} (h : s.sender.streams[i]? = some stream) :
    stepsLeft i s = stream.thread.stepsLeft ∧ blocksLeft i s = stream.thread.blocksLeft := by
  rw [stepsLeft, blocksLeft, h]
  exact ⟨rfl, rfl⟩

/-- No step takes a thread farther from its end, and its own steps take it nearer. -/
theorem step_left {senderDisk : Disk} {density : Density} {s t : FileSession} {a : Action} (i : Nat)
    (hdone : s.sender.state = .testDone) (hstep : (machine senderDisk density).step s a = some t) :
    stepsLeft i t ≤ stepsLeft i s ∧ (a.isThread i = true → stepsLeft i t < stepsLeft i s) ∧
      (t.wire i).length + blocksLeft i t ≤ (s.wire i).length + blocksLeft i s := by
  cases hnext : t.sender.streams[i]? with
  | none =>
    have hother (answers : ThreadAnswers) : a ≠ .thread i answers := by
      rintro rfl
      obtain ⟨stream, result, hstream, _, rfl⟩ := thread_inv hstep
      have hlength := (List.getElem?_eq_some_iff.mp hstream).1
      rw [List.getElem?_set_self hlength] at hnext
      cases hnext
    have hthread := Action.isThread_eq_false hother
    have hgone : stepsLeft i t = 0 ∧ blocksLeft i t = 0 := by
      rw [stepsLeft, blocksLeft, hnext]
      exact ⟨rfl, rfl⟩
    rw [hgone.1, hgone.2, wire_other hstep hother]
    exact ⟨Nat.zero_le _, fun hno => absurd (hthread.symm.trans hno) Bool.false_ne_true, by omega⟩
  | some next =>
    obtain ⟨stream, hstream, hmoved⟩ := stream_moved hstep hnext
    rw [(left_of_some hnext).1, (left_of_some hnext).2, (left_of_some hstream).1, (left_of_some hstream).2]
    cases hmoved with
    | event h =>
      obtain ⟨hsteps, hblocks⟩ := streamEvent_nearer h
      rw [wire_other hstep fun _ => Action.noConfusion]
      exact ⟨hsteps, fun hno => absurd hno Bool.false_ne_true, Nat.add_le_add_left hblocks _⟩
    | @thread answers result h =>
      obtain ⟨hsteps, hblocks⟩ := threadStep_nearer hdone h
      have hwire : (t.wire i).length = (s.wire i).length + result.accepted.toList.length := by
        obtain ⟨found, taken, hfound, htaken, rfl⟩ := thread_inv hstep
        obtain rfl := Option.some.inj (hstream.symm.trans hfound)
        obtain rfl := Except.ok.inj (h.symm.trans htaken)
        dsimp only
        rw [Function.update_self, List.length_append]
      exact ⟨hsteps.le, fun _ => hsteps, by omega⟩
    | other _ hthread =>
      have hother := Action.isThread_eq_false hthread
      rw [wire_other hstep hthread]
      exact ⟨Nat.le_refl _, fun hno => absurd (hother.symm.trans hno) Bool.false_ne_true, Nat.le_refl _⟩

/-! ### Every interleaving -/

/-- The test is done, and what a stream has been sent and may still be sent is within a bound. -/
structure Stopped (i bound : Nat) (s : FileSession) : Prop where
  state : s.sender.state = .testDone
  blocks : (s.wire i).length + blocksLeft i s ≤ bound

/-- The thread has passed its checks when `Stop` comes, and finds the buffer full. -/
def untilStopped : List Action := .event 0 (.established 4096) :: List.replicate 5 (.thread 0 {}) ++ [.stop]

def untilJoined : List Action :=
  [.event 0 .bufferFull, .thread 0 {}, .thread 0 {}, .thread 0 {}, .thread 0 { sendOk := false }, .thread 0 {}, .poll,
    .thread 0 {}, .thread 0 {}, .clearStreams]

end FileSession

end BatsIperf
