import BatsIperf.FileTransfer.DoneStays
import BatsIperf.Test.ClientLoop

/-!
# The main thread of a file client

`RunTest` and `EnterSenderIntervalLoop` run a file sender through the same calls as a throughput test. `TestFinishState` has no time limit here, so the interval loop is left when the streams are done or the user interrupts. `StopAll` then waits for the threads of the streams.
-/

namespace BatsIperf

open Octets IperfFileTransfer

/-- The places of the main thread. A number is a counter of its loop. -/
inductive FileClientPoint
  | waitReady (timeoutCnt : Nat)
  | interval
  | waitDone (maxWaitTime : Nat)
  | stopAll | joining | timedOut | stopped
  deriving DecidableEq

structure FileClientRun where
  session : FileSession
  point : FileClientPoint := .waitReady 0
  stopSignalValue : Int := 0
  isStopped : Bool := false

namespace FileClientRun

open ClientRun (sigint maxTimeoutCnt maxWaitTime)

def isInterrupted (s : FileClientRun) : Bool := s.stopSignalValue == sigint

inductive Action
  | main
  | signal (sig : Int)
  | other (action : FileSession.Action)

def Action.isMain : Action → Bool
  | .main => true
  | .signal _ | .other _ => false

/-- What the callbacks, the threads of the streams and the receiver may do. Whoever stops the test joins its threads. -/
def admits (s : FileClientRun) : FileSession.Action → Bool
  | .poll => false
  | .clearStreams => s.point ≠ .joining
  | .event .. | .thread .. | .stop | .accept _ | .receiverEvent .. | .deliver .. | .receiverPoll => true

/-- `StopAll` up to the point where it waits for the threads. -/
def stopAll (s : FileClientRun) : FileClientRun :=
  if s.isStopped then s
  else { s with
    isStopped := true
    stopSignalValue := sigint
    session := { s.session with sender := s.session.sender.stop } }

/-- A call of `IsStreamDone`, which may store that the test is done. -/
def polled (s : FileClientRun) : FileClientRun :=
  { s with session := { s.session with sender := s.session.sender.testFinishState.2 } }

/-- One pass of the main thread. `OnSentFinished` of a file transfer is empty. -/
def mainStep (senderDisk : Disk) (density : Density) (s : FileClientRun) : Option FileClientRun :=
  match s.point with
  | .waitReady timeoutCnt =>
    some (if s.session.sender.isStreamReady ∨ s.isInterrupted then { s with point := .interval }
      else if maxTimeoutCnt < timeoutCnt + 1 then { s with point := .timedOut }
      else { s with point := .waitReady (timeoutCnt + 1) })
  | .interval =>
    some (if s.isInterrupted then { s with point := .waitDone maxWaitTime }
      else { s.polled with
        point := if s.session.sender.testFinishState.1 then .waitDone maxWaitTime else .interval })
  | .waitDone count =>
    some (if 0 < count ∧ ¬ s.isInterrupted then
        if s.session.sender.state = .testDone ∧ s.session.sender.isStreamDone.1 then { s with point := .stopAll }
        else { s.polled with point := .waitDone (count - 1) }
      -- the message of a time-out asks once more
      else if count = 0 then { s.polled with point := .stopAll }
      else { s with point := .stopAll })
  | .stopAll =>
    some { s.stopAll with point := if s.isStopped ∨ s.session.sender.isStopped then .stopped else .joining }
  | .joining => do
    let session ← (FileSession.machine senderDisk density).step s.session .clearStreams
    return { s with session := session, point := .stopped }
  | .timedOut | .stopped => none

def step (senderDisk : Disk) (density : Density) (s : FileClientRun) : Action → Option FileClientRun
  | .main => mainStep senderDisk density s
  | .signal sig => some { s with stopSignalValue := sig }.stopAll
  | .other action =>
    if s.admits action then do
      let session ← (FileSession.machine senderDisk density).step s.session action
      return { s with session := session }
    else none

def machine (senderDisk : Disk) (density : Density) : Machine FileClientRun Action where
  step := step senderDisk density

variable {senderDisk : Disk} {density : Density} {s t : FileClientRun}

/-! ### The moves of the main thread -/

inductive MainMove (senderDisk : Disk) (density : Density) (s : FileClientRun) : FileClientRun → Prop
  | ready {timeoutCnt : Nat} (hpoint : s.point = .waitReady timeoutCnt) :
      MainMove senderDisk density s { s with point := .interval }
  | waits {timeoutCnt : Nat} (hpoint : s.point = .waitReady timeoutCnt) (hearly : timeoutCnt < maxTimeoutCnt) :
      MainMove senderDisk density s { s with point := .waitReady (timeoutCnt + 1) }
  | timesOut {timeoutCnt : Nat} (hpoint : s.point = .waitReady timeoutCnt) :
      MainMove senderDisk density s { s with point := .timedOut }
  | interrupted (hpoint : s.point = .interval) (hsigint : s.isInterrupted = true) :
      MainMove senderDisk density s { s with point := .waitDone maxWaitTime }
  | finishes (hpoint : s.point = .interval) (hdone : s.session.sender.isStreamDone.1 = true) :
      MainMove senderDisk density s { s.polled with point := .waitDone maxWaitTime }
  | polls (hpoint : s.point = .interval) (hbusy : ¬ s.session.sender.isStreamDone.1 = true) :
      MainMove senderDisk density s { s.polled with point := .interval }
  | leaves {count : Nat} (hpoint : s.point = .waitDone count) : MainMove senderDisk density s { s with point := .stopAll }
  | counts {count : Nat} (hpoint : s.point = .waitDone count)
      (hbusy : ¬ (s.session.sender.state = .testDone ∧ s.session.sender.isStreamDone.1 = true)) :
      MainMove senderDisk density s { s.polled with point := .waitDone (count - 1) }
  | givesUp {count : Nat} (hpoint : s.point = .waitDone count) :
      MainMove senderDisk density s { s.polled with point := .stopAll }
  | returns (hpoint : s.point = .stopAll) : MainMove senderDisk density s { s.stopAll with point := .stopped }
  | stops (hpoint : s.point = .stopAll) : MainMove senderDisk density s { s.stopAll with point := .joining }
  | joins {session : FileSession} (hpoint : s.point = .joining)
      (hclear : (FileSession.machine senderDisk density).step s.session .clearStreams = some session) :
      MainMove senderDisk density s { s with session := session, point := .stopped }

theorem mainStep_move (h : mainStep senderDisk density s = some t) : MainMove senderDisk density s t := by
  unfold mainStep at h
  cases hpoint : s.point with
  | waitReady timeoutCnt =>
    rw [hpoint] at h
    obtain rfl := Option.some.inj h
    split
    · exact .ready hpoint
    split
    · exact .timesOut hpoint
    · exact .waits hpoint (by omega)
  | interval =>
    rw [hpoint] at h
    obtain rfl := Option.some.inj h
    split
    · rename_i hsigint
      exact .interrupted hpoint hsigint
    by_cases hdone : s.session.sender.testFinishState.1 = true
    · rw [if_pos hdone]
      exact .finishes hpoint hdone
    · rw [if_neg hdone]
      exact .polls hpoint hdone
  | waitDone count =>
    rw [hpoint] at h
    obtain rfl := Option.some.inj h
    split
    · split
      · exact .leaves hpoint
      · rename_i hbusy
        exact .counts hpoint hbusy
    split
    · exact .givesUp hpoint
    · exact .leaves hpoint
  | stopAll =>
    rw [hpoint] at h
    obtain rfl := Option.some.inj h
    by_cases hstopped : s.isStopped = true ∨ s.session.sender.isStopped = true
    · rw [if_pos hstopped]
      exact .returns hpoint
    · rw [if_neg hstopped]
      exact .stops hpoint
  | joining =>
    rw [hpoint] at h
    obtain ⟨session, hclear, h⟩ := Option.bind_eq_some_iff.mp h
    obtain rfl := Option.some.inj h
    exact .joins hpoint hclear
  | timedOut | stopped =>
    rw [hpoint] at h
    cases h

/-! ### The session below -/

/-- What a step of the client does to the session. -/
inductive Moved (senderDisk : Disk) (density : Density) (s : FileClientRun) (a : Action) : FileSession → Prop
  | kept : Moved senderDisk density s a s.session
  | polled : Moved senderDisk density s a { s.session with sender := s.session.sender.testFinishState.2 }
  | stopped : Moved senderDisk density s a { s.session with sender := s.session.sender.stop }
  | joined {session : FileSession}
      (h : (FileSession.machine senderDisk density).step s.session .clearStreams = some session) :
      Moved senderDisk density s a session
  | other {action : FileSession.Action} {session : FileSession}
      (h : (FileSession.machine senderDisk density).step s.session action = some session) :
      Moved senderDisk density s a session

theorem stopAll_moved {a : Action} (sig : Int) :
    Moved senderDisk density s a { s with stopSignalValue := sig }.stopAll.session := by
  unfold FileClientRun.stopAll
  split
  · exact .kept
  · exact .stopped

theorem step_moved {a : Action} (h : (machine senderDisk density).step s a = some t) :
    Moved senderDisk density s a t.session := by
  cases a with
  | main =>
    cases mainStep_move h with
    | ready | waits | timesOut | interrupted | leaves => exact .kept
    | finishes | polls | counts | givesUp => exact .polled
    | returns | stops => exact stopAll_moved s.stopSignalValue
    | joins _ hclear => exact .joined hclear
  | signal sig =>
    obtain rfl := Option.some.inj h
    exact stopAll_moved sig
  | other action =>
    obtain ⟨_, h⟩ := Option.ite_none_right_eq_some.mp h
    obtain ⟨session, hsession, h⟩ := Option.bind_eq_some_iff.mp h
    obtain rfl := Option.some.inj h
    exact .other hsession

theorem Moved.keeps {P : FileSession → Prop} {a : Action} {session : FileSession}
    (h : Moved senderDisk density s a session)
    (hkeeps : ∀ x b y, P x → (FileSession.machine senderDisk density).step x b = some y → P y) (hs : P s.session) :
    P session := by
  cases h with
  | kept => exact hs
  | polled => exact hkeeps s.session .poll _ hs rfl
  | stopped => exact hkeeps s.session .stop _ hs rfl
  | joined h => exact hkeeps s.session .clearStreams _ hs h
  | @other action _ h => exact hkeeps s.session action _ hs h

/-! ### Between two steps -/

structure Running (s : FileClientRun) : Prop where
  steady : FileSession.Steady s.session
  testStopped : s.isStopped = true → s.session.sender.isStopped = true
  interrupted : s.isInterrupted = true → s.isStopped = true
  waits : ∀ count, s.point = .waitDone count → s.session.sender.state = .testDone
  ends : s.point = .joining ∨ s.point = .stopped → s.session.sender.isStopped = true

theorem Moved.steady {a : Action} {session : FileSession} (h : Moved senderDisk density s a session)
    (hs : FileSession.Steady s.session) : FileSession.Steady session :=
  h.keeps (fun _ _ _ => FileSession.steady_step) hs

theorem Moved.isStopped {a : Action} {session : FileSession} (h : Moved senderDisk density s a session)
    (hs : s.session.sender.isStopped = true) : session.sender.isStopped = true :=
  h.keeps (P := fun x => x.sender.isStopped = true)
    (fun _ _ _ hstopped hstep => (FileSession.isStopped_step hstep).1 hstopped) hs

theorem Moved.state {a : Action} {session : FileSession} (h : Moved senderDisk density s a session)
    (hs : s.session.sender.state = .testDone) : session.sender.state = .testDone :=
  h.keeps (P := fun x => x.sender.state = .testDone) (fun _ _ _ => FileSession.step_done) hs

theorem Running.goOn {a : Action} (h : Running s) (hmoved : Moved senderDisk density s a t.session)
    (hsame : t.isStopped = s.isStopped) (hsignal : t.stopSignalValue = s.stopSignalValue)
    (hwaits : ∀ count, t.point = .waitDone count → t.session.sender.state = .testDone)
    (hends : t.point = .joining ∨ t.point = .stopped → t.session.sender.isStopped = true) : Running t where
  steady := hmoved.steady h.steady
  testStopped hstopped := hmoved.isStopped (h.testStopped (hsame.symm.trans hstopped))
  interrupted hsigint := by
    rw [isInterrupted, hsignal] at hsigint
    exact hsame.trans (h.interrupted hsigint)
  waits := hwaits
  ends := hends

theorem stop_isStopped (test : IperfFileTransfer) : test.stop.isStopped = true := by
  unfold IperfFileTransfer.stop
  split
  · rename_i hstopped
    exact hstopped
  · rfl

theorem stopAll_stops (h : s.isStopped = true → s.session.sender.isStopped = true) :
    s.stopAll.isStopped = true ∧ s.stopAll.session.sender.isStopped = true ∧ s.stopAll.point = s.point := by
  unfold FileClientRun.stopAll
  split
  · rename_i hstopped
    exact ⟨hstopped, h hstopped, rfl⟩
  · exact ⟨rfl, stop_isStopped s.session.sender, rfl⟩

theorem isStreamDone_state {test : IperfFileTransfer} (h : test.isStreamDone.1 = true) :
    test.isStreamDone.2.state = .testDone := by
  rcases isStreamDone_cases test with ⟨hsame, hdone⟩ | ⟨hdone, _⟩
  · rw [hsame]
    exact hdone h
  · rw [hdone]

theorem mainStep_running (h : Running s) (hstep : mainStep senderDisk density s = some t) : Running t := by
  have hmoved : Moved senderDisk density s .main t.session := step_moved hstep
  cases mainStep_move hstep with
  | ready | waits | timesOut | polls | leaves | givesUp =>
    exact h.goOn hmoved rfl rfl (fun _ hno => by cases hno) (fun hno => by simp at hno)
  | interrupted _ hsigint =>
    have hdone := h.steady.stopped (h.testStopped (h.interrupted hsigint))
    exact h.goOn hmoved rfl rfl (fun _ _ => hdone) (fun hno => by simp at hno)
  | finishes _ hdone =>
    exact h.goOn hmoved rfl rfl (fun _ _ => isStreamDone_state hdone) (fun hno => by simp at hno)
  | counts hpoint =>
    exact h.goOn hmoved rfl rfl (fun _ _ => hmoved.state (h.waits _ hpoint)) (fun hno => by simp at hno)
  | returns | stops =>
    obtain ⟨hstopped, hsender, _⟩ := stopAll_stops h.testStopped
    exact ⟨hmoved.steady h.steady, fun _ => hsender, fun _ => hstopped, (fun _ hno => by cases hno), fun _ => hsender⟩
  | joins hpoint =>
    exact h.goOn hmoved rfl rfl (fun _ hno => by cases hno) (fun _ => hmoved.isStopped (h.ends (.inl hpoint)))

theorem running_step {a : Action} (h : Running s) (hstep : (machine senderDisk density).step s a = some t) : Running t := by
  have hmoved := step_moved hstep
  cases a with
  | main => exact mainStep_running h hstep
  | signal sig =>
    obtain rfl := Option.some.inj hstep
    obtain ⟨hstopped, hsender, hpoint⟩ := @stopAll_stops { s with stopSignalValue := sig } h.testStopped
    refine ⟨hmoved.steady h.steady, fun _ => hsender, fun _ => hstopped, fun count hcount => ?_, fun _ => hsender⟩
    exact hmoved.state (h.waits count (hpoint.symm.trans hcount))
  | other action =>
    obtain ⟨_, hstep⟩ := Option.ite_none_right_eq_some.mp hstep
    obtain ⟨session, _, hstep⟩ := Option.bind_eq_some_iff.mp hstep
    obtain rfl := Option.some.inj hstep
    exact h.goOn hmoved rfl rfl (fun count hcount => hmoved.state (h.waits count hcount))
      (fun hends => hmoved.isStopped (h.ends hends))

/-! ### The way to the end -/

def stepsLeft : FileClientPoint → Nat
  | .waitReady timeoutCnt => 5 + (maxTimeoutCnt - timeoutCnt)
  | .interval => 4
  | .waitDone _ => 3
  | .stopAll => 2
  | .joining => 1
  | .timedOut | .stopped => 0

/-- Once the streams are done, every loop behind the first is left in its next pass. -/
theorem mainStep_nearer (h : Running s) (hdone : s.session.sender.isStreamDone.1 = true)
    (hstep : mainStep senderDisk density s = some t) : stepsLeft t.point < stepsLeft s.point := by
  cases mainStep_move hstep with
  | @waits timeoutCnt hpoint hearly =>
    rw [hpoint]
    show 5 + (maxTimeoutCnt - (timeoutCnt + 1)) < 5 + (maxTimeoutCnt - timeoutCnt)
    omega
  | @ready timeoutCnt hpoint =>
    rw [hpoint]
    show 4 < 5 + (maxTimeoutCnt - timeoutCnt)
    omega
  | @timesOut timeoutCnt hpoint =>
    rw [hpoint]
    show 0 < 5 + (maxTimeoutCnt - timeoutCnt)
    omega
  | interrupted hpoint | finishes hpoint | leaves hpoint | givesUp hpoint | returns hpoint | stops hpoint | joins hpoint =>
    rw [hpoint]
    exact Nat.le_of_ble_eq_true rfl
  | polls _ hbusy => exact absurd hdone hbusy
  | counts hpoint hbusy => exact absurd ⟨h.waits _ hpoint, hdone⟩ hbusy

theorem point_step {a : Action} (ha : a ≠ .main) (hstep : (machine senderDisk density).step s a = some t) :
    t.point = s.point := by
  cases a with
  | main => exact absurd rfl ha
  | signal sig =>
    obtain rfl := Option.some.inj hstep
    unfold FileClientRun.stopAll
    split <;> rfl
  | other action =>
    obtain ⟨_, hstep⟩ := Option.ite_none_right_eq_some.mp hstep
    obtain ⟨_, _, hstep⟩ := Option.bind_eq_some_iff.mp hstep
    obtain rfl := Option.some.inj hstep
    rfl

theorem done_step {a : Action} (h : Running s) (hdone : s.session.sender.isStreamDone.1 = true)
    (hstep : (machine senderDisk density).step s a = some t) :
    (Running t ∧ t.session.sender.isStreamDone.1 = true) ∧ stepsLeft t.point ≤ stepsLeft s.point ∧
      (a.isMain = true → stepsLeft t.point < stepsLeft s.point) := by
  have hkept : FileSession.Steady t.session ∧ t.session.sender.isStreamDone.1 = true :=
    (step_moved hstep).keeps (P := fun x => FileSession.Steady x ∧ x.sender.isStreamDone.1 = true)
      (fun _ _ _ hx hxy => ⟨FileSession.steady_step hx.1 hxy, FileSession.isStreamDone_step hx.1 hx.2 hxy⟩)
      ⟨h.steady, hdone⟩
  refine ⟨⟨running_step h hstep, hkept.2⟩, ?_⟩
  cases a with
  | main =>
    have hless := mainStep_nearer h hdone hstep
    exact ⟨hless.le, fun _ => hless⟩
  | signal | other =>
    rw [point_step Action.noConfusion hstep]
    exact ⟨le_rfl, fun hno => absurd hno Bool.false_ne_true⟩

/-! ### The start -/

/-- Accepted or denied, the answer leaves a file sender that is stopped only when its test is done. -/
theorem steady_start {config serverConfig : TestConfig} {testId : UInt32} {available : Option Nat} {disk : Disk}
    {first : FileSession} (h : FileSession.start senderDisk config serverConfig testId available disk = .ok first) :
    FileSession.Steady first := by
  obtain ⟨⟨client, sent⟩, hrequest, h⟩ := Fault.bind_eq_ok.mp h
  obtain ⟨hid, rfl, rfl⟩ := FileSession.ctrlChannelEstablished_eq hrequest
  have hsame : (FileSession.requester senderDisk config testId).testId
      = (FileSession.responder serverConfig testId).testId := rfl
  have hserver := handleControlMessage_request hid hsame available (List.replicate 256 0)
  dsimp only [List.head?_cons] at h
  rw [Fault.need_some, Fault.ok_bind, hserver, Fault.ok_bind] at h
  dsimp only [List.head?_cons] at h
  rw [Fault.need_some, Fault.ok_bind] at h
  obtain ⟨⟨client, _⟩, hresponse, h⟩ := Fault.bind_eq_ok.mp h
  obtain rfl := Fault.pure_eq_ok.mp h
  rw [handleControlMessage_response (by rfl)] at hresponse
  split at hresponse
  · obtain ⟨rfl, _⟩ := Prod.mk.inj (Except.ok.inj hresponse)
    exact ⟨rfl, fun _ => rfl⟩
  · obtain ⟨opened, hopened, hresponse⟩ := Fault.bind_eq_ok.mp hresponse
    obtain ⟨rfl, _⟩ := Prod.mk.inj (Fault.pure_eq_ok.mp hresponse)
    obtain rfl := FileSession.onRecvResponse_eq hopened
    exact ⟨rfl, fun hno => absurd hno Bool.false_ne_true⟩

theorem running_start {config serverConfig : TestConfig} {testId : UInt32} {available : Option Nat} {disk : Disk}
    {first : FileSession} (h : FileSession.start senderDisk config serverConfig testId available disk = .ok first) :
    Running { session := first } where
  steady := steady_start h
  testStopped hno := absurd hno Bool.false_ne_true
  interrupted hno := absurd (show (0 == sigint) = true from hno) (by decide)
  waits _ hno := by cases hno
  ends hno := by simp at hno

/-! ### Every run -/

/-- The file is sent and acknowledged before the client looks for its streams. -/
def untilDone : List Action :=
  (FileSession.sendsFile ++ FileSession.findsNoFile ++ [FileSession.Action.event 0 .allDataAcked]).map .other ++ [.main]

def untilStopped : List Action := [.main, .main, .main, .main]

/-- The main thread is in one of the two loops before the end of the test. -/
def isWaiting : FileClientPoint → Bool
  | .waitReady _ | .interval => true
  | .waitDone _ | .stopAll | .joining | .timedOut | .stopped => false

def hasLeft : FileClientPoint → Bool
  | .waitDone _ | .stopAll | .joining | .stopped => true
  | .waitReady _ | .interval | .timedOut => false

/-- The user does not interrupt, the control channel stays open, and no sending error is reported. -/
def Action.isCalm : Action → Bool
  | .signal _ | .other .stop | .other (.event _ .sendDataError) => false
  | .main | .other _ => true

/-- Nothing disturbs the client while it waits for its streams. -/
def Calm (s : FileClientRun) (a : Action) : Prop := isWaiting s.point = true → a.isCalm = true

/-- What the client waits for, and what it has when it waits no longer. -/
structure Completing (queue : List File) (n : Nat) (s : FileClientRun) : Prop where
  awaited : isWaiting s.point = true → FileSession.Awaited queue n s.session ∧ s.isInterrupted = false
  completed : hasLeft s.point = true → FileSession.Completed queue n s.session

variable {queue : List File} {n : Nat}

theorem Completing.of_waiting (hwaits : isWaiting s.point = true) (h : FileSession.Awaited queue n s.session)
    (hrunning : s.isInterrupted = false) : Completing queue n s where
  awaited _ := ⟨h, hrunning⟩
  completed hleft := by
    cases hpoint : s.point <;> rw [hpoint] at hwaits hleft <;> cases hwaits <;> cases hleft

theorem Completing.of_left (hleft : isWaiting s.point = false) (h : FileSession.Completed queue n s.session) :
    Completing queue n s where
  awaited hwaits := absurd (hleft.symm.trans hwaits) Bool.false_ne_true
  completed _ := h

theorem completing_main (hn : 0 < n) (h : Completing queue n s) (hstep : mainStep senderDisk density s = some t) :
    Completing queue n t := by
  have hmoved : Moved senderDisk density s .main t.session := step_moved hstep
  have hkept (hleft : hasLeft s.point = true) : FileSession.Completed queue n t.session :=
    hmoved.keeps (fun _ _ _ => FileSession.completed_step) (h.completed hleft)
  cases mainStep_move hstep with
  | ready hpoint | waits hpoint =>
    obtain ⟨hawaited, hrunning⟩ := h.awaited (by rw [hpoint]; rfl)
    exact .of_waiting rfl hawaited hrunning
  | timesOut => exact ⟨fun hno => absurd hno Bool.false_ne_true, fun hno => absurd hno Bool.false_ne_true⟩
  | interrupted hpoint hsigint =>
    obtain ⟨_, hrunning⟩ := h.awaited (by rw [hpoint]; rfl)
    exact absurd (hrunning.symm.trans hsigint) Bool.false_ne_true
  | finishes hpoint hdone =>
    obtain ⟨hawaited, _⟩ := h.awaited (by rw [hpoint]; rfl)
    exact .of_left rfl (hmoved.keeps (fun _ _ _ => FileSession.completed_step) (hawaited.completed hn hdone))
  | polls hpoint =>
    obtain ⟨hawaited, hrunning⟩ := h.awaited (by rw [hpoint]; rfl)
    have hpoll : (FileSession.machine senderDisk density).step s.session .poll = some s.polled.session := rfl
    exact .of_waiting rfl (FileSession.awaited_step hawaited FileSession.Action.noConfusion
      (fun _ => FileSession.Action.noConfusion) hpoll) hrunning
  | leaves hpoint | counts hpoint | givesUp hpoint | returns hpoint | stops hpoint | joins hpoint =>
    exact .of_left rfl (hkept (by rw [hpoint]; rfl))

theorem completing_step {a : Action} (hn : 0 < n) (h : Completing queue n s) (ha : Calm s a)
    (hstep : (machine senderDisk density).step s a = some t) : Completing queue n t := by
  have hmoved := step_moved hstep
  have hcompleted (hpoint : t.point = s.point) (hleft : hasLeft t.point = true) :
      FileSession.Completed queue n t.session :=
    hmoved.keeps (fun _ _ _ => FileSession.completed_step) (h.completed (hpoint ▸ hleft))
  cases a with
  | main => exact completing_main hn h hstep
  | signal sig =>
    have hpoint := point_step Action.noConfusion hstep
    refine ⟨fun hwaits => ?_, hcompleted hpoint⟩
    exact absurd (ha (hpoint ▸ hwaits)) Bool.false_ne_true
  | other action =>
    have hpoint := point_step Action.noConfusion hstep
    refine ⟨fun hwaits => ?_, hcompleted hpoint⟩
    have hcalm := ha (hpoint ▸ hwaits)
    obtain ⟨hawaited, hrunning⟩ := h.awaited (hpoint ▸ hwaits)
    obtain ⟨_, hstep⟩ := Option.ite_none_right_eq_some.mp hstep
    obtain ⟨session, hsession, hstep⟩ := Option.bind_eq_some_iff.mp hstep
    obtain rfl := Option.some.inj hstep
    refine ⟨FileSession.awaited_step hawaited ?_ ?_ hsession, hrunning⟩
    · rintro rfl
      exact Bool.false_ne_true hcalm
    · rintro i rfl
      exact Bool.false_ne_true hcalm

theorem completing_start {config serverConfig : TestConfig} {testId : UInt32} {available : Option Nat} {disk : Disk}
    {first : FileSession} (h : FileSession.start senderDisk config serverConfig testId available disk = .ok first)
    (haccepted : FileSession.denied senderDisk config testId available = false) :
    Completing (uniqueFiles senderDisk 0 [] config.files) config.numStreams.toNat { session := first } := by
  obtain ⟨_, hsender⟩ := FileSession.start_cases h
  rw [haccepted, if_neg Bool.false_ne_true] at hsender
  have haccounted := FileSession.accounted_start h (steady_start h).role
  rw [hsender] at haccounted
  refine .of_waiting rfl ⟨haccounted, ?_, fun stream hmem => ?_, ?_⟩ rfl
  · rw [hsender]
    exact (List.length_map _).trans List.length_range
  · rw [hsender] at hmem
    obtain ⟨_, _, rfl⟩ := List.mem_map.mp hmem
    rfl
  · rw [hsender]
    rfl

/-- A file client whose request was accepted, and that nothing disturbs while it waits, leaves its interval loop only when every file of its queue was fetched in order, every thread has ended by itself and nothing waits for an acknowledgement. Whatever happens afterwards changes none of this. -/
theorem file_client_completes {config serverConfig : TestConfig} {testId : UInt32} {available : Option Nat} {disk : Disk}
    {first : FileSession} {acts : List Action}
    (hstart : FileSession.start senderDisk config serverConfig testId available disk = .ok first)
    (haccepted : FileSession.denied senderDisk config testId available = false) (hstreams : 0 < config.numStreams)
    (hcalm : (machine senderDisk density).Respects Calm { session := first } acts)
    (hrun : (machine senderDisk density).run { session := first } acts = some s) (hleft : hasLeft s.point = true) :
    s.session.fetched.map Prod.snd = uniqueFiles senderDisk 0 [] config.files ∧
      (∀ stream ∈ s.session.sender.streams, stream.thread = .finished) ∧
      ∀ i < config.numStreams.toNat, s.session.unacked i = false := by
  have hn : 0 < config.numStreams.toNat := Int.lt_toNat.mpr hstreams
  have hcompleting : Completing (uniqueFiles senderDisk 0 [] config.files) config.numStreams.toNat s :=
    Machine.run_invariant (fun _ _ _ hs ha hstep => completing_step hn hs ha hstep)
      (completing_start hstart haccepted) hcalm hrun
  obtain ⟨hfetched, hfinished, hacked⟩ := hcompleting.completed hleft
  exact ⟨hfetched, hfinished, hacked⟩

theorem file_client_completes_acked :
    ∃ first s, FileSession.oneFileStart = .ok first ∧
      (machine FileSession.oneFile .failing).run { session := first } (untilDone ++ untilStopped) = some s ∧
      s.point = .stopped ∧ s.session.fetched.map Prod.snd = uniqueFiles FileSession.oneFile 0 [] [ofText "a"] ∧
      s.session.unacked 0 = false := by
  have hrun : FileSession.oneFileStart.toOption.bind (fun first =>
      ((machine FileSession.oneFile .failing).run { session := first } (untilDone ++ untilStopped)).map (·.point))
      = some .stopped := by decide +kernel
  obtain ⟨first, hstart, hrun⟩ := Option.bind_eq_some_iff.mp hrun
  obtain ⟨s, hs, hpoint⟩ := Option.map_eq_some_iff.mp hrun
  have hstart := Fault.toOption_eq_some.mp hstart
  have hall : ∀ a ∈ untilDone ++ untilStopped, a.isCalm = true := by decide
  have hmem : (machine FileSession.oneFile .failing).Respects (fun _ a => a.isCalm = true) { session := first }
      (untilDone ++ untilStopped) := Machine.respects_of_mem hall _
  have hcalm : (machine FileSession.oneFile .failing).Respects Calm { session := first } (untilDone ++ untilStopped) :=
    hmem.imp (fun u a (ha : a.isCalm = true) => (fun _ => ha : Calm u a))
  have hleft : hasLeft s.point = true := by
    rw [hpoint]
    rfl
  obtain ⟨hfetched, _, hacked⟩ := file_client_completes hstart (by decide) (by decide) hcalm hs hleft
  exact ⟨first, s, hstart, hs, hpoint, hfetched, hacked 0 (by decide)⟩

end FileClientRun

end BatsIperf
