import BatsIperf.Foundation.Machine
import BatsIperf.Foundation.Narrowing
import BatsIperf.Stream.IperfStream

/-!
# The sender of the client example

`StartSend` waits for a connection, asks for a new one after a failure, and hands blocks over until its quota is used up. It takes one access to the shared flags a step, and the callbacks of the connection and the signal come in between in any order.
-/

namespace BatsIperf

/-- Where `StartSend` is: in the loop that waits for a connection, between the loops, in the loop that sends, and behind it. -/
inductive SenderPlace
  | waiting | signalCheck | slept | clearing | reconnecting | counting
  | ready
  | sending | sendingSignal | writableCheck | handing
  | returned
  deriving DecidableEq

structure BATSSender where
  sendQuota : UInt64
  recvCnt : UInt64 := 0
  timeoutCnt : UInt32 := 0
  curIdealLength : Int := 0
  isConnectFailed : Bool := false
  isConnected : Bool := false
  isWritable : Bool := false
  batsConnection : Option Nat := none
  stopSignalValue : Int := 0
  place : SenderPlace := .waiting
  /-- The connection and the length of each block that `SendData` has accepted. -/
  sends : List (Nat × Int) := []
  /-- The passes of the loop that waits, and the calls of `StartConnect` in it. -/
  passes : Nat := 0
  reconnects : Nat := 0
  /-- The events that set `is_connect_failed`, and whether a connection was taken away or the user has interrupted. -/
  failures : Nat := 0
  wasLost : Bool := false
  wasInterrupted : Bool := false
  deriving DecidableEq

namespace BATSSender

def defaultBufferMaxSz : Int := 150000

def maxTimeoutCnt : UInt32 := 30

def sigint : Int := 2

/-- The sender after `StartConnect`, before `StartSend`. -/
def start (sendCnt : Int) : BATSSender where
  sendQuota := .ofNat (Narrowing.unsigned 64 sendCnt)

def updateDataBlockLength (s : BATSSender) (idealLength : Int) : Except Fault BATSSender := do
  Fault.require .failedAssert (0 < idealLength ∧ idealLength ≤ defaultBufferMaxSz)
  return { s with curIdealLength := idealLength }

def connectionCallback (s : BATSSender) (newConn : Nat) : ConnEvent → Except Fault BATSSender
  | .failed => .ok { s with isConnectFailed := true, failures := s.failures + 1 }
  | .closed => .ok { s with isConnected := false, wasLost := true }
  | .shutdownByPeer =>
    .ok { s with isConnected := false, isConnectFailed := true, failures := s.failures + 1, wasLost := true }
  | .established idealBufferLength => do
    let s ← { s with batsConnection := some newConn }.updateDataBlockLength idealBufferLength
    return { s with isConnected := true }
  | .bufferFull => .ok { s with isWritable := false }
  | .writable => .ok { s with isWritable := true }
  | .idealBufferLength length => s.updateDataBlockLength length
  | .none | .timeout | .sendComplete | .sendDataError | .error | .alreadyConnected | .allDataAcked => .ok s

/-- One access of `StartSend` to what it shares with the callbacks. -/
def startSend (s : BATSSender) (sendOk : Bool) : Except Fault BATSSender :=
  match s.place with
  | .waiting => .ok { s with place := if s.isConnected then .ready else .signalCheck }
  | .signalCheck => .ok { s with place := if s.stopSignalValue = sigint then .ready else .slept }
  | .slept =>
    if s.isConnectFailed ∧ maxTimeoutCnt ≤ s.timeoutCnt then .ok { s with timeoutCnt := 0, place := .clearing }
    else .ok { s with place := .counting }
  | .clearing => .ok { s with isConnectFailed := false, place := .reconnecting }
  | .reconnecting => .ok { s with reconnects := s.reconnects + 1, place := .counting }
  | .counting => .ok { s with timeoutCnt := s.timeoutCnt + 1, passes := s.passes + 1, place := .waiting }
  | .ready =>
    .ok { s with sendQuota := if s.sendQuota = 0 then .ofNat (2 ^ 64 - 1) else s.sendQuota, place := .sending }
  | .sending => .ok { s with place := if s.isConnected ∧ s.sendQuota ≠ 0 then .sendingSignal else .returned }
  | .sendingSignal => .ok { s with place := if s.stopSignalValue = sigint then .returned else .writableCheck }
  | .writableCheck => .ok { s with place := if s.isWritable then .handing else .sending }
  | .handing => do
    let connection ← Fault.need .nullPointer s.batsConnection
    if sendOk then
      return { s with
        sends := s.sends ++ [(connection, s.curIdealLength)]
        sendQuota := s.sendQuota - 1
        place := .sending }
    else return { s with place := .sending }
  | .returned => .error .noProgress

inductive Action
  | event (connection : Nat) (event : ConnEvent)
  | dataReceived
  | signal (sig : Int)
  | thread (sendOk : Bool)
  deriving DecidableEq

def Action.isThread : Action → Bool
  | .thread _ => true
  | _ => false

def step (s : BATSSender) : Action → Option BATSSender
  | .event connection event => (s.connectionCallback connection event).toOption
  | .dataReceived => some { s with recvCnt := s.recvCnt + 1 }
  | .signal sig =>
    some { s with stopSignalValue := sig, wasInterrupted := s.wasInterrupted || decide (sig = sigint) }
  | .thread sendOk => (s.startSend sendOk).toOption

def machine : Machine BATSSender Action where
  step := step

/-! ### What the thread relies on -/

/-- How many blocks are to be sent. A count of zero stands for as many as the counter can hold. -/
def quotaOf (sendCnt : Int) : Nat :=
  if Narrowing.unsigned 64 sendCnt = 0 then 2 ^ 64 - 1 else Narrowing.unsigned 64 sendCnt

def IsIdeal (length : Int) : Prop := 0 < length ∧ length ≤ defaultBufferMaxSz

def Here (sendCnt : Int) (s : BATSSender) : Prop :=
  match s.place with
  | .waiting | .signalCheck | .slept | .clearing | .reconnecting | .counting =>
    s.sends = [] ∧ s.sendQuota = (start sendCnt).sendQuota
  | .ready =>
    s.sends = [] ∧ s.sendQuota = (start sendCnt).sendQuota ∧ (s.wasInterrupted = true ∨ s.batsConnection.isSome = true)
  | .sending =>
    s.sends.length + s.sendQuota.toNat = quotaOf sendCnt ∧ (s.wasInterrupted = true ∨ s.batsConnection.isSome = true)
  | .sendingSignal | .writableCheck | .handing =>
    s.sends.length + s.sendQuota.toNat = quotaOf sendCnt ∧ s.batsConnection.isSome = true ∧ s.sendQuota ≠ 0
  | .returned =>
    s.sends.length + s.sendQuota.toNat = quotaOf sendCnt ∧
      (s.sendQuota = 0 ∨ s.wasInterrupted = true ∨ s.wasLost = true)

/-- A reconnect that is decided and not yet counted. -/
def pending (s : BATSSender) : Nat := if s.place = .clearing ∨ s.place = .reconnecting then 1 else 0

/-- The failures that a reconnect may still answer, or is about to. -/
def unanswered (s : BATSSender) : Nat := s.isConnectFailed.toNat + if s.place = .reconnecting then 1 else 0

structure Sound (sendCnt : Int) (s : BATSSender) : Prop where
  connected : s.isConnected = true → s.batsConnection.isSome = true
  lost : s.batsConnection.isSome = true → s.isConnected = false → s.wasLost = true
  interrupted : s.stopSignalValue = sigint → s.wasInterrupted = true
  ideal : s.batsConnection.isSome = true → IsIdeal s.curIdealLength
  sends : ∀ block ∈ s.sends, IsIdeal block.2
  here : Here sendCnt s
  pace : 30 * (s.reconnects + s.pending) + s.timeoutCnt.toNat ≤ s.passes
  clearing : s.place = .clearing → s.isConnectFailed = true
  answered : s.reconnects + s.unanswered ≤ s.failures

theorem sound_start (sendCnt : Int) : Sound sendCnt (start sendCnt) where
  connected := fun h => absurd h Bool.false_ne_true
  lost := fun h => absurd h Bool.false_ne_true
  interrupted := fun (h : (0 : Int) = sigint) => absurd h (by decide)
  ideal := fun h => absurd h Bool.false_ne_true
  sends := List.forall_mem_nil _
  here := ⟨rfl, rfl⟩
  pace := Nat.le_refl 0
  clearing := fun (h : SenderPlace.waiting = .clearing) => absurd h (by decide)
  answered := Nat.le_refl 0

/-! ### Beside the thread -/

structure Beside (s t : BATSSender) : Prop where
  place : t.place = s.place
  sends : t.sends = s.sends
  sendQuota : t.sendQuota = s.sendQuota
  timeoutCnt : t.timeoutCnt = s.timeoutCnt
  passes : t.passes = s.passes
  reconnects : t.reconnects = s.reconnects
  batsConnection : s.batsConnection.isSome = true → t.batsConnection.isSome = true
  wasLost : s.wasLost = true → t.wasLost = true
  wasInterrupted : s.wasInterrupted = true → t.wasInterrupted = true

theorem Beside.here {s t : BATSSender} {sendCnt : Int} (h : Beside s t) (hhere : Here sendCnt s) : Here sendCnt t := by
  have hreached : s.wasInterrupted = true ∨ s.batsConnection.isSome = true →
      t.wasInterrupted = true ∨ t.batsConnection.isSome = true := Or.imp h.wasInterrupted h.batsConnection
  unfold Here at hhere ⊢
  rw [h.place, h.sends, h.sendQuota]
  cases hplace : s.place with
  | waiting | signalCheck | slept | clearing | reconnecting | counting =>
    rw [hplace] at hhere
    exact hhere
  | ready =>
    rw [hplace] at hhere
    exact ⟨hhere.1, hhere.2.1, hreached hhere.2.2⟩
  | sending =>
    rw [hplace] at hhere
    exact ⟨hhere.1, hreached hhere.2⟩
  | sendingSignal | writableCheck | handing =>
    rw [hplace] at hhere
    exact ⟨hhere.1, h.batsConnection hhere.2.1, hhere.2.2⟩
  | returned =>
    rw [hplace] at hhere
    exact ⟨hhere.1, hhere.2.imp_right (Or.imp h.wasInterrupted h.wasLost)⟩

theorem Sound.of_beside {s t : BATSSender} {sendCnt : Int} (h : Sound sendCnt s) (hbeside : Beside s t)
    (hconnected : t.isConnected = true → t.batsConnection.isSome = true)
    (hlost : t.batsConnection.isSome = true → t.isConnected = false → t.wasLost = true)
    (hinterrupted : t.stopSignalValue = sigint → t.wasInterrupted = true)
    (hideal : t.batsConnection.isSome = true → IsIdeal t.curIdealLength)
    (hfailed : t.isConnectFailed = s.isConnectFailed ∧ t.failures = s.failures ∨
      t.isConnectFailed = true ∧ t.failures = s.failures + 1) : Sound sendCnt t where
  connected := hconnected
  lost := hlost
  interrupted := hinterrupted
  ideal := hideal
  sends := hbeside.sends ▸ h.sends
  here := hbeside.here h.here
  pace := by
    rw [pending, hbeside.place, hbeside.timeoutCnt, hbeside.passes, hbeside.reconnects]
    exact h.pace
  clearing := by
    rw [hbeside.place]
    intro hplace
    rcases hfailed with ⟨hsame, _⟩ | ⟨htrue, _⟩
    · exact hsame.trans (h.clearing hplace)
    · exact htrue
  answered := by
    have hbefore := h.answered
    rw [unanswered, hbeside.place, hbeside.reconnects]
    rw [unanswered] at hbefore
    rcases hfailed with ⟨hsame, hcount⟩ | ⟨htrue, hcount⟩
    · rw [hsame, hcount]
      exact hbefore
    · rw [htrue, hcount, Bool.toNat_true]
      omega

theorem updateDataBlockLength_eq {s t : BATSSender} {idealLength : Int} (h : s.updateDataBlockLength idealLength = .ok t) :
    IsIdeal idealLength ∧ t = { s with curIdealLength := idealLength } := by
  obtain ⟨_, hrequire, h⟩ := Fault.bind_eq_ok.mp h
  have hideal : 0 < idealLength ∧ idealLength ≤ defaultBufferMaxSz := Fault.require_eq_ok.mp hrequire
  exact ⟨hideal, (Fault.pure_eq_ok.mp h).symm⟩

theorem sound_event {s t : BATSSender} {sendCnt : Int} {connection : Nat} {event : ConnEvent} (hsound : Sound sendCnt s)
    (h : s.connectionCallback connection event = .ok t) : Sound sendCnt t := by
  have hconnected := hsound.connected
  have hlost := hsound.lost
  have hinterrupted := hsound.interrupted
  have hideal := hsound.ideal
  cases event with
  | failed =>
    obtain rfl := Except.ok.inj h
    exact hsound.of_beside ⟨rfl, rfl, rfl, rfl, rfl, rfl, id, id, id⟩ hconnected hlost hinterrupted hideal (.inr ⟨rfl, rfl⟩)
  | closed =>
    obtain rfl := Except.ok.inj h
    exact hsound.of_beside ⟨rfl, rfl, rfl, rfl, rfl, rfl, id, fun _ => rfl, id⟩
      (fun hfalse => absurd hfalse Bool.false_ne_true) (fun _ _ => rfl) hinterrupted hideal (.inl ⟨rfl, rfl⟩)
  | shutdownByPeer =>
    obtain rfl := Except.ok.inj h
    exact hsound.of_beside ⟨rfl, rfl, rfl, rfl, rfl, rfl, id, fun _ => rfl, id⟩
      (fun hfalse => absurd hfalse Bool.false_ne_true) (fun _ _ => rfl) hinterrupted hideal (.inr ⟨rfl, rfl⟩)
  | established length =>
    obtain ⟨measured, hmeasured, h⟩ := Fault.bind_eq_ok.mp h
    obtain ⟨hlength, rfl⟩ := updateDataBlockLength_eq hmeasured
    obtain rfl := Fault.pure_eq_ok.mp h
    exact hsound.of_beside ⟨rfl, rfl, rfl, rfl, rfl, rfl, fun _ => rfl, id, id⟩ (fun _ => rfl)
      (fun _ hfalse => absurd hfalse.symm Bool.false_ne_true) hinterrupted (fun _ => hlength) (.inl ⟨rfl, rfl⟩)
  | idealBufferLength length =>
    obtain ⟨hlength, rfl⟩ := updateDataBlockLength_eq h
    exact hsound.of_beside ⟨rfl, rfl, rfl, rfl, rfl, rfl, id, id, id⟩ hconnected hlost hinterrupted (fun _ => hlength)
      (.inl ⟨rfl, rfl⟩)
  | bufferFull | writable | none | timeout | sendComplete | sendDataError | error | alreadyConnected | allDataAcked =>
    obtain rfl := Except.ok.inj h
    exact hsound.of_beside ⟨rfl, rfl, rfl, rfl, rfl, rfl, id, id, id⟩ hconnected hlost hinterrupted hideal (.inl ⟨rfl, rfl⟩)

theorem sound_signal {s : BATSSender} {sendCnt : Int} (hsound : Sound sendCnt s) (sig : Int) : Sound sendCnt
    { s with stopSignalValue := sig, wasInterrupted := s.wasInterrupted || decide (sig = sigint) } := by
  refine hsound.of_beside ⟨rfl, rfl, rfl, rfl, rfl, rfl, id, id, fun hbefore => ?_⟩ hsound.connected hsound.lost
    (fun hsig => ?_) hsound.ideal (.inl ⟨rfl, rfl⟩)
  · exact Bool.or_eq_true_iff.mpr (.inl hbefore)
  · exact Bool.or_eq_true_iff.mpr (.inr (decide_eq_true hsig))

/-! ### The thread -/

theorem pending_of_ne {s : BATSSender} (hclearing : s.place ≠ .clearing) (hreconnecting : s.place ≠ .reconnecting) :
    s.pending = 0 := if_neg fun h => h.elim hclearing hreconnecting

theorem unanswered_of_ne {s : BATSSender} (hreconnecting : s.place ≠ .reconnecting) :
    s.unanswered = s.isConnectFailed.toNat := by
  rw [unanswered, if_neg hreconnecting, Nat.add_zero]

theorem Sound.goTo {s : BATSSender} {sendCnt : Int} {place : SenderPlace} {sends : List (Nat × Int)} {sendQuota : UInt64}
    (h : Sound sendCnt s) (hbefore : s.place ≠ .clearing ∧ s.place ≠ .reconnecting)
    (hafter : place ≠ .clearing ∧ place ≠ .reconnecting) (hsends : ∀ block ∈ sends, IsIdeal block.2)
    (hhere : Here sendCnt { s with place := place, sends := sends, sendQuota := sendQuota }) :
    Sound sendCnt { s with place := place, sends := sends, sendQuota := sendQuota } where
  connected := h.connected
  lost := h.lost
  interrupted := h.interrupted
  ideal := h.ideal
  sends := hsends
  here := hhere
  pace := by
    have hpace := h.pace
    rw [pending_of_ne hbefore.1 hbefore.2] at hpace
    rw [pending_of_ne hafter.1 hafter.2]
    exact hpace
  clearing := fun hplace => absurd hplace hafter.1
  answered := by
    have hanswered := h.answered
    rw [unanswered_of_ne hbefore.2] at hanswered
    rw [unanswered_of_ne hafter.2]
    exact hanswered

theorem Sound.moveTo {s : BATSSender} {sendCnt : Int} {place : SenderPlace} (h : Sound sendCnt s)
    (hbefore : s.place ≠ .clearing ∧ s.place ≠ .reconnecting) (hafter : place ≠ .clearing ∧ place ≠ .reconnecting)
    (hhere : Here sendCnt { s with place := place }) : Sound sendCnt { s with place := place } :=
  h.goTo hbefore hafter h.sends hhere

section

variable {s t : BATSSender} {sendCnt : Int} {sendOk : Bool}

theorem sound_waiting (hsound : Sound sendCnt s) (hat : s.place = .waiting) (hsends : s.sends = [])
    (hquota : s.sendQuota = (start sendCnt).sendQuota) (h : s.startSend sendOk = .ok t) : Sound sendCnt t := by
  unfold startSend at h
  rw [hat] at h
  obtain rfl := Except.ok.inj h
  split
  · rename_i hconnected
    exact hsound.moveTo (by simp [hat]) (by decide) ⟨hsends, hquota, .inr (hsound.connected hconnected)⟩
  · exact hsound.moveTo (by simp [hat]) (by decide) ⟨hsends, hquota⟩

theorem sound_signalCheck (hsound : Sound sendCnt s) (hat : s.place = .signalCheck) (hsends : s.sends = [])
    (hquota : s.sendQuota = (start sendCnt).sendQuota) (h : s.startSend sendOk = .ok t) : Sound sendCnt t := by
  unfold startSend at h
  rw [hat] at h
  obtain rfl := Except.ok.inj h
  split
  · rename_i hsignal
    exact hsound.moveTo (by simp [hat]) (by decide) ⟨hsends, hquota, .inl (hsound.interrupted hsignal)⟩
  · exact hsound.moveTo (by simp [hat]) (by decide) ⟨hsends, hquota⟩

theorem sound_slept (hsound : Sound sendCnt s) (hat : s.place = .slept) (hsends : s.sends = [])
    (hquota : s.sendQuota = (start sendCnt).sendQuota) (h : s.startSend sendOk = .ok t) : Sound sendCnt t := by
  have hpace := hsound.pace
  have hanswered := hsound.answered
  unfold startSend at h
  rw [hat] at h
  dsimp only at h
  split at h
  · rename_i hdue
    obtain rfl := Except.ok.inj h
    have hthirty : 30 ≤ s.timeoutCnt.toNat := UInt32.le_iff_toNat_le.mp hdue.2
    refine ⟨hsound.connected, hsound.lost, hsound.interrupted, hsound.ideal, hsound.sends, ⟨hsends, hquota⟩, ?_,
      fun _ => hdue.1, ?_⟩
    · rw [pending_of_ne (by simp [hat]) (by simp [hat])] at hpace
      change 30 * (s.reconnects + 1) + 0 ≤ s.passes
      omega
    · rw [unanswered_of_ne (by simp [hat])] at hanswered
      rw [unanswered_of_ne (by simp)]
      exact hanswered
  · obtain rfl := Except.ok.inj h
    exact hsound.moveTo (by simp [hat]) (by decide) ⟨hsends, hquota⟩

theorem sound_clearing (hsound : Sound sendCnt s) (hat : s.place = .clearing) (hsends : s.sends = [])
    (hquota : s.sendQuota = (start sendCnt).sendQuota) (h : s.startSend sendOk = .ok t) : Sound sendCnt t := by
  have hpace := hsound.pace
  have hanswered := hsound.answered
  unfold startSend at h
  rw [hat] at h
  obtain rfl := Except.ok.inj h
  refine ⟨hsound.connected, hsound.lost, hsound.interrupted, hsound.ideal, hsound.sends, ⟨hsends, hquota⟩, ?_,
    fun (hplace : SenderPlace.reconnecting = .clearing) => absurd hplace (by decide), ?_⟩
  · have hone : s.pending = 1 := if_pos (.inl hat)
    rw [hone] at hpace
    exact hpace
  · rw [unanswered_of_ne (by simp [hat]), hsound.clearing hat] at hanswered
    exact hanswered

theorem sound_reconnecting (hsound : Sound sendCnt s) (hat : s.place = .reconnecting) (hsends : s.sends = [])
    (hquota : s.sendQuota = (start sendCnt).sendQuota) (h : s.startSend sendOk = .ok t) : Sound sendCnt t := by
  have hpace := hsound.pace
  have hanswered := hsound.answered
  unfold startSend at h
  rw [hat] at h
  obtain rfl := Except.ok.inj h
  refine ⟨hsound.connected, hsound.lost, hsound.interrupted, hsound.ideal, hsound.sends, ⟨hsends, hquota⟩, ?_,
    fun (hplace : SenderPlace.counting = .clearing) => absurd hplace (by decide), ?_⟩
  · have hone : s.pending = 1 := if_pos (.inr hat)
    rw [hone] at hpace
    exact hpace
  · rw [unanswered, if_pos hat] at hanswered
    rw [unanswered_of_ne (by simp)]
    dsimp only
    omega

theorem sound_counting (hsound : Sound sendCnt s) (hat : s.place = .counting) (hsends : s.sends = [])
    (hquota : s.sendQuota = (start sendCnt).sendQuota) (h : s.startSend sendOk = .ok t) : Sound sendCnt t := by
  have hpace := hsound.pace
  have hanswered := hsound.answered
  unfold startSend at h
  rw [hat] at h
  obtain rfl := Except.ok.inj h
  refine ⟨hsound.connected, hsound.lost, hsound.interrupted, hsound.ideal, hsound.sends, ⟨hsends, hquota⟩, ?_,
    fun (hplace : SenderPlace.waiting = .clearing) => absurd hplace (by decide), ?_⟩
  · rw [pending_of_ne (by simp [hat]) (by simp [hat])] at hpace
    rw [pending_of_ne (by simp) (by simp)]
    have hcount : (s.timeoutCnt + 1).toNat ≤ s.timeoutCnt.toNat + 1 := by
      rw [UInt32.toNat_add]
      exact Nat.mod_le _ _
    dsimp only
    omega
  · rw [unanswered_of_ne (by simp [hat])] at hanswered
    rw [unanswered_of_ne (by simp)]
    exact hanswered

theorem toNat_start_sendQuota (sendCnt : Int) :
    (start sendCnt).sendQuota.toNat = Narrowing.unsigned 64 sendCnt :=
  UInt64.toNat_ofNat_of_lt' (Narrowing.unsigned_lt 64 sendCnt)

theorem toNat_firstQuota (sendCnt : Int) : (if (start sendCnt).sendQuota = 0 then UInt64.ofNat (2 ^ 64 - 1)
    else (start sendCnt).sendQuota).toNat = quotaOf sendCnt := by
  have hzero : (start sendCnt).sendQuota = 0 ↔ Narrowing.unsigned 64 sendCnt = 0 := by
    rw [← UInt64.toNat_inj, toNat_start_sendQuota]
    rfl
  unfold quotaOf
  by_cases hnone : Narrowing.unsigned 64 sendCnt = 0
  · rw [if_pos hnone, if_pos (hzero.mpr hnone)]
    rfl
  · rw [if_neg hnone, if_neg fun h => hnone (hzero.mp h), toNat_start_sendQuota]

theorem sound_ready (hsound : Sound sendCnt s) (hat : s.place = .ready) (h : s.startSend sendOk = .ok t) :
    Sound sendCnt t := by
  have hhere := hsound.here
  unfold Here at hhere
  unfold startSend at h
  rw [hat] at h hhere
  obtain ⟨hsends, hquota, hreached⟩ := hhere
  obtain rfl := Except.ok.inj h
  refine hsound.goTo (by simp [hat]) (by decide) hsound.sends ⟨?_, hreached⟩
  dsimp only
  rw [hsends, hquota, toNat_firstQuota, List.length_nil, Nat.zero_add]

theorem sound_sending (hsound : Sound sendCnt s) (hat : s.place = .sending) (h : s.startSend sendOk = .ok t) :
    Sound sendCnt t := by
  have hhere := hsound.here
  unfold Here at hhere
  unfold startSend at h
  rw [hat] at h hhere
  obtain ⟨hcounted, hreached⟩ := hhere
  obtain rfl := Except.ok.inj h
  split
  · rename_i hgoes
    exact hsound.moveTo (by simp [hat]) (by decide) ⟨hcounted, hsound.connected hgoes.1, hgoes.2⟩
  · rename_i hleaves
    refine hsound.moveTo (by simp [hat]) (by decide) ⟨hcounted, ?_⟩
    by_cases hnone : s.sendQuota = 0
    · exact .inl hnone
    · -- the connection is not there any more, or the user has ended the wait for one
      have hgone : s.isConnected = false := Bool.eq_false_iff.mpr fun hconnected => hleaves ⟨hconnected, hnone⟩
      exact .inr (hreached.imp_right fun hconnection => hsound.lost hconnection hgone)

theorem sound_sendingSignal (hsound : Sound sendCnt s) (hat : s.place = .sendingSignal) (h : s.startSend sendOk = .ok t) :
    Sound sendCnt t := by
  have hhere := hsound.here
  unfold Here at hhere
  unfold startSend at h
  rw [hat] at h hhere
  obtain ⟨hcounted, hconnection, hnonzero⟩ := hhere
  obtain rfl := Except.ok.inj h
  split
  · rename_i hsignal
    exact hsound.moveTo (by simp [hat]) (by decide) ⟨hcounted, .inr (.inl (hsound.interrupted hsignal))⟩
  · exact hsound.moveTo (by simp [hat]) (by decide) ⟨hcounted, hconnection, hnonzero⟩

theorem sound_writableCheck (hsound : Sound sendCnt s) (hat : s.place = .writableCheck) (h : s.startSend sendOk = .ok t) :
    Sound sendCnt t := by
  have hhere := hsound.here
  unfold Here at hhere
  unfold startSend at h
  rw [hat] at h hhere
  obtain ⟨hcounted, hconnection, hnonzero⟩ := hhere
  obtain rfl := Except.ok.inj h
  split
  · exact hsound.moveTo (by simp [hat]) (by decide) ⟨hcounted, hconnection, hnonzero⟩
  · exact hsound.moveTo (by simp [hat]) (by decide) ⟨hcounted, .inr hconnection⟩

theorem sound_handing (hsound : Sound sendCnt s) (hat : s.place = .handing) (h : s.startSend sendOk = .ok t) :
    Sound sendCnt t := by
  have hhere := hsound.here
  unfold Here at hhere
  unfold startSend at h
  rw [hat] at h hhere
  obtain ⟨hcounted, hconnection, hnonzero⟩ := hhere
  obtain ⟨connection, _, h⟩ := Fault.bind_eq_ok.mp h
  split at h
  · obtain rfl := Fault.pure_eq_ok.mp h
    refine hsound.goTo (by simp [hat]) (by decide) (fun block hmem => ?_) ⟨?_, .inr hconnection⟩
    · rcases List.mem_append.mp hmem with hold | hnew
      · exact hsound.sends block hold
      · rw [List.mem_singleton.mp hnew]
        exact hsound.ideal hconnection
    · have hone : 1 ≤ s.sendQuota.toNat := by
        have hne : s.sendQuota.toNat ≠ 0 := fun hzero => hnonzero (UInt64.toNat_inj.mp hzero)
        omega
      have hless : (s.sendQuota - 1).toNat = s.sendQuota.toNat - 1 := UInt64.toNat_sub_of_le _ _ hone
      dsimp only
      rw [List.length_append, List.length_singleton, hless]
      omega
  · obtain rfl := Fault.pure_eq_ok.mp h
    exact hsound.moveTo (by simp [hat]) (by decide) ⟨hcounted, .inr hconnection⟩

theorem sound_thread (hsound : Sound sendCnt s) (h : s.startSend sendOk = .ok t) : Sound sendCnt t := by
  have hhere := hsound.here
  unfold Here at hhere
  cases hat : s.place with
  | waiting =>
    rw [hat] at hhere
    exact sound_waiting hsound hat hhere.1 hhere.2 h
  | signalCheck =>
    rw [hat] at hhere
    exact sound_signalCheck hsound hat hhere.1 hhere.2 h
  | slept =>
    rw [hat] at hhere
    exact sound_slept hsound hat hhere.1 hhere.2 h
  | clearing =>
    rw [hat] at hhere
    exact sound_clearing hsound hat hhere.1 hhere.2 h
  | reconnecting =>
    rw [hat] at hhere
    exact sound_reconnecting hsound hat hhere.1 hhere.2 h
  | counting =>
    rw [hat] at hhere
    exact sound_counting hsound hat hhere.1 hhere.2 h
  | ready => exact sound_ready hsound hat h
  | sending => exact sound_sending hsound hat h
  | sendingSignal => exact sound_sendingSignal hsound hat h
  | writableCheck => exact sound_writableCheck hsound hat h
  | handing => exact sound_handing hsound hat h
  | returned =>
    rw [startSend, hat] at h
    exact nomatch h

end

theorem sound_step {s t : BATSSender} {sendCnt : Int} {a : Action} (hsound : Sound sendCnt s)
    (h : machine.step s a = some t) : Sound sendCnt t := by
  cases a with
  | event => exact sound_event hsound (Fault.toOption_eq_some.mp h)
  | dataReceived =>
    obtain rfl := Option.some.inj h
    exact hsound.of_beside ⟨rfl, rfl, rfl, rfl, rfl, rfl, id, id, id⟩ hsound.connected hsound.lost hsound.interrupted
      hsound.ideal (.inl ⟨rfl, rfl⟩)
  | signal sig =>
    obtain rfl := Option.some.inj h
    exact sound_signal hsound sig
  | thread => exact sound_thread hsound (Fault.toOption_eq_some.mp h)

theorem thread_isSome {s : BATSSender} {sendCnt : Int} (hsound : Sound sendCnt s) (hplace : s.place ≠ .returned)
    (sendOk : Bool) : (machine.step s (.thread sendOk)).isSome = true := by
  have hok : ∃ t, s.startSend sendOk = .ok t := by
    have hhere := hsound.here
    unfold Here at hhere
    unfold startSend
    cases hat : s.place with
    | returned => exact absurd hat hplace
    | handing =>
      rw [hat] at hhere
      obtain ⟨connection, hconnection⟩ := Option.isSome_iff_exists.mp hhere.2.1
      dsimp only
      rw [hconnection, Fault.need_some, Fault.ok_bind]
      split <;> exact ⟨_, rfl⟩
    | slept =>
      dsimp only
      split <;> exact ⟨_, rfl⟩
    | waiting | signalCheck | clearing | reconnecting | counting | ready | sending | sendingSignal | writableCheck =>
      exact ⟨_, rfl⟩
  obtain ⟨t, ht⟩ := hok
  exact Option.isSome_iff_exists.mpr ⟨t, Fault.toOption_eq_some.mpr ht⟩

/-- The thread is behind the line that sets a quota of zero. -/
def hasQuota : SenderPlace → Bool
  | .sending | .sendingSignal | .writableCheck | .handing | .returned => true
  | .waiting | .signalCheck | .slept | .clearing | .reconnecting | .counting | .ready => false

theorem Here.quota {s : BATSSender} {sendCnt : Int} (h : Here sendCnt s) :
    (hasQuota s.place = true → s.sends.length + s.sendQuota.toNat = quotaOf sendCnt) ∧
      (hasQuota s.place = false → s.sends = []) := by
  unfold Here at h
  cases hplace : s.place with
  | waiting | signalCheck | slept | clearing | reconnecting | counting | ready =>
    rw [hplace] at h
    exact ⟨fun hno => absurd hno Bool.false_ne_true, fun _ => h.1⟩
  | sending | sendingSignal | writableCheck | handing | returned =>
    rw [hplace] at h
    exact ⟨fun _ => h.1, fun hno => absurd hno.symm Bool.false_ne_true⟩

/-- In every order of the events, the signals and the accesses of the thread: the blocks that are accepted come off the quota one by one and have lengths that the buffer holds, the thread is held up nowhere before it returns, and it returns with the quota used up, after an interrupt, or after the loss of a connection. It reconnects at most once in thirty passes, and for a failure of its own each time. -/
theorem quota_sent {sendCnt : Int} {acts : List Action} {s : BATSSender} (hrun : machine.run (start sendCnt) acts = some s) :
    (hasQuota s.place = true → s.sends.length + s.sendQuota.toNat = quotaOf sendCnt) ∧
      (hasQuota s.place = false → s.sends = []) ∧ (∀ block ∈ s.sends, IsIdeal block.2) ∧
      (s.place ≠ .returned → ∀ sendOk, (machine.step s (.thread sendOk)).isSome = true) ∧
      (s.place = .returned → s.wasInterrupted = false → s.wasLost = false → s.sends.length = quotaOf sendCnt) ∧
      30 * s.reconnects ≤ s.passes ∧ s.reconnects ≤ s.failures := by
  have hsound : Sound sendCnt s := Machine.run_preserves (fun _ _ _ => sound_step) (sound_start sendCnt) hrun
  have hpace := hsound.pace
  have hanswered := hsound.answered
  have hhere := hsound.here
  unfold Here at hhere
  obtain ⟨hcounts, hnone⟩ := hsound.here.quota
  refine ⟨hcounts, hnone, hsound.sends, fun hplace => thread_isSome hsound hplace, ?_, by omega, by omega⟩
  intro hplace hrunning hkept
  rw [hplace] at hhere
  obtain ⟨hcounted, hnone | hsignal | hlost⟩ := hhere
  · rw [hnone] at hcounted
    exact hcounted
  · exact absurd (hsignal.symm.trans hrunning) (by decide)
  · exact absurd (hlost.symm.trans hkept) (by decide)

/-- Two blocks are asked for. The first attempt to connect fails, the second one is accepted, and a send is refused in between. -/
def untilSent : List Action :=
  (.event 0 .failed :: (List.replicate 30 [.thread true, .thread true, .thread true, .thread true]).flatten) ++
    (List.replicate 6 (.thread true) ++ [.event 1 (.established 1000), .event 1 .writable]) ++
    (List.replicate 6 (.thread true) ++ (List.replicate 4 (.thread false) ++ List.replicate 5 (.thread true)))

theorem quota_sent_two :
    ∃ s, machine.run (start 2) untilSent = some s ∧ s.place = .returned ∧ s.sends.length = quotaOf 2 ∧
      s.reconnects = 1 ∧ 30 * s.reconnects ≤ s.passes ∧ s.reconnects ≤ s.failures := by
  have hrun : (machine.run (start 2) untilSent).map (fun s =>
      (s.place, s.wasInterrupted, s.wasLost, s.reconnects)) = some (.returned, false, false, 1) := by decide +kernel
  obtain ⟨s, hs, hflags⟩ := Option.map_eq_some_iff.mp hrun
  obtain ⟨hplace, hflags⟩ := Prod.mk.inj hflags
  obtain ⟨hinterrupted, hflags⟩ := Prod.mk.inj hflags
  obtain ⟨hlost, hreconnects⟩ := Prod.mk.inj hflags
  obtain ⟨_, _, _, _, hall, hpace, hfailures⟩ := quota_sent hs
  exact ⟨s, hs, hplace, hall hplace hinterrupted hlost, hreconnects, hpace, hfailures⟩

/-! ### After an interrupt -/

end BATSSender

/-- How many accesses the thread is away from its return at most, once the user has interrupted. -/
def SenderPlace.stepsLeft : SenderPlace → Nat
  | .returned => 0
  | .sendingSignal => 1
  | .sending => 2
  | .handing | .ready => 3
  | .writableCheck | .signalCheck => 4
  | .waiting => 5
  | .counting => 6
  | .reconnecting => 7
  | .clearing => 8
  | .slept => 9

def SenderPlace.blocksLeft : SenderPlace → Nat
  | .writableCheck | .handing => 1
  | _ => 0

namespace BATSSender

/-- A thread that is nearer to its return, with the blocks that it may still send. -/
structure Nearer (s t : BATSSender) : Prop where
  stopSignalValue : t.stopSignalValue = s.stopSignalValue
  steps : t.place.stepsLeft < s.place.stepsLeft
  blocks : t.sends.length + t.place.blocksLeft ≤ s.sends.length + s.place.blocksLeft

theorem nearer_moveTo {s : BATSSender} {place : SenderPlace} (hsteps : place.stepsLeft < s.place.stepsLeft)
    (hblocks : place.blocksLeft ≤ s.place.blocksLeft) : Nearer s { s with place := place } :=
  ⟨rfl, hsteps, Nat.add_le_add_left hblocks _⟩

theorem startSend_nearer {s t : BATSSender} {sendOk : Bool} (hstop : s.stopSignalValue = sigint)
    (h : s.startSend sendOk = .ok t) : Nearer s t := by
  unfold startSend at h
  cases hat : s.place with
  | waiting =>
    rw [hat] at h
    obtain rfl := Except.ok.inj h
    split <;> exact nearer_moveTo (by rw [hat]; decide) (by rw [hat]; decide)
  | signalCheck =>
    rw [hat] at h
    obtain rfl := Except.ok.inj h
    rw [if_pos hstop]
    exact nearer_moveTo (by rw [hat]; decide) (by rw [hat]; decide)
  | slept =>
    rw [hat] at h
    dsimp only at h
    split at h <;> obtain rfl := Except.ok.inj h
    · exact ⟨rfl, by rw [hat]; exact Nat.le_of_ble_eq_true rfl, by rw [hat]; exact Nat.le_refl _⟩
    · exact nearer_moveTo (by rw [hat]; decide) (by rw [hat]; decide)
  | clearing | reconnecting | counting | ready =>
    rw [hat] at h
    obtain rfl := Except.ok.inj h
    exact ⟨rfl, by rw [hat]; exact Nat.le_of_ble_eq_true rfl, by rw [hat]; exact Nat.le_refl _⟩
  | sending =>
    rw [hat] at h
    obtain rfl := Except.ok.inj h
    split <;> exact nearer_moveTo (by rw [hat]; decide) (by rw [hat]; decide)
  | sendingSignal =>
    rw [hat] at h
    obtain rfl := Except.ok.inj h
    rw [if_pos hstop]
    exact nearer_moveTo (by rw [hat]; decide) (by rw [hat]; decide)
  | writableCheck =>
    rw [hat] at h
    obtain rfl := Except.ok.inj h
    split <;> exact nearer_moveTo (by rw [hat]; decide) (by rw [hat]; decide)
  | handing =>
    rw [hat] at h
    obtain ⟨connection, _, h⟩ := Fault.bind_eq_ok.mp h
    split at h <;> obtain rfl := Fault.pure_eq_ok.mp h
    · refine ⟨rfl, by rw [hat]; exact Nat.le_of_ble_eq_true rfl, ?_⟩
      rw [hat, List.length_append]
      exact Nat.le_refl _
    · exact nearer_moveTo (by rw [hat]; decide) (by rw [hat]; decide)
  | returned =>
    rw [hat] at h
    exact nomatch h

theorem connectionCallback_kept {s t : BATSSender} {connection : Nat} {event : ConnEvent}
    (h : s.connectionCallback connection event = .ok t) :
    t.stopSignalValue = s.stopSignalValue ∧ t.place = s.place ∧ t.sends = s.sends := by
  cases event with
  | established length =>
    obtain ⟨measured, hmeasured, h⟩ := Fault.bind_eq_ok.mp h
    obtain ⟨_, rfl⟩ := updateDataBlockLength_eq hmeasured
    obtain rfl := Fault.pure_eq_ok.mp h
    exact ⟨rfl, rfl, rfl⟩
  | idealBufferLength length =>
    obtain ⟨_, rfl⟩ := updateDataBlockLength_eq h
    exact ⟨rfl, rfl, rfl⟩
  | failed | closed | shutdownByPeer | bufferFull | writable | none | timeout | sendComplete | sendDataError | error
    | alreadyConnected | allDataAcked =>
    obtain rfl := Except.ok.inj h
    exact ⟨rfl, rfl, rfl⟩

/-- No other signal takes an interrupt back. -/
def Action.keepsInterrupt : Action → Prop
  | .signal sig => sig = sigint
  | _ => True

theorem step_nearer {s t : BATSSender} {a : Action} (hstop : s.stopSignalValue = sigint) (ha : a.keepsInterrupt)
    (h : machine.step s a = some t) : t.stopSignalValue = sigint ∧
      t.sends.length + t.place.blocksLeft ≤ s.sends.length + s.place.blocksLeft ∧
      t.place.stepsLeft ≤ s.place.stepsLeft ∧ (a.isThread = true → t.place.stepsLeft < s.place.stepsLeft) := by
  cases a with
  | event =>
    obtain ⟨hsignal, hplace, hsends⟩ := connectionCallback_kept (Fault.toOption_eq_some.mp h)
    rw [hsignal, hplace, hsends]
    exact ⟨hstop, le_rfl, le_rfl, fun hthread => absurd hthread Bool.false_ne_true⟩
  | dataReceived =>
    obtain rfl := Option.some.inj h
    exact ⟨hstop, le_rfl, le_rfl, fun hthread => absurd hthread Bool.false_ne_true⟩
  | signal sig =>
    obtain rfl := Option.some.inj h
    exact ⟨ha, le_rfl, le_rfl, fun hthread => absurd hthread Bool.false_ne_true⟩
  | thread =>
    have hnearer := startSend_nearer hstop (Fault.toOption_eq_some.mp h)
    exact ⟨hnearer.stopSignalValue.trans hstop, hnearer.blocks, hnearer.steps.le, fun _ => hnearer.steps⟩

/-- Once the user has interrupted, and as long as no other signal comes, the thread takes nine more accesses at most, whatever the connection does, and sends one more block at most. -/
theorem interrupt_ends {s t : BATSSender} {acts : List Action} (hstop : s.stopSignalValue = sigint)
    (hacts : ∀ a ∈ acts, a.keepsInterrupt) (hrun : machine.run s acts = some t) :
    acts.countP Action.isThread + t.place.stepsLeft ≤ 9 ∧ t.sends.length ≤ s.sends.length + 1 := by
  have hstep (u : BATSSender) (a : Action) (v : BATSSender)
      (hinv : u.stopSignalValue = sigint ∧
        u.sends.length + u.place.blocksLeft ≤ s.sends.length + s.place.blocksLeft) (ha : a.keepsInterrupt)
      (huv : machine.step u a = some v) : (v.stopSignalValue = sigint ∧
        v.sends.length + v.place.blocksLeft ≤ s.sends.length + s.place.blocksLeft) ∧
        v.place.stepsLeft ≤ u.place.stepsLeft ∧ (a.isThread = true → v.place.stepsLeft < u.place.stepsLeft) := by
    obtain ⟨hsignal, hblocks, hsteps⟩ := step_nearer hinv.1 ha huv
    exact ⟨⟨hsignal, hblocks.trans hinv.2⟩, hsteps⟩
  obtain ⟨⟨_, hblocks⟩, hsteps⟩ :=
    Machine.run_rank hstep ⟨hstop, le_rfl⟩ (Machine.respects_of_mem hacts s) hrun
  have hnine : s.place.stepsLeft ≤ 9 := by
    cases s.place <;> exact Nat.le_of_ble_eq_true rfl
  have hone : s.place.blocksLeft ≤ 1 := by
    cases s.place <;> exact Nat.le_of_ble_eq_true rfl
  exact ⟨by omega, by omega⟩

/-- The interrupt comes while a block is handed over. -/
def untilHanding : List Action :=
  [.event 0 (.established 1000), .event 0 .writable] ++ List.replicate 5 (.thread true) ++ [.signal sigint]

theorem interrupt_ends_handing :
    ∃ s t, machine.run (start 5) untilHanding = some s ∧ machine.run s (List.replicate 3 (.thread true)) = some t ∧
      t.place = .returned ∧ s.sends.length = 0 ∧ t.sends.length = 1 ∧ t.sends.length ≤ s.sends.length + 1 := by
  have hrun : ((machine.run (start 5) untilHanding).bind fun s =>
      (machine.run s (List.replicate 3 (.thread true))).map fun t =>
        (s.stopSignalValue, s.sends.length, t.place, t.sends.length)) = some (sigint, 0, .returned, 1) := by
    decide +kernel
  obtain ⟨s, hs, hrun⟩ := Option.bind_eq_some_iff.mp hrun
  obtain ⟨t, ht, hrun⟩ := Option.map_eq_some_iff.mp hrun
  obtain ⟨hstop, hrun⟩ := Prod.mk.inj hrun
  obtain ⟨hnone, hrun⟩ := Prod.mk.inj hrun
  obtain ⟨hplace, hone⟩ := Prod.mk.inj hrun
  have hacts : ∀ a ∈ List.replicate 3 (Action.thread true), a.keepsInterrupt := by
    intro a ha
    rw [List.eq_of_mem_replicate ha]
    trivial
  exact ⟨s, t, hs, ht, hplace, hnone, hone, (interrupt_ends hstop hacts ht).2⟩

end BATSSender

end BatsIperf
