import BatsIperf.Stream.Jitter

/-!
# Clocks that disagree

A receiver takes the transit time of a block from two clocks, that of the sender, which is in the block, and its own. The clocks need not agree. A run in which the clock of the receiver is set differently is the same run but for the transit time that is kept, as long as an `int` holds the transit times of both.
-/

namespace BatsIperf

namespace LiveStream

variable {Recorder : Type} {tools : SeqTools Recorder}

/-- What an offset of the clock adds to a transit time. -/
def offsetTransit (offset : UInt64) : Int := Narrowing.signed 32 offset.toNat

/-- The stream as a clock with this offset leaves it. -/
def shifted (offset : UInt64) (s : LiveStream Recorder) : LiveStream Recorder :=
  s.withTransits (s.diffSRList.map (· + offsetTransit offset)) s.isFirstJitterCalculation

/-- The action as a receiver sees it whose clock has this offset. -/
def Action.later (offset : UInt64) : Action → Action
  | .received reception => .received { reception with arrival := reception.arrival + offset }
  | a => a

/-- The transit time is one of an `int` with the offset as well. -/
def Action.StaysInRange (offset : UInt64) : Action → Prop
  | .received reception => ∀ transit ∈ transitOf reception,
    -2 ^ 31 ≤ transit + offsetTransit offset ∧ transit + offsetTransit offset < 2 ^ 31
  | _ => True

instance (offset : UInt64) : ∀ a : Action, Decidable (a.StaysInRange offset)
  | .received reception => inferInstanceAs (Decidable (∀ transit ∈ transitOf reception,
      -2 ^ 31 ≤ transit + offsetTransit offset ∧ transit + offsetTransit offset < 2 ^ 31))
  | .event _ | .startSend _ | .thread _ | .snapshotReport _ | .poll _ | .summary _ _ | .finishReport _ | .stop _ =>
    isTrue trivial

variable {s t : LiveStream Recorder} {offset : UInt64}

theorem transit_later {arrival time : UInt64}
    (hlow : -2 ^ 31 ≤ Narrowing.signed 32 (arrival - time).toNat + offsetTransit offset)
    (hhigh : Narrowing.signed 32 (arrival - time).toNat + offsetTransit offset < 2 ^ 31) :
    Narrowing.signed 32 (arrival + offset - time).toNat
      = Narrowing.signed 32 (arrival - time).toNat + offsetTransit offset := by
  have hmoved : arrival + offset - time = arrival - time + offset := by grind
  rw [hmoved, UInt64.toNat_add]
  refine Eq.trans ?_ (Narrowing.signed32_add hlow hhigh)
  simp only [Narrowing.signed, Int.bmod_def]
  omega

theorem absDifference_add (x y offset : Int) : absDifference (x + offset) (y + offset) = absDifference x y := by
  rw [absDifference, absDifference, add_sub_add_right_eq_sub]

theorem updateJitter_shifted {arrival time : UInt64}
    (hlow : -2 ^ 31 ≤ Narrowing.signed 32 (arrival - time).toNat + offsetTransit offset)
    (hhigh : Narrowing.signed 32 (arrival - time).toNat + offsetTransit offset < 2 ^ 31) :
    (s.shifted offset).updateJitter (arrival + offset) time = (s.updateJitter arrival time).shifted offset := by
  have hlater := transit_later hlow hhigh
  obtain ⟨stream, data, lastGrpId, boundary, recorder, list⟩ := s
  unfold updateJitter shifted withTransits
  dsimp only
  rw [hlater, List.getLast?_map]
  cases hlast : list.getLast? with
  | none =>
    dsimp only [Option.map_none]
    rw [List.map_append]
    rfl
  | some last =>
    dsimp only [Option.map_some]
    rw [List.map_append, List.map_dropLast, absDifference_add]
    rfl

/-! ### Received data -/

theorem takesInterval_withTransits (s : LiveStream Recorder) (transits : List Int) (isFirst : Bool) :
    (s.withTransits transits isFirst).takesInterval tools = s.takesInterval tools := takesInterval_congr rfl rfl rfl

theorem onInterval_withTransits_of_takes {flags : TestFlags} {seq : UInt64} {transits : List Int} {isFirst : Bool}
    (htakes : s.takesInterval tools flags seq = true) (data : Octets) (now : UInt64) :
    (s.withTransits transits isFirst).onInterval tools flags seq data now = s.onInterval tools flags seq data now := by
  have hother : (s.withTransits transits isFirst).takesInterval tools flags seq = true := by
    rw [← htakes]
    exact congrFun (congrFun (takesInterval_withTransits s transits isFirst) flags) seq
  rw [onInterval_of_takes hother, onInterval_of_takes htakes, hasNewGrpId_withTransits]
  exact onReceivedIntervalData_receiver (hasNewGrpId_role htakes) data now

theorem onInterval_withTransits_of_not_takes {flags : TestFlags} {seq : UInt64} {transits : List Int} {isFirst : Bool}
    (hnot : s.takesInterval tools flags seq = false) (data : Octets) (now : UInt64) :
    (s.withTransits transits isFirst).onInterval tools flags seq data now
      = (·.withTransits transits isFirst) <$> s.onInterval tools flags seq data now := by
  have hother : (s.withTransits transits isFirst).takesInterval tools flags seq = false := by
    rw [← hnot]
    exact congrFun (congrFun (takesInterval_withTransits s transits isFirst) flags) seq
  rw [onInterval_of_not_takes hother, onInterval_of_not_takes hnot, hasNewGrpId_withTransits]
  rfl

theorem updateReceived_later {reception : Reception} (hrange : (Action.received reception).StaysInRange offset) :
    (s.shifted offset).updateReceived tools { reception with arrival := reception.arrival + offset }
      = shifted offset <$> s.updateReceived tools reception := by
  unfold updateReceived
  split
  · rfl
  · simp only [map_bind, map_pure]
    refine bind_congr fun seq => bind_congr fun _ => ?_
    show ((({ s.countReceived reception.data.length reception.countedAt with
      recvSeqRecorder := tools.record s.recvSeqRecorder seq } : LiveStream Recorder).withTransits
        (s.diffSRList.map (· + offsetTransit offset)) s.isFirstJitterCalculation).learnIdentifier reception.data seq >>= _) = _
    rw [learnIdentifier_withTransits, bind_map_left]
    refine Fault.bind_congr_of_ok fun identified hidentified => bind_congr fun flags => ?_
    rw [onFlags_withTransits, bind_map_left]
    refine Fault.bind_congr_of_ok fun flagged hflagged => ?_
    have hsame := sameTransits_before hidentified hflagged
    have hlast (detected : LiveStream Recorder) : (wordAt reception.data 24 >>= fun time =>
          pure ((detected.shifted offset).updateJitter (reception.arrival + offset) time) : Except Fault _)
        = wordAt reception.data 24 >>= fun time =>
          pure ((detected.updateJitter reception.arrival time).shifted offset) := by
      refine Fault.bind_congr_of_ok fun time htime => congrArg pure ?_
      obtain ⟨hlow, hhigh⟩ := hrange (Narrowing.signed 32 (reception.arrival - time).toNat) (by
        rw [transitOf, htime]
        rfl)
      exact updateJitter_shifted hlow hhigh
    cases htakes : flagged.takesInterval tools flags seq with
    | true =>
      rw [onInterval_withTransits_of_takes htakes]
      refine Fault.bind_congr_of_ok fun detected hdetected => ?_
      have hanew := onInterval_restarts htakes hdetected
      have hshifted : detected.shifted offset = detected := by
        rw [hanew]
        rfl
      rw [← hlast, hshifted]
    | false =>
      rw [onInterval_withTransits_of_not_takes htakes, bind_map_left]
      refine Fault.bind_congr_of_ok fun detected hdetected => ?_
      obtain ⟨htransits, hfirst⟩ := onInterval_transits htakes hdetected
      rw [← hlast, shifted, htransits, hfirst, hsame.transits, hsame.isFirst]

/-! ### Every run -/

theorem step_later {a : Action} (hrange : a.StaysInRange offset) (s : LiveStream Recorder) :
    (machine tools).step (s.shifted offset) (a.later offset) = ((machine tools).step s a).map (shifted offset) := by
  have hoption (result : Except Fault (LiveStream Recorder)) :
      (shifted offset <$> result).toOption = result.toOption.map (shifted offset) := by
    cases result <;> rfl
  refine Eq.trans (congrArg Except.toOption ?_) (hoption (s.perform tools a))
  by_cases hreceived : ∃ reception, a = .received reception
  · obtain ⟨reception, rfl⟩ := hreceived
    exact updateReceived_later hrange
  · have hother (reception : Reception) : a ≠ .received reception := fun heq => hreceived ⟨reception, heq⟩
    have hlater : a.later offset = a := by
      cases a with
      | received reception => exact absurd rfl (hother reception)
      | _ => rfl
    rw [hlater, shifted, perform_withTransits hother]
    cases hresult : s.perform tools a with
    | error fault => rfl
    | ok t =>
      obtain ⟨htransits, hfirst⟩ := perform_transits hother hresult
      refine congrArg Except.ok ?_
      rw [shifted, htransits, hfirst]

/-- An offset of its clock changes nothing of a receiver in any run but the transit time it keeps: every step is possible with it exactly where it is without, and all reports are the same. -/
theorem offset_invisible {s₀ : LiveStream Recorder} {recorder : Recorder} {acts : List Action} (hnew : IsNew recorder s₀)
    (hrange : ∀ a ∈ acts, a.StaysInRange offset) :
    (machine tools).run s₀ (acts.map (Action.later offset)) = ((machine tools).run s₀ acts).map (shifted offset) := by
  have hstart : s₀.shifted offset = s₀ := by
    cases hnew with
    | connecting => rfl
    | accepted haccepted => rfl
  have hstep (s : LiveStream Recorder) (a : Action) (ha : a ∈ acts) :
      (machine tools).step (s.shifted offset) (a.later offset) = ((machine tools).step s a).map (shifted offset) :=
    step_later (hrange a ha) s
  have hrun := Machine.run_map hstep s₀
  rwa [hstart] at hrun

/-- A clock that is an hour behind makes the transit times negative. -/
theorem offset_invisible_hour :
    ∃ stream s t, IperfStream.accepted { protocol := 1, role := .roleReceiver } 1 1000 = .ok stream ∧
      (machine SeqTools.ofLists).run (fresh stream []) untilNextGroup = some s ∧
      (machine SeqTools.ofLists).run (fresh stream []) (untilNextGroup.map (Action.later (-3600000))) = some t ∧
      t.diffSRList = [-3598980] ∧ t.report = s.report := by
  obtain ⟨stream, haccepted⟩ : ∃ stream,
    IperfStream.accepted { protocol := 1, role := .roleReceiver } 1 1000 = .ok stream := ⟨_, rfl⟩
  have hsome : (IperfStream.accepted { protocol := 1, role := .roleReceiver } 1 1000).toOption.bind (fun stream =>
      ((machine SeqTools.ofLists).run (fresh stream []) untilNextGroup).map fun s =>
        (s.shifted (-3600000)).diffSRList) = some [-3598980] := by
    decide +kernel
  rw [haccepted] at hsome
  obtain ⟨s, hs, hkept⟩ := Option.map_eq_some_iff.mp hsome
  have hrange : ∀ a ∈ untilNextGroup, a.StaysInRange (-3600000) := by decide +kernel
  have hnew : IsNew ([] : List UInt64) (fresh stream []) := .accepted haccepted
  have hother := @offset_invisible _ SeqTools.ofLists _ _ _ _ hnew hrange
  rw [hs] at hother
  exact ⟨stream, s, s.shifted (-3600000), haccepted, hs, hother, hkept, rfl⟩

end LiveStream

end BatsIperf
