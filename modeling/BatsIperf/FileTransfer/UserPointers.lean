import BatsIperf.FileTransfer.DataChannels

/-!
# User pointers of data connections

The callback reads the number of a stream through the user pointer of its connection. The pointer is good until `Stop` destroys the streams, and nothing tells the library that it is not: the connections are not closed, and no branch of the callback can know before it has read the number. A number that was read in time may be out of range when the streams are looked up with it.
-/

namespace BatsIperf

open Octets IperfFileTransfer

namespace DataChannels

variable {density : Density} {s t : DataChannels} {a : Action}

/-! ### The numbers of the streams -/

def IdsBelow (ids : List UInt32) : Prop := ∀ (p : Nat) (id : UInt32), ids[p]? = some id → ∃ j, j ≤ p ∧ id = .ofNat j

theorem IdsBelow.append {first added : List UInt32} (hfirst : IdsBelow first)
    (hadded : ∀ (i : Nat) (id : UInt32), added[i]? = some id → ∃ j, j ≤ first.length + i ∧ id = .ofNat j) :
    IdsBelow (first ++ added) := by
  intro p id hid
  rw [List.getElem?_append] at hid
  split at hid
  · exact hfirst p id hid
  · obtain ⟨j, hj, rfl⟩ := hadded _ id hid
    exact ⟨j, by omega, rfl⟩

/-- A connection whose stream exists points into the vector. -/
structure Placed (s : DataChannels) : Prop where
  idsBelow : IdsBelow s.ids
  position_lt : ∀ channel ∈ s.channels, channel.freed = false → channel.position < s.ids.length

theorem Placed.add (hs : Placed s) {ids : List UInt32} {channels : List Channel} (hids : t.ids = s.ids ++ ids)
    (hchannels : t.channels = s.channels ++ channels)
    (hbelow : ∀ (i : Nat) (id : UInt32), ids[i]? = some id → ∃ j, j ≤ s.ids.length + i ∧ id = .ofNat j)
    (hplaced : ∀ channel ∈ channels, channel.position < s.ids.length + ids.length) : Placed t := by
  constructor
  · rw [hids]
    exact hs.idsBelow.append hbelow
  · intro channel hchannel halive
    rw [hids, List.length_append]
    rw [hchannels] at hchannel
    rcases List.mem_append.mp hchannel with hold | hnew
    · exact (hs.position_lt channel hold halive).trans_le (Nat.le_add_right _ _)
    · exact hplaced channel hnew

theorem placed_step (hs : Placed s) (hstep : (machine density).step s a = some t) : Placed t := by
  have hnone (i : Nat) (id : UInt32) (h : ([] : List UInt32)[i]? = some id) :
      ∃ j, j ≤ s.ids.length + i ∧ id = .ofNat j := absurd h (by simp)
  cases step_rearranged hstep with
  | same _ hids hchannels =>
    apply hs.add (hids.trans (List.append_nil _).symm) (hchannels.trans (List.append_nil _).symm) hnone
    exact fun channel hchannel => absurd hchannel List.not_mem_nil
  | retried _ hids hindex hchannels =>
    apply hs.add (hids.trans (List.append_nil _).symm) hchannels hnone
    intro channel hchannel
    obtain rfl := List.mem_singleton.mp hchannel
    exact hindex
  | @opened _ _ count _ hids hchannels =>
    apply hs.add hids hchannels
    · intro i id hid
      rw [List.getElem?_map] at hid
      obtain ⟨j, hj, rfl⟩ := Option.map_eq_some_iff.mp hid
      obtain ⟨_, rfl⟩ := List.getElem?_eq_some_iff.mp hj
      rw [List.getElem_range]
      exact ⟨i, Nat.le_add_left _ _, rfl⟩
    · intro channel hchannel
      obtain ⟨i, hi, rfl⟩ := List.mem_map.mp hchannel
      rw [List.length_map, List.length_range]
      exact (List.mem_range.mp hi).trans_le (Nat.le_add_left _ _)
  | accepted _ hids hchannels =>
    apply hs.add hids hchannels
    · intro i id hid
      obtain rfl := List.mem_singleton.mp (List.mem_of_getElem? hid)
      exact ⟨s.ids.length, Nat.le_add_right _ _, rfl⟩
    · intro channel hchannel
      obtain rfl := List.mem_singleton.mp hchannel
      exact Nat.lt_succ_self _
  | cleared =>
    constructor
    · exact fun p id hid => absurd hid (by simp [ids, clear, IperfFileTransfer.clearStreams])
    · intro channel hchannel halive
      obtain ⟨_, _, rfl⟩ := List.mem_map.mp hchannel
      cases halive

theorem placed_new (hnew : IsNew s) : Placed s := by
  have hempty : s.ids = [] ∧ s.channels = [] := by cases hnew <;> exact ⟨rfl, rfl⟩
  constructor
  · rw [hempty.1]
    exact fun p id hid => absurd hid (by simp)
  · rw [hempty.2]
    exact fun channel hchannel => absurd hchannel List.not_mem_nil

/-! ### The life of a stream -/

def Freed (k : Nat) (s : DataChannels) : Prop := ∃ channel, s.channels[k]? = some channel ∧ channel.freed = true

/-- The step empties the streams, and the connection is there. -/
def Destroys (k : Nat) (s : DataChannels) (a : Action) : Prop := a = .clearStreams ∧ k < s.channels.length

theorem freed_append {channels added : List Channel} (hadded : ∀ channel ∈ added, channel.freed = false) (k : Nat) :
    (∃ channel, (channels ++ added)[k]? = some channel ∧ channel.freed = true) ↔
      ∃ channel, channels[k]? = some channel ∧ channel.freed = true := by
  refine exists_congr fun channel => and_congr_left fun hfreed => ?_
  rw [List.getElem?_append]
  split
  · rfl
  · rename_i hk
    refine iff_of_false (fun h => ?_) fun h => hk (List.getElem?_eq_some_iff.mp h).1
    rw [hadded channel (List.mem_of_getElem? h)] at hfreed
    cases hfreed

theorem freed_step {k : Nat} (hstep : (machine density).step s a = some t) : Freed k t ↔ Freed k s ∨ Destroys k s a := by
  have hkeeps (ha : a ≠ .clearStreams) {added : List Channel} (hchannels : t.channels = s.channels ++ added)
      (hadded : ∀ channel ∈ added, channel.freed = false) : Freed k t ↔ Freed k s ∨ Destroys k s a := by
    rw [Freed, hchannels, freed_append hadded]
    exact (or_iff_left fun h => ha h.1).symm
  cases step_rearranged hstep with
  | same ha _ hchannels =>
    exact hkeeps ha (hchannels.trans (List.append_nil _).symm) fun channel h => absurd h List.not_mem_nil
  | retried ha _ _ hchannels =>
    exact hkeeps ha hchannels fun channel h => by rw [List.mem_singleton.mp h]
  | opened ha _ hchannels =>
    refine hkeeps ha hchannels fun channel h => ?_
    obtain ⟨_, _, rfl⟩ := List.mem_map.mp h
    rfl
  | accepted ha _ hchannels =>
    exact hkeeps ha hchannels fun channel h => by rw [List.mem_singleton.mp h]
  | cleared =>
    constructor
    · rintro ⟨channel, hchannel, _⟩
      refine .inr ⟨rfl, ?_⟩
      have hk := (List.getElem?_eq_some_iff.mp hchannel).1
      rwa [clear, List.length_map] at hk
    · intro h
      have hk : k < s.channels.length := by
        rcases h with ⟨channel, hchannel, _⟩ | ⟨_, hk⟩
        · exact (List.getElem?_eq_some_iff.mp hchannel).1
        · exact hk
      refine ⟨{ s.channels[k] with freed := true }, ?_, rfl⟩
      rw [clear, List.getElem?_map, List.getElem?_eq_getElem hk]
      rfl

/-- A stream has been destroyed where some step of the run has emptied the streams since its connection was there. -/
theorem freed_run {acts : List Action} {k : Nat} (hnew : IsNew s) (hrun : (machine density).run s acts = some t) :
    Freed k t ↔ (machine density).Occurs (Destroys k) s acts := by
  have hnone : ¬ Freed k s := by
    have hempty : s.channels = [] := by cases hnew <;> rfl
    rintro ⟨channel, hchannel, _⟩
    rw [hempty] at hchannel
    cases hchannel
  have hflag : True ∧ (Freed k t ↔ Freed k s ∨ (machine density).Occurs (Destroys k) s acts) :=
    Machine.run_flag (fun _ _ _ hstep _ => ⟨trivial, freed_step hstep⟩) hrun trivial
  exact hflag.2.trans (or_iff_right hnone)

/-! ### Looking a stream up -/

/-- The number is read through a pointer to a stream that exists. -/
def SafeRead (s : DataChannels) (channel : Channel) (event : DataEvent) : Prop :=
  event.namesStream = true → ∃ id, s.streamId channel = .ok id

/-- Where it is not compared with the number of streams, the number is in range at the next access. -/
def SafeAccess (s : DataChannels) (callback : Callback) : Prop :=
  callback.event.indexes = true → 0 ≤ callback.streamId ∧ callback.streamId < s.test.streams.length

theorem streamId_eq_ok {channel : Channel} {id : Int} : s.streamId channel = .ok id ↔
    channel.freed = false ∧ ∃ stream, s.test.streams[channel.position]? = some stream ∧
      id = Narrowing.signed 32 stream.id.toNat := by
  rw [streamId, Fault.bind_eq_ok]
  constructor
  · rintro ⟨_, halive, h⟩
    obtain ⟨stream, hstream, h⟩ := Fault.bind_eq_ok.mp h
    exact ⟨Fault.require_eq_ok.mp halive, stream, Fault.need_eq_ok.mp hstream, (Fault.pure_eq_ok.mp h).symm⟩
  · rintro ⟨halive, stream, hstream, hid⟩
    refine ⟨(), Fault.require_eq_ok.mpr halive, Fault.bind_eq_ok.mpr ⟨stream, Fault.need_eq_ok.mpr hstream, ?_⟩⟩
    exact Fault.pure_eq_ok.mpr hid.symm

theorem streamId_fault {channel : Channel} {fault : Fault} (h : s.streamId channel = .error fault) :
    fault = .outOfBounds := by
  by_contra hother
  have havoids : Fault.Avoids fault (s.streamId channel) :=
    (Fault.avoids_require (Ne.symm hother) _).bind fun _ =>
      (Fault.avoids_need (Ne.symm hother) _).bind fun _ => Fault.avoids_pure _
  exact havoids h

/-- A delivery reads through a pointer that is gone exactly where the read is not safe. -/
theorem onData_fault_iff {k : Nat} {channel : Channel} {event : DataEvent} :
    onData s k channel event = .error .outOfBounds ↔ ¬ SafeRead s channel event := by
  unfold onData
  split
  · rename_i hnames
    rw [Fault.bind_eq_error_iff_of_next fun _ => Fault.avoids_pure _, SafeRead, forall_prop_of_true hnames]
    constructor
    · rintro hfault ⟨id, hid⟩
      cases hfault.symm.trans hid
    · intro hnone
      cases hid : s.streamId channel with
      | error fault => rw [streamId_fault hid]
      | ok id => exact absurd ⟨id, hid⟩ hnone
  · rename_i hnames
    exact iff_of_false (Fault.avoids_pure _) (not_not_intro fun h => absurd h hnames)

/-- What an event does to a stream that was found needs no other one. -/
theorem avoids_streamEvent (test : IperfFileTransfer) (event : ConnEvent) (stream : FileStream) :
    Fault.Avoids .outOfBounds (test.streamEvent event stream) := by
  cases event with
  | timeout =>
    unfold streamEvent
    dsimp only
    split
    · exact (Fault.avoids_require (by decide) _).bind fun _ => Fault.avoids_pure _
    · exact Fault.avoids_pure _
  | established length => exact (Fault.avoids_require (by decide) _).bind fun _ => Fault.avoids_pure _
  | _ => exact Fault.avoids_ok _

theorem onStream_fault_iff {test : IperfFileTransfer} {i : Nat} {f : FileStream → Except Fault FileStream}
    (hf : ∀ stream, Fault.Avoids .outOfBounds (f stream)) :
    test.onStream i f = .error .outOfBounds ↔ test.streams.length ≤ i := by
  rw [onStream, Fault.bind_eq_error_iff_of_next, Fault.need_eq_error, List.getElem?_eq_none_iff]
  exact fun stream => (hf stream).bind fun _ => Fault.avoids_pure _

/-- The callback leaves the vector where the number of the stream is too large and is not compared. -/
theorem connectionCallback_fault_iff {test : IperfFileTransfer} {i : Nat} {event : ConnEvent} :
    test.connectionCallback i event = .error .outOfBounds ↔
      (DataEvent.conn event).indexes = true ∧ test.streams.length ≤ i := by
  cases event with
  | none | failed | sendComplete | error | alreadyConnected =>
    exact iff_of_false (Fault.avoids_ok _) fun h => Bool.false_ne_true h.1
  | closed | shutdownByPeer =>
    refine iff_of_false ?_ fun h => Bool.false_ne_true h.1
    unfold connectionCallback
    dsimp only
    split
    · exact Fault.avoids_ok _
    · rename_i hi
      exact fun h => hi ((onStream_fault_iff (avoids_streamEvent test _)).mp h)
  | established | timeout | writable | sendDataError | bufferFull | idealBufferLength | allDataAcked =>
    exact (onStream_fault_iff (avoids_streamEvent test _)).trans (and_iff_right rfl).symm

/-- Each access of a branch leaves the vector where the number is too large and is not compared. -/
theorem access_outOfBounds_iff (k : Nat) (event : ConnEvent) (id : Int) (accesses : Nat) :
    access density s ⟨k, .conn event, id, accesses⟩ = .error .outOfBounds ↔
      (DataEvent.conn event).indexes = true ∧ s.test.streams.length ≤ Narrowing.unsigned 64 id := by
  have hfound {next : FileStream → Except Fault (DataChannels × Bool)}
      (hnext : ∀ stream, Fault.Avoids .outOfBounds (next stream)) :
      (Fault.need .outOfBounds s.test.streams[Narrowing.unsigned 64 id]?).bind next = .error .outOfBounds ↔
        s.test.streams.length ≤ Narrowing.unsigned 64 id :=
    (Fault.bind_eq_error_iff_of_next hnext).trans (Fault.need_eq_error.trans List.getElem?_eq_none_iff)
  have htest {result : Except Fault IperfFileTransfer} {more : Bool} :
      result.bind (fun test => pure ({ s with test := test }, more)) = .error .outOfBounds ↔
        result = .error .outOfBounds := Fault.bind_eq_error_iff_of_next fun _ => Fault.avoids_pure _
  have hcallback : s.test.connectionCallback (Narrowing.unsigned 64 id) event = .error .outOfBounds ↔ _ :=
    connectionCallback_fault_iff
  cases event with
  | timeout =>
    refine Iff.trans ?_ (and_iff_right rfl).symm
    match accesses with
    | 0 => exact hfound fun _ => Fault.avoids_pure _
    | 1 => exact hfound fun _ => (Fault.avoids_require (by decide) _).bind fun _ => Fault.avoids_pure _
    | _ + 2 => exact htest.trans (onStream_fault_iff fun _ => Fault.avoids_ok _)
  | writable =>
    refine Iff.trans ?_ (and_iff_right rfl).symm
    match accesses with
    | 0 => exact htest.trans (onStream_fault_iff (avoids_streamEvent _ _))
    | _ + 1 => exact hfound fun _ => Fault.avoids_pure _
  | allDataAcked =>
    refine Iff.trans ?_ (and_iff_right rfl).symm
    match accesses with
    | 0 => exact hfound fun _ => Fault.avoids_pure _
    | _ + 1 => exact htest.trans (onStream_fault_iff fun _ => Fault.avoids_ok _)
  | none | failed | sendComplete | error | alreadyConnected | closed | shutdownByPeer | established | sendDataError
    | bufferFull | idealBufferLength => exact htest.trans hcallback

/-- An access reads outside the streams exactly where it is not safe. -/
theorem access_fault_iff (hlength : s.test.streams.length ≤ 2 ^ 63) {k : Nat} {event : ConnEvent} {id : Int}
    {accesses : Nat} (hlow : -2 ^ 31 ≤ id) (hhigh : id < 2 ^ 31) :
    access density s ⟨k, .conn event, id, accesses⟩ = .error .outOfBounds ↔
      ¬ SafeAccess s ⟨k, .conn event, id, accesses⟩ := by
  rw [access_outOfBounds_iff, SafeAccess, Classical.not_imp, ← Narrowing.unsigned64_lt_iff hlow hhigh hlength, not_lt]

/-! ### What a callback has read -/

/-- While the stream exists, the number read through its pointer is its number. -/
def HasRead (s : DataChannels) (callback : Callback) : Prop :=
  ∃ channel, s.channels[callback.k]? = some channel ∧ (channel.freed = false →
    ∃ id, s.ids[channel.position]? = some id ∧ callback.streamId = Narrowing.signed 32 id.toNat)

theorem HasRead.append {callback : Callback} (h : HasRead s callback) {ids : List UInt32} {channels : List Channel}
    (hids : t.ids = s.ids ++ ids) (hchannels : t.channels = s.channels ++ channels) : HasRead t callback := by
  obtain ⟨channel, hchannel, hread⟩ := h
  refine ⟨channel, ?_, fun halive => ?_⟩
  · rw [hchannels, List.getElem?_append_left (List.getElem?_eq_some_iff.mp hchannel).1]
    exact hchannel
  · obtain ⟨id, hid, hvalue⟩ := hread halive
    refine ⟨id, ?_, hvalue⟩
    rw [hids, List.getElem?_append_left (List.getElem?_eq_some_iff.mp hid).1]
    exact hid

theorem hasRead_step {callback : Callback} (h : HasRead s callback) (hstep : (machine density).step s a = some t) :
    HasRead t callback := by
  cases step_rearranged hstep with
  | same _ hids hchannels => exact h.append (hids.trans (List.append_nil _).symm) (hchannels.trans (List.append_nil _).symm)
  | retried _ hids _ hchannels => exact h.append (hids.trans (List.append_nil _).symm) hchannels
  | opened _ hids hchannels => exact h.append hids hchannels
  | accepted _ hids hchannels => exact h.append hids hchannels
  | cleared =>
    obtain ⟨channel, hchannel, _⟩ := h
    refine ⟨{ channel with freed := true }, ?_, fun halive => by cases halive⟩
    rw [clear, List.getElem?_map, hchannel]
    rfl

theorem step_callbacks {callback : Callback} (hstep : (machine density).step s a = some t)
    (hcallback : callback ∈ t.callbacks) :
    (∃ old ∈ s.callbacks, callback.k = old.k ∧ callback.streamId = old.streamId) ∨ HasRead s callback := by
  have hkept (h : t.callbacks = s.callbacks) :
      (∃ old ∈ s.callbacks, callback.k = old.k ∧ callback.streamId = old.streamId) ∨ HasRead s callback :=
    .inl ⟨callback, h ▸ hcallback, rfl, rfl⟩
  cases a with
  | start | poll | stop | ctrlClosed =>
    obtain rfl := Option.some.inj hstep
    exact hkept rfl
  | ctrlEstablished =>
    obtain ⟨_, _, rfl⟩ := Option.map_eq_some_iff.mp hstep
    exact hkept rfl
  | ctrlReceived bytes available =>
    obtain ⟨_, _, hstep⟩ := Option.bind_eq_some_iff.mp hstep
    obtain rfl := Option.some.inj hstep
    exact hkept rfl
  | accept =>
    change s.accept = some t at hstep
    unfold accept at hstep
    split at hstep
    · obtain rfl := Option.some.inj hstep
      exact hkept rfl
    · cases hstep
  | data k event =>
    obtain ⟨channel, hchannel, hstep⟩ := Option.bind_eq_some_iff.mp hstep
    rcases onData_inv (Fault.toOption_eq_some.mp hstep) with rfl | ⟨id, hid, rfl⟩
    · exact hkept rfl
    · rcases List.mem_append.mp hcallback with hold | hnew
      · exact .inl ⟨callback, hold, rfl, rfl⟩
      · obtain rfl := List.mem_singleton.mp hnew
        obtain ⟨_, stream, hstream, hvalue⟩ := streamId_eq_ok.mp hid
        refine .inr ⟨channel, hchannel, fun _ => ⟨stream.id, ?_, hvalue⟩⟩
        rw [ids, List.getElem?_map, hstream]
        rfl
  | access j =>
    obtain ⟨running, hrunning, hstep⟩ := Option.bind_eq_some_iff.mp hstep
    obtain ⟨⟨u, goesOn⟩, _, hstep⟩ := Option.bind_eq_some_iff.mp hstep
    obtain rfl := Option.some.inj hstep
    dsimp only at hcallback
    split at hcallback
    · rcases List.mem_or_eq_of_mem_set hcallback with hold | rfl
      · exact .inl ⟨callback, hold, rfl, rfl⟩
      · exact .inl ⟨running, List.mem_of_getElem? hrunning, rfl, rfl⟩
    · exact .inl ⟨callback, List.mem_of_mem_eraseIdx hcallback, rfl, rfl⟩
  | thread i answers =>
    obtain ⟨_, _, hstep⟩ := Option.bind_eq_some_iff.mp hstep
    obtain ⟨_, _, hstep⟩ := Option.bind_eq_some_iff.mp hstep
    obtain rfl := Option.some.inj hstep
    exact hkept rfl
  | clearStreams =>
    change (if _ then _ else _) = _ at hstep
    split at hstep
    · obtain rfl := Option.some.inj hstep
      exact hkept rfl
    · cases hstep

def AllRead (s : DataChannels) : Prop := ∀ callback ∈ s.callbacks, HasRead s callback

theorem allRead_step (hs : AllRead s) (hstep : (machine density).step s a = some t) : AllRead t := by
  intro callback hcallback
  rcases step_callbacks hstep hcallback with ⟨old, hold, hk, hid⟩ | hnow
  · obtain ⟨channel, hchannel, hvalue⟩ := hs old hold
    exact hasRead_step ⟨channel, hk ▸ hchannel, fun halive => hid ▸ hvalue halive⟩ hstep
  · exact hasRead_step hnow hstep

theorem allRead_new (hnew : IsNew s) : AllRead s := by
  have hempty : s.callbacks = [] := by cases hnew <;> rfl
  rw [AllRead, hempty]
  exact fun callback hcallback => absurd hcallback List.not_mem_nil

/-- The connection of an existing stream finds a number that is in range unless it is negative as an `int`. -/
theorem Placed.lookup {channel : Channel} (hs : Placed s) (hchannel : channel ∈ s.channels)
    (halive : channel.freed = false) : ∃ stream, s.test.streams[channel.position]? = some stream ∧
      s.streamId channel = .ok (Narrowing.signed 32 stream.id.toNat) ∧ stream.id.toNat < s.test.streams.length := by
  have hposition := hs.position_lt channel hchannel halive
  rw [ids, List.length_map] at hposition
  have hstream := List.getElem?_eq_getElem hposition
  refine ⟨_, hstream, streamId_eq_ok.mpr ⟨halive, _, hstream, by rfl⟩, ?_⟩
  have hid : s.ids[channel.position]? = some (s.test.streams[channel.position]).id := by
    rw [ids, List.getElem?_map, hstream]
    rfl
  obtain ⟨j, hj, hid⟩ := hs.idsBelow _ _ hid
  rw [hid]
  have hsmall : (UInt32.ofNat j).toNat ≤ j := Nat.mod_le _ _
  omega

/-- While the stream of a callback exists, the number it has read is in range unless it is negative as an `int`. -/
theorem Placed.inRange {callback : Callback} (hs : Placed s) (hread : HasRead s callback)
    (halive : ¬ Freed callback.k s) (hnonneg : 0 ≤ callback.streamId) : callback.streamId < s.test.streams.length := by
  obtain ⟨channel, hchannel, hvalue⟩ := hread
  have hexists : channel.freed = false := by
    rw [← Bool.not_eq_true]
    exact fun hfreed => halive ⟨channel, hchannel, hfreed⟩
  obtain ⟨id, hid, hvalue⟩ := hvalue hexists
  obtain ⟨j, hj, rfl⟩ := hs.idsBelow _ _ hid
  have hposition := (List.getElem?_eq_some_iff.mp hid).1
  rw [ids, List.length_map] at hposition
  rw [hvalue] at hnonneg ⊢
  have hsmall : (UInt32.ofNat j).toNat ≤ j := Nat.mod_le _ _
  rw [Narrowing.signed32_nonneg_iff (UInt32.toNat_lt _)] at hnonneg
  rw [Narrowing.signed_of_lt (by omega) (by omega)]
  omega

/-- In every state of every run the number of a stream is read safely exactly where the event does not read it or the streams have not been emptied since its connection was there. An access with the number is safe exactly where the number is compared, or it is no negative `int` and the streams have not been emptied either, or have become as many again. -/
theorem lookup_safe_iff {s₀ : DataChannels} {acts : List Action} (hnew : IsNew s₀)
    (hrun : (machine density).run s₀ acts = some s) :
    (∀ (k : Nat) (channel : Channel), s.channels[k]? = some channel → ∀ event : DataEvent,
      (SafeRead s channel event ↔
        (event.namesStream = true → ¬ (machine density).Occurs (Destroys k) s₀ acts))) ∧
    ∀ callback ∈ s.callbacks,
      (SafeAccess s callback ↔ (callback.event.indexes = true → 0 ≤ callback.streamId ∧
        ((machine density).Occurs (Destroys callback.k) s₀ acts → callback.streamId < s.test.streams.length))) := by
  have hplaced : Placed s := Machine.run_preserves (fun _ _ _ => placed_step) (placed_new hnew) hrun
  have hread : AllRead s := Machine.run_preserves (fun _ _ _ => allRead_step) (allRead_new hnew) hrun
  constructor
  · intro k channel hchannel event
    have halive : channel.freed = false ↔ ¬ (machine density).Occurs (Destroys k) s₀ acts := by
      rw [← freed_run hnew hrun, Freed, hchannel, ← Bool.not_eq_true]
      simp only [Option.some.injEq, exists_eq_left']
    refine forall_congr' fun _ => ?_
    rw [← halive]
    constructor
    · rintro ⟨_, hid⟩
      exact (streamId_eq_ok.mp hid).1
    · intro hexists
      obtain ⟨_, _, hid, _⟩ := hplaced.lookup (List.mem_of_getElem? hchannel) hexists
      exact ⟨_, hid⟩
  · intro callback hcallback
    refine forall_congr' fun _ => and_congr_right fun hnonneg => ⟨fun hrange _ => hrange, fun hrange => ?_⟩
    by_cases hemptied : (machine density).Occurs (Destroys callback.k) s₀ acts
    · exact hrange hemptied
    · exact hplaced.inRange (hread callback hcallback) (mt (freed_run hnew hrun).mp hemptied) hnonneg

/-- A sender with one stream, its request and the answer. -/
def newSender : DataChannels where
  test := .sender FileSession.oneFile
    { protocol := 1, numStreams := 1, role := .roleFileSender, files := [ofText "a"] } 7
  disk := FileSession.oneFile

def untilEstablished : List Action :=
  [.start true, .ctrlEstablished,
    .ctrlReceived (((IperfFileTransfer.receiver {} 7).responseHeader false).encode ++ List.replicate 268 0) none,
    .data 0 (.conn (.established 4096)), .access 0]

/-- Its connection becomes writable and is closed. -/
theorem lookup_safe_iff_established :
    ∃ s channel callback, (machine .failing).run newSender (untilEstablished ++ [.data 0 (.conn .writable)]) = some s ∧
      s.channels[0]? = some channel ∧ SafeRead s channel (.conn .closed) ∧
      s.callbacks = [callback] ∧ SafeAccess s callback := by
  have hrun : ((machine .failing).run newSender (untilEstablished ++ [.data 0 (.conn .writable)])).bind (fun s =>
      s.channels[0]?.map fun channel => (channel.freed, s.callbacks))
        = some (false, [⟨0, .conn .writable, 0, 0⟩]) := by decide +kernel
  obtain ⟨s, hs, hrun⟩ := Option.bind_eq_some_iff.mp hrun
  obtain ⟨channel, hchannel, hrun⟩ := Option.map_eq_some_iff.mp hrun
  obtain ⟨halive, hcallbacks⟩ := Prod.mk.inj hrun
  have hnew : IsNew newSender := .sender _ _ _
  have hexists : ¬ (machine .failing).Occurs (Destroys 0) newSender (untilEstablished ++ [.data 0 (.conn .writable)]) := by
    rw [← freed_run hnew hs]
    rintro ⟨other, hother, hfreed⟩
    obtain rfl := Option.some.inj (hchannel.symm.trans hother)
    exact Bool.false_ne_true (halive.symm.trans hfreed)
  obtain ⟨hreads, haccesses⟩ := lookup_safe_iff hnew hs
  refine ⟨s, channel, _, hs, hchannel, (hreads 0 channel hchannel _).mpr fun _ => hexists, hcallbacks, ?_⟩
  exact (haccesses _ (hcallbacks ▸ List.mem_singleton_self _)).mpr fun _ => ⟨le_refl 0, fun h => absurd h hexists⟩

/-- The same sender is stopped. Its connection was not closed, so it may still become writable, and it is closed later; and where it became writable before, the second of the two accesses finds no stream. -/
theorem lookup_after_stop_counterexample :
    (∃ s channel, IsNew newSender ∧
      (machine .failing).run newSender (untilEstablished ++ [.stop, .thread 0 {}, .clearStreams]) = some s ∧
      s.channels[0]? = some channel ∧ ¬ SafeRead s channel (.conn .writable) ∧ ¬ SafeRead s channel (.conn .closed) ∧
      onData s 0 channel (.conn .writable) = .error .outOfBounds) ∧
    ∃ s callback, (machine .failing).run newSender (untilEstablished ++ [.data 0 (.conn .writable), .access 0, .stop,
        .thread 0 {}, .clearStreams]) = some s ∧
      s.callbacks = [callback] ∧ ¬ SafeAccess s callback ∧
      access .failing s callback = .error .outOfBounds := by
  constructor
  · have hrun : ((machine .failing).run newSender (untilEstablished ++ [.stop, .thread 0 {}, .clearStreams])).bind
        (fun s => s.channels[0]?.map Channel.freed) = some true := by decide +kernel
    obtain ⟨s, hs, hrun⟩ := Option.bind_eq_some_iff.mp hrun
    obtain ⟨channel, hchannel, hfreed⟩ := Option.map_eq_some_iff.mp hrun
    have hwrong (event : ConnEvent) (hnames : event.namesStream = true) : ¬ SafeRead s channel (.conn event) := by
      intro h
      obtain ⟨_, hid⟩ := h hnames
      exact Bool.false_ne_true ((streamId_eq_ok.mp hid).1.symm.trans hfreed)
    exact ⟨s, channel, .sender _ _ _, hs, hchannel, hwrong _ rfl, hwrong _ rfl, onData_fault_iff.mpr (hwrong _ rfl)⟩
  · have hrun : ((machine .failing).run newSender (untilEstablished ++ [.data 0 (.conn .writable), .access 0, .stop,
        .thread 0 {}, .clearStreams])).map (fun s => (s.callbacks, s.test.streams))
          = some ([⟨0, .conn .writable, 0, 1⟩], []) := by decide +kernel
    obtain ⟨s, hs, hrun⟩ := Option.map_eq_some_iff.mp hrun
    obtain ⟨hcallbacks, hempty⟩ := Prod.mk.inj hrun
    have hwrong : ¬ SafeAccess s ⟨0, .conn .writable, 0, 1⟩ := by
      intro h
      have hlt := (h rfl).2
      rw [hempty] at hlt
      exact absurd hlt (lt_irrefl _)
    have hlength : s.test.streams.length ≤ 2 ^ 63 := by rw [hempty]; decide
    exact ⟨s, _, hs, hcallbacks, hwrong, (access_fault_iff hlength (by decide) (by decide)).mpr hwrong⟩

end DataChannels

end BatsIperf
