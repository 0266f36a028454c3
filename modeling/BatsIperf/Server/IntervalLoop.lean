import BatsIperf.Foundation.Sweep
import BatsIperf.Server.Clients

/-!
# The interval loop of a server

Each pass of `EnterReceiverIntervalLoop` polls every test, takes the finished ones out of the table and keeps them in `dying_tests` for some passes, so that their connections stay open until the sender has received the last ack. It holds the lock of the table, so control messages come between two passes. The callbacks of the control connections write `is_ctrl_chn_connected_` without the lock, so every read of it may find another value.
-/

namespace BatsIperf

/-- A finished test, as it was when it left the table, and how many passes it has been kept. -/
structure DyingTest where
  test : IIperfTest
  cnt : Nat
  isDone : test.state = .testDone ∧ test.isStreamDone.1 = true

/-- A pass keeps a test that it has not kept too often. -/
def DyingTest.next (dying : DyingTest) : Option DyingTest :=
  if dying.cnt > 10 then none else some { dying with cnt := dying.cnt + 1 }

structure IntervalLoop (Conn : Type) where
  api : IperfBatsApi Conn
  dyingTests : List DyingTest := []

namespace IperfBatsApi

variable {Conn : Type}

/-- The test that the visit to an identifier takes out of the table. -/
def finished (api : IperfBatsApi Conn) (id : UInt32) (now : UInt64) : Option DyingTest :=
  match api.testTbl.find id with
  | none => none
  | some entry =>
    match entry.test.testFinishState now with
    | .error _ => none
    | .ok test =>
      if h : test.state = .testDone ∧ test.isStreamDone.1 = true then some { test := test, cnt := 0, isDone := h } else none

end IperfBatsApi

namespace IntervalLoop

variable {Conn : Type} [DecidableEq Conn]

/-- The visits of one pass, and the tests they take out. -/
def visit (now : UInt64) : IperfBatsApi Conn → List UInt32 → Except Fault (IperfBatsApi Conn × List DyingTest)
  | api, [] => .ok (api, [])
  | api, id :: ids => do
    let visited ← api.poll id now
    let (last, found) ← visit now visited ids
    return (last, (api.finished id now).toList ++ found)

/-- What happens at the server. A pass visits the identifiers of the table in its order, and then reads whether the control channel is connected for one dying test after the other. -/
inductive Action (Conn : Type)
  | pass (ids : List UInt32) (now : UInt64) (isCtrlChnConnected : Nat → Bool)
  | outside (action : IperfBatsApi.Action Conn)

def pass (s : IntervalLoop Conn) (ids : List UInt32) (now : UInt64) (isCtrlChnConnected : Nat → Bool) :
    Except Fault (IntervalLoop Conn) := do
  let (api, found) ← visit now s.api ids
  return { api := api, dyingTests := Sweep.sweep DyingTest.next isCtrlChnConnected (s.dyingTests ++ found) }

def step (s : IntervalLoop Conn) : Action Conn → Option (IntervalLoop Conn)
  | .pass ids now isCtrlChnConnected => (s.pass ids now isCtrlChnConnected).toOption
  | .outside (.poll _ _) => none
  | .outside action => (IperfBatsApi.machine.step s.api action).map fun api => { s with api := api }

def machine : Machine (IntervalLoop Conn) (Action Conn) where
  step := step

def start (config : TestConfig) : IntervalLoop Conn where
  api := .start config

/-- What a pass makes of the records of the tests that were taken out: its own tests come behind them, and all are swept. -/
def noteFound (s : IntervalLoop Conn) (a : Action Conn) (records : List (Sweep.Swept DyingTest)) :
    List (Sweep.Swept DyingTest) :=
  match a with
  | .pass ids now isCtrlChnConnected =>
    match visit now s.api ids with
    | .ok (_, found) => Sweep.mark DyingTest.next isCtrlChnConnected (records ++ found.map fun dying => { entry := dying })
    | .error _ => records
  | .outside _ => records

/-- The records of all tests that the passes of a run have found finished. -/
def founds (s : IntervalLoop Conn) (acts : List (Action Conn)) : List (Sweep.Swept DyingTest) :=
  machine.record noteFound [] s acts

def Action.isPass : Action Conn → Bool
  | .pass .. => true
  | .outside _ => false

/-- A sweep that reads that the control channel is connected, whichever test it is at. -/
def IsConnected : Action Conn → Prop
  | .pass _ _ isCtrlChnConnected => ∀ n, isCtrlChnConnected n = true
  | .outside _ => True

/-! ### How long a finished test is kept -/

theorem dyingTest_after (k : Nat) {dying : DyingTest} (h : dying.cnt ≤ 11) :
    Sweep.after DyingTest.next k dying = if dying.cnt + k ≤ 11 then some { dying with cnt := dying.cnt + k } else none := by
  induction k with
  | zero => exact (if_pos h).symm
  | succ k ih =>
    rw [Sweep.after, ih]
    by_cases hbefore : dying.cnt + k ≤ 11
    · rw [if_pos hbefore, Option.bind_some, DyingTest.next]
      by_cases hlast : dying.cnt + k > 10
      · have hgone : ¬ dying.cnt + (k + 1) ≤ 11 := by omega
        rw [if_pos hlast, if_neg hgone]
      · have hkept : dying.cnt + (k + 1) ≤ 11 := by omega
        rw [if_neg hlast, if_pos hkept, Nat.add_assoc]
    · have hgone : ¬ dying.cnt + (k + 1) ≤ 11 := by omega
      rw [if_neg hbefore, if_neg hgone, Option.bind_none]

/-! ### The visits -/

omit [DecidableEq Conn] in
theorem isSome_insert {table : Registry (@TableEntry.testId Conn)} {entry : TableEntry Conn} {k : UInt32}
    (hk : (table.find k).isSome = true) : ((table.insert entry).find k).isSome = true := by
  by_cases hentry : k = entry.testId
  · rw [Registry.find_insert table hentry.symm]
    rfl
  · rw [Registry.find_insert_of_ne table hentry]
    exact hk

omit [DecidableEq Conn] in
theorem poll_keeps {api next : IperfBatsApi Conn} {id k : UInt32} {now : UInt64} (h : api.poll id now = .ok next)
    (hk : (api.testTbl.find k).isSome = true) :
    (next.testTbl.find k).isSome = true ∨ ∃ dying, api.finished id now = some dying ∧ dying.test.testId = k := by
  unfold IperfBatsApi.poll at h
  split at h
  · obtain rfl := Except.ok.inj h
    exact .inl hk
  · rename_i entry hfind
    split at h
    · cases h
    · rename_i test hticked
      split at h
      · rename_i hdone
        obtain rfl := Except.ok.inj h
        by_cases hsame : k = id
        · right
          refine ⟨⟨test, 0, hdone⟩, ?_, ?_⟩
          · rw [IperfBatsApi.finished, hfind]
            dsimp only
            rw [hticked]
            exact dif_pos hdone
          · have hkey : entry.testId = id := api.testTbl.keyed hfind
            exact (IIperfTest.testFinishState_testId hticked).trans (hkey.trans hsame.symm)
        · left
          show (Function.update api.testTbl.find id none k).isSome = true
          rw [Function.update_of_ne hsame]
          exact hk
      · obtain rfl := Except.ok.inj h
        exact .inl (isSome_insert hk)

omit [DecidableEq Conn] in
theorem finished_new {api : IperfBatsApi Conn} {id : UInt32} {now : UInt64} {dying : DyingTest}
    (h : api.finished id now = some dying) : dying.cnt = 0 := by
  unfold IperfBatsApi.finished at h
  split at h
  · cases h
  split at h
  · cases h
  split at h
  · obtain rfl := Option.some.inj h
    rfl
  · cases h

omit [DecidableEq Conn] in
theorem visit_cons {api last : IperfBatsApi Conn} {id : UInt32} {ids : List UInt32} {now : UInt64} {found : List DyingTest}
    (h : visit now api (id :: ids) = .ok (last, found)) :
    ∃ visited rest, api.poll id now = .ok visited ∧ visit now visited ids = .ok (last, rest) ∧
      found = (api.finished id now).toList ++ rest := by
  obtain ⟨visited, hpoll, h⟩ := Fault.bind_eq_ok.mp h
  obtain ⟨⟨last, rest⟩, hvisit, h⟩ := Fault.bind_eq_ok.mp h
  obtain ⟨rfl, rfl⟩ := Prod.mk.inj (Fault.pure_eq_ok.mp h)
  exact ⟨visited, rest, hpoll, hvisit, rfl⟩

omit [DecidableEq Conn] in
theorem visit_new {api last : IperfBatsApi Conn} {ids : List UInt32} {now : UInt64} {found : List DyingTest}
    (h : visit now api ids = .ok (last, found)) : ∀ dying ∈ found, dying.cnt = 0 := by
  induction ids generalizing api found with
  | nil =>
    obtain ⟨_, rfl⟩ := Prod.mk.inj (Except.ok.inj h)
    exact fun _ hno => absurd hno List.not_mem_nil
  | cons id ids ih =>
    obtain ⟨visited, rest, _, hvisit, rfl⟩ := visit_cons h
    intro dying hmem
    rcases List.mem_append.mp hmem with hfirst | hrest
    · exact finished_new (Option.mem_toList.mp hfirst)
    · exact ih hvisit dying hrest

omit [DecidableEq Conn] in
theorem visit_keeps {api last : IperfBatsApi Conn} {ids : List UInt32} {k : UInt32} {now : UInt64} {found : List DyingTest}
    (h : visit now api ids = .ok (last, found)) (hk : (api.testTbl.find k).isSome = true) :
    (last.testTbl.find k).isSome = true ∨ ∃ dying ∈ found, dying.test.testId = k := by
  induction ids generalizing api found with
  | nil =>
    obtain ⟨rfl, _⟩ := Prod.mk.inj (Except.ok.inj h)
    exact .inl hk
  | cons id ids ih =>
    obtain ⟨visited, rest, hpoll, hvisit, rfl⟩ := visit_cons h
    rcases poll_keeps hpoll hk with hkept | ⟨dying, hfinished, hid⟩
    · refine (ih hvisit hkept).imp_right fun ⟨dying, hmem, hid⟩ => ?_
      exact ⟨dying, List.mem_append_right _ hmem, hid⟩
    · exact .inr ⟨dying, List.mem_append_left _ (Option.mem_toList.mpr hfinished), hid⟩

/-! ### Every step -/

theorem outside_keeps {api next : IperfBatsApi Conn} {a : IperfBatsApi.Action Conn} {k : UInt32}
    (hpoll : ∀ id now, a ≠ .poll id now) (h : IperfBatsApi.machine.step api a = some next)
    (hk : (api.testTbl.find k).isSome = true) : (next.testTbl.find k).isSome = true := by
  cases a with
  | message conn bytes answers =>
    obtain ⟨⟨handled, replies⟩, hhandled, rfl⟩ := Option.map_eq_some_iff.mp h
    have hhandled := Fault.toOption_eq_some.mp hhandled
    unfold IperfBatsApi.handleControlMessage at hhandled
    split at hhandled
    · cases hhandled
    · cases hhandled
    split at hhandled
    · split at hhandled
      · cases hhandled
      · unfold IperfBatsApi.createTest at hhandled
        split at hhandled
        · cases hhandled
        split at hhandled
        · obtain ⟨rfl, _⟩ := Prod.mk.inj (Except.ok.inj hhandled)
          exact isSome_insert hk
        · cases hhandled
    · split at hhandled
      · cases hhandled
      · obtain ⟨rfl, _⟩ := Prod.mk.inj (Except.ok.inj hhandled)
        exact isSome_insert hk
  | closed conn now =>
    obtain rfl := Option.some.inj h
    unfold IperfBatsApi.ctrlChannelClosed
    split
    · split
      · exact isSome_insert hk
      · exact hk
    · exact hk
  | poll id now => exact absurd rfl (hpoll id now)
  | dataStreams id test =>
    have h : api.dataStreams id test = some next := h
    unfold IperfBatsApi.dataStreams at h
    split at h
    · cases h
    split at h
    · obtain rfl := Option.some.inj h
      exact isSome_insert hk
    · cases h

theorem pass_inv {s t : IntervalLoop Conn} {ids : List UInt32} {now : UInt64} {isCtrlChnConnected : Nat → Bool}
    (h : machine.step s (.pass ids now isCtrlChnConnected) = some t) :
    ∃ found, visit now s.api ids = .ok (t.api, found) ∧
      t.dyingTests = Sweep.sweep DyingTest.next isCtrlChnConnected (s.dyingTests ++ found) := by
  obtain ⟨⟨api, found⟩, hvisit, h⟩ := Fault.bind_eq_ok.mp (Fault.toOption_eq_some.mp h)
  obtain rfl := Fault.pure_eq_ok.mp h
  exact ⟨found, hvisit, rfl⟩

theorem outside_inv {s t : IntervalLoop Conn} {a : IperfBatsApi.Action Conn} (h : machine.step s (.outside a) = some t) :
    t.dyingTests = s.dyingTests ∧ (∀ id now, a ≠ .poll id now) ∧ IperfBatsApi.machine.step s.api a = some t.api := by
  cases a with
  | poll => cases h
  | closed conn now =>
    obtain rfl := Option.some.inj h
    exact ⟨rfl, (fun _ _ hno => by cases hno), rfl⟩
  | message | dataStreams =>
    obtain ⟨api, hstep, rfl⟩ := Option.map_eq_some_iff.mp h
    exact ⟨rfl, (fun _ _ hno => by cases hno), hstep⟩

/-- What the loop holds, in terms of the records of what its passes have found. -/
structure Holds (s : IntervalLoop Conn) (records : List (Sweep.Swept DyingTest)) : Prop where
  isNew : ∀ record ∈ records, record.entry.cnt = 0
  dying : s.dyingTests = records.filterMap (Sweep.Swept.current DyingTest.next)

theorem current_new (found : List DyingTest) :
    (found.map fun dying => ({ entry := dying } : Sweep.Swept DyingTest)).filterMap (Sweep.Swept.current DyingTest.next)
      = found := by
  rw [List.filterMap_map]
  exact List.filterMap_some

theorem step_holds {s t : IntervalLoop Conn} {records : List (Sweep.Swept DyingTest)} {a : Action Conn}
    (h : Holds s records) (hstep : machine.step s a = some t) : Holds t (noteFound s a records) := by
  cases a with
  | pass ids now isCtrlChnConnected =>
    obtain ⟨found, hvisit, hdying⟩ := pass_inv hstep
    have hnew := visit_new hvisit
    rw [noteFound, hvisit]
    constructor
    · intro record hrecord
      obtain ⟨n, hn⟩ := List.mem_iff_getElem?.mp hrecord
      have hlength : n < (records ++ found.map fun dying => ({ entry := dying } : Sweep.Swept DyingTest)).length := by
        rw [← Sweep.length_mark isCtrlChnConnected]
        exact (List.getElem?_eq_some_iff.mp hn).1
      obtain ⟨later, hlater, hentry, _⟩ := Sweep.getElem?_mark DyingTest.next isCtrlChnConnected (List.getElem?_eq_getElem hlength)
      obtain rfl := Option.some.inj (hlater.symm.trans hn)
      rw [hentry]
      rcases List.mem_append.mp (List.getElem_mem hlength) with hold | hfound
      · exact h.isNew _ hold
      · obtain ⟨dying, hmem, hdying⟩ := List.mem_map.mp hfound
        rw [← hdying]
        exact hnew dying hmem
    · rw [Sweep.filterMap_mark, List.filterMap_append, current_new, ← h.dying, hdying]
  | outside a =>
    obtain ⟨hdying, _, _⟩ := outside_inv hstep
    exact ⟨h.isNew, hdying.trans h.dying⟩

theorem later_of_run {s t : IntervalLoop Conn} {acts : List (Action Conn)} {records : List (Sweep.Swept DyingTest)} {n : Nat}
    {record : Sweep.Swept DyingTest} (hrun : machine.run s acts = some t) (h : records[n]? = some record) :
    ∃ later, (machine.record noteFound records s acts)[n]? = some later ∧ later.entry = record.entry ∧
      later.sweeps = record.sweeps + acts.countP Action.isPass ∧ (record.isCut = true → later.isCut = true) ∧
      ((∀ a ∈ acts, IsConnected a) → later.isCut = record.isCut) := by
  induction acts generalizing s records record with
  | nil => exact ⟨record, h, rfl, rfl, id, fun _ => rfl⟩
  | cons a acts ih =>
    obtain ⟨next, hstep, hrest⟩ := Machine.run_cons.mp hrun
    rw [Machine.record, hstep]
    cases a with
    | pass ids now isCtrlChnConnected =>
      obtain ⟨found, hvisit, _⟩ := pass_inv hstep
      have hold : (records ++ found.map fun dying => ({ entry := dying } : Sweep.Swept DyingTest))[n]? = some record := by
        rw [List.getElem?_append_left (List.getElem?_eq_some_iff.mp h).1, h]
      obtain ⟨swept, hswept, hentry, hsweeps, hcut, hkept⟩ :=
        Sweep.getElem?_mark DyingTest.next isCtrlChnConnected hold
      have hnote : (noteFound s (.pass ids now isCtrlChnConnected) records)[n]? = some swept := by
        rw [noteFound, hvisit]
        exact hswept
      obtain ⟨later, hlater, hentry', hsweeps', hcut', hkept'⟩ := ih hrest hnote
      refine ⟨later, hlater, hentry'.trans hentry, ?_, fun h => hcut' (hcut h), fun hall => ?_⟩
      · rw [hsweeps', hsweeps, List.countP_cons_of_pos rfl]
        omega
      · have hpass : ∀ k, isCtrlChnConnected k = true := hall _ List.mem_cons_self
        exact (hkept' fun a ha => hall a (List.mem_cons_of_mem _ ha)).trans (hkept hpass)
    | outside a =>
      obtain ⟨later, hlater, hentry, hsweeps, hcut, hkept⟩ := ih hrest h
      refine ⟨later, hlater, hentry, ?_, hcut, fun hall => hkept fun b hb => hall b (List.mem_cons_of_mem _ hb)⟩
      rw [hsweeps, List.countP_cons_of_neg Bool.false_ne_true]

/-- A test that was in the table is there, or some pass has found it finished. -/
theorem run_keeps {s t : IntervalLoop Conn} {acts : List (Action Conn)} {k : UInt32}
    (hrun : machine.run s acts = some t) (hk : (s.api.testTbl.find k).isSome = true) :
    (t.api.testTbl.find k).isSome = true ∨ ∃ record ∈ founds s acts, record.entry.test.testId = k := by
  have hmarked {keeps : Nat → Bool} {records : List (Sweep.Swept DyingTest)}
      (h : ∃ record ∈ records, record.entry.test.testId = k) :
      ∃ record ∈ Sweep.mark DyingTest.next keeps records, record.entry.test.testId = k := by
    obtain ⟨record, hrecord, hid⟩ := h
    obtain ⟨n, hn⟩ := List.mem_iff_getElem?.mp hrecord
    obtain ⟨later, hlater, hentry, _⟩ := Sweep.getElem?_mark DyingTest.next keeps hn
    exact ⟨later, List.mem_of_getElem? hlater, by rw [hentry, hid]⟩
  have hstep (s : IntervalLoop Conn) (records : List (Sweep.Swept DyingTest)) (a : Action Conn) (t : IntervalLoop Conn)
      (h : (s.api.testTbl.find k).isSome = true ∨ ∃ record ∈ records, record.entry.test.testId = k) (_ : True)
      (hstep : machine.step s a = some t) : (t.api.testTbl.find k).isSome = true ∨
        ∃ record ∈ noteFound s a records, record.entry.test.testId = k := by
    cases a with
    | pass ids now isCtrlChnConnected =>
      obtain ⟨found, hvisit, _⟩ := pass_inv hstep
      rw [noteFound, hvisit]
      rcases h with hk | ⟨record, hrecord, hid⟩
      · refine (visit_keeps hvisit hk).imp_right fun ⟨dying, hdying, hid⟩ => hmarked ⟨{ entry := dying }, ?_, hid⟩
        exact List.mem_append_right _ (List.mem_map_of_mem hdying)
      · exact .inr (hmarked ⟨record, List.mem_append_left _ hrecord, hid⟩)
    | outside a =>
      obtain ⟨_, hpoll, hstep⟩ := outside_inv hstep
      exact h.imp_left (outside_keeps hpoll hstep)
  exact Machine.run_record hstep (.inl hk) (Machine.respects_of_forall (fun _ _ => trivial) s acts) hrun

/-- In every run of a server a test leaves the table only when a pass has found it finished. The loop then keeps exactly the tests that had at most eleven sweeps, one for each pass from that which found them on, and that none of their own sweeps read as not connected. -/
theorem finished_tests_kept {config : TestConfig} {first rest : List (Action Conn)} {s t : IntervalLoop Conn}
    (hfirst : machine.run (start config) first = some s) (hrest : machine.run s rest = some t) :
    (∀ id, (s.api.testTbl.find id).isSome = true → (t.api.testTbl.find id).isSome = true ∨
        ∃ record ∈ founds s rest, record.entry.test.testId = id) ∧
      t.dyingTests = (founds (start config) (first ++ rest)).filterMap (fun record =>
        if record.isCut = false ∧ record.sweeps ≤ 11 then some { record.entry with cnt := record.sweeps } else none) ∧
      ∀ (n : Nat) (record : Sweep.Swept DyingTest), (founds (start config) first)[n]? = some record →
        ∃ later : Sweep.Swept DyingTest, (founds (start config) (first ++ rest))[n]? = some later ∧ later.entry = record.entry ∧
          later.sweeps = record.sweeps + rest.countP Action.isPass ∧ (record.isCut = true → later.isCut = true) ∧
          ((∀ a ∈ rest, IsConnected a) → later.isCut = record.isCut) := by
  have hrun : machine.run (start config) (first ++ rest) = some t := Machine.run_append.mpr ⟨s, hfirst, hrest⟩
  have hstart : Holds (start config : IntervalLoop Conn) [] := ⟨fun _ hno => absurd hno List.not_mem_nil, rfl⟩
  have hholds : Holds t (founds (start config) (first ++ rest)) :=
    Machine.run_record (fun _ _ _ _ h _ hstep => step_holds h hstep) hstart
      (Machine.respects_of_forall (fun _ _ => trivial) (start config) (first ++ rest)) hrun
  refine ⟨fun id hid => run_keeps hrest hid, ?_, fun n record hrecord => ?_⟩
  · rw [hholds.dying]
    apply List.filterMap_congr
    intro record hrecord
    have hnew := hholds.isNew record hrecord
    have hafter := dyingTest_after record.sweeps (by omega : record.entry.cnt ≤ 11)
    rw [hnew, Nat.zero_add] at hafter
    rw [Sweep.Swept.current, hafter]
    cases record.isCut <;> simp
  · have hsplit : founds (start config) (first ++ rest) = machine.record noteFound (founds (start config) first) s rest :=
      Machine.record_append hfirst
    rw [hsplit]
    exact later_of_run hrest hrecord

def goneClient : List (Action Nat) :=
  [.outside (.message 0 (IperfBatsApi.parameters 7 {}) {}), .outside (.closed 0 0)]

theorem finished_tests_kept_gone :
    ∃ s t : IntervalLoop Nat, machine.run (start {}) goneClient = some s ∧
      machine.run s [.pass [7] 0 fun _ => true] = some t ∧ (t.api.testTbl.find 7).isSome = false ∧
      t.dyingTests.map (·.cnt) = [1] ∧
      ∃ record ∈ founds s [.pass [7] 0 fun _ => true], record.entry.test.testId = 7 := by
  have hrun : (machine.run (start {}) goneClient).bind (fun s =>
      (machine.run s [.pass [7] 0 fun _ => true]).map fun t =>
        ((s.api.testTbl.find 7).isSome, (t.api.testTbl.find 7).isSome, t.dyingTests.map (·.cnt)))
      = some (true, false, [1]) := by decide +kernel
  obtain ⟨s, hs, hrun⟩ := Option.bind_eq_some_iff.mp hrun
  obtain ⟨t, ht, hrun⟩ := Option.map_eq_some_iff.mp hrun
  obtain ⟨hbefore, hrun⟩ := Prod.mk.inj hrun
  obtain ⟨hafter, hcnt⟩ := Prod.mk.inj hrun
  obtain ⟨hleaves, _, _⟩ := finished_tests_kept hs ht
  refine ⟨s, t, hs, ht, hafter, hcnt, (hleaves 7 hbefore).resolve_left ?_⟩
  rw [hafter]
  exact Bool.false_ne_true

end IntervalLoop

end BatsIperf
