import BatsIperf.Api
import BatsIperf.FileTransfer.Delivery
import BatsIperf.FileTransfer.FileLength

/-!
# How many files are announced and how many are sent

The request of a sender announces the length of its list of paths, and its queue holds what the constructor has left of the list. The receiver counts down from what was announced, one file for each block that is marked as the last of its file. An empty file has no such block, and one of 2 GiB has it in the wrong place or not at all.
-/

namespace BatsIperf

open Octets Assembly

namespace IperfFileTransfer

/-! ### The queue -/

theorem length_uniqueFiles_le (disk : Disk) (files : List Path) (id : Nat) (seen : List Path) :
    (uniqueFiles disk id seen files).length ≤ files.length := by
  induction files generalizing id seen with
  | nil => exact Nat.le_refl 0
  | cons file rest ih =>
    rw [uniqueFiles]
    split
    · exact (ih (id + 1) seen).trans (Nat.le_succ _)
    · split
      · exact Nat.succ_le_succ (ih (id + 1) (file :: seen))
      · exact (ih (id + 1) (file :: seen)).trans (Nat.le_succ _)

/-- Nothing is left out exactly where every path is new and has a size. -/
theorem length_uniqueFiles_eq_iff (disk : Disk) (files : List Path) (id : Nat) (seen : List Path) :
    (uniqueFiles disk id seen files).length = files.length
      ↔ files.Nodup ∧ ∀ file ∈ files, file ∉ seen ∧ (disk file).isSome := by
  induction files generalizing id seen with
  | nil => simp [uniqueFiles]
  | cons file rest ih =>
    rw [uniqueFiles, List.length_cons, List.nodup_cons, List.forall_mem_cons]
    split
    · rename_i hseen
      have hle := length_uniqueFiles_le disk rest (id + 1) seen
      exact ⟨fun heq => absurd heq (by omega), fun h => absurd hseen h.2.1.1⟩
    · rename_i hnew
      split
      · rename_i content hcontent
        rw [List.length_cons, Nat.add_right_cancel_iff, ih]
        constructor
        · rintro ⟨hnodup, hrest⟩
          refine ⟨⟨fun hmem => (hrest file hmem).1 List.mem_cons_self, hnodup⟩,
            ⟨hnew, hcontent ▸ rfl⟩, fun other hother => ?_⟩
          exact ⟨fun hmem => (hrest other hother).1 (List.mem_cons_of_mem file hmem), (hrest other hother).2⟩
        · rintro ⟨⟨hfile, hnodup⟩, _, hrest⟩
          refine ⟨hnodup, fun other hother => ⟨fun hmem => ?_, (hrest other hother).2⟩⟩
          rcases List.mem_cons.mp hmem with rfl | hmem
          · exact hfile hother
          · exact (hrest other hother).1 hmem
      · rename_i hnone
        have hle := length_uniqueFiles_le disk rest (id + 1) (file :: seen)
        refine ⟨fun heq => absurd heq (by omega), fun h => ?_⟩
        have hsome := h.2.1.2
        rw [hnone] at hsome
        exact absurd hsome Bool.false_ne_true

theorem nodup_uniqueFiles (disk : Disk) (files : List Path) (id : Nat) (seen : List Path) :
    (uniqueFiles disk id seen files).Nodup := by
  induction files generalizing id seen with
  | nil => exact List.nodup_nil
  | cons path rest ih =>
    rw [uniqueFiles]
    split
    · exact ih (id + 1) seen
    split
    · refine List.nodup_cons.mpr ⟨fun hmem => ?_, ih (id + 1) (path :: seen)⟩
      exact (mem_uniqueFiles hmem).1 List.mem_cons_self
    · exact ih (id + 1) (path :: seen)

theorem path_of_mem {disk : Disk} {config : TestConfig} {testId : UInt32} {file : File}
    (hfile : file ∈ (sender disk config testId).pendingFiles) : file.path ∈ config.files := by
  have hpaths (files seen : List Path) (id : Nat) (hmem : file ∈ uniqueFiles disk id seen files) : file.path ∈ files := by
    induction files generalizing id seen with
    | nil => exact absurd hmem List.not_mem_nil
    | cons path rest ih =>
      rw [uniqueFiles] at hmem
      split at hmem
      · exact List.mem_cons_of_mem _ (ih _ _ hmem)
      split at hmem
      · rcases List.mem_cons.mp hmem with rfl | hmem
        · exact List.mem_cons_self
        · exact List.mem_cons_of_mem _ (ih _ _ hmem)
      · exact List.mem_cons_of_mem _ (ih _ _ hmem)
  exact hpaths config.files [] 0 hfile

theorem exists_queued {disk : Disk} {config : TestConfig} (testId : UInt32) {path : Path} {content : Octets}
    (hpath : path ∈ config.files) (hcontent : disk path = some content) :
    ∃ file ∈ (sender disk config testId).pendingFiles, file.path = path := by
  have hqueued (files seen : List Path) (id : Nat) (hmem : path ∈ files) (hnew : path ∉ seen) :
      ∃ file ∈ uniqueFiles disk id seen files, file.path = path := by
    induction files generalizing id seen with
    | nil => exact absurd hmem List.not_mem_nil
    | cons first rest ih =>
      rw [uniqueFiles]
      by_cases heq : first = path
      · subst heq
        rw [if_neg hnew, hcontent]
        exact ⟨_, List.mem_cons_self, rfl⟩
      have hrest : path ∈ rest := (List.mem_cons.mp hmem).resolve_left fun h => heq h.symm
      have hboth : path ∉ first :: seen := fun h => (List.mem_cons.mp h).elim (fun h => heq h.symm) hnew
      split
      · exact ih _ _ hrest hnew
      split
      · obtain ⟨file, hfile, hname⟩ := ih _ (id + 1) hrest hboth
        exact ⟨file, List.mem_cons_of_mem _ hfile, hname⟩
      · exact ih _ _ hrest hboth
  exact hqueued config.files [] 0 hpath List.not_mem_nil

/-! ### The last block of a file -/

/-- Whatever stream sends a queued file without an error, it marks one block as the last, that after which all of the file is sent. -/
def Finishes (disk : Disk) (density : Density) (file : File) : Prop :=
  ∀ {test : IperfFileTransfer} {ideal : UInt64 → Int} {stream : FileStream} {content : Octets} {fuel : Nat},
    disk file.path = some content → (∀ sentBytes, Usable sentBytes (ideal sentBytes)) → Undisturbed test stream →
      stream.thread = .openFile file → 5 * content.length + 7 ≤ fuel →
        ∃ sent, errorFreeRun disk density test ideal fuel stream = .ok sent ∧
          SentBlock.FinishesOnce content.length sent

theorem finishes_iff {disk : Disk} {density : Density} {config : TestConfig} {testId : UInt32} {file : File}
    {content : Octets} (hfile : file ∈ (sender disk config testId).pendingFiles) (hcontent : disk file.path = some content)
    (hsize : content.length < 2 ^ 63) :
    Finishes disk density file ↔ 0 < content.length ∧ content.length < 2 ^ 31 := by
  have hlength := totalFileLength_of_mem hfile hcontent hsize
  constructor
  · intro h
    let stream : FileStream := { id := 0, isConnected := true, stream := true, thread := .openFile file }
    have hquiet : Undisturbed (sender disk config testId) stream := ⟨TestState.noConfusion, rfl, rfl, rfl, rfl⟩
    have husable (sentBytes : UInt64) : Usable sentBytes 4096 := usable_of_mem (by decide) (by decide) sentBytes
    obtain ⟨sent, hrun, hfinishes⟩ := h hcontent husable hquiet rfl (Nat.le_refl _)
    obtain ⟨_, hsame, hsends⟩ : ∃ sent, errorFreeRun disk density (sender disk config testId) (fun _ => 4096)
        (5 * content.length + 7) stream = .ok sent ∧ SendsRest (openLocals disk stream.id file content) sent :=
      errorFreeRun_file hcontent hsize husable hquiet rfl (Nat.le_refl _)
    obtain rfl := Except.ok.inj (hsame.symm.trans hrun)
    exact (hsends.finishesOnce_iff hsize hlength).mp hfinishes
  · intro hbounds test ideal stream found fuel hfound husable hquiet hthread hfuel
    obtain rfl := Option.some.inj (hcontent.symm.trans hfound)
    obtain ⟨sent, hrun, hsends⟩ := errorFreeRun_file hcontent hsize husable hquiet hthread hfuel
    exact ⟨sent, hrun, (hsends.finishesOnce_iff hsize hlength).mpr hbounds⟩

end IperfFileTransfer

/-! ### The count of the receiver -/

namespace FileSession

open IperfFileTransfer

/-- A stream has fetched the file as its `n`-th, counted from 0, and the receiver has closed more than `n` files of the stream. -/
def HasFinished (density : Density) (s : FileSession) (file : File) : Prop :=
  ∃ i n, (s.filesOf i)[n]? = some file ∧ n < closed density s i

section

variable {senderDisk : Disk} {density : Density} {queue : List File} {announced : Nat} {s t : FileSession}

theorem closed_le (hcarried : ∀ i < s.sender.streams.length, Carried senderDisk density (s.wire i) (s.filesOf i))
    (h : Counting density announced s) (i : Nat) : closed density s i ≤ (s.filesOf i).length := by
  unfold closed
  cases ha : assemble (segment density) (s.handledBlocks i) with
  | none => exact Nat.zero_le _
  | some a =>
    by_cases hi : i ∈ s.peers
    · have hnames := (names_of_initial (hcarried i (h.bounded i hi)) (handledBlocks_initial s i) ha).length_le
      rw [List.length_map, List.length_map, keys, messages, List.map_append, List.length_append, List.length_map] at hnames
      exact (Nat.le_add_right _ _).trans hnames
    · have hnothing : s.handledBlocks i = [] := by rw [handledBlocks, h.unpeered i hi, List.take_zero]
      rw [hnothing, assemble_nil] at ha
      obtain rfl := Option.some.inj ha
      exact Nat.zero_le _

theorem mem_filesOf {i : Nat} {file : File} : file ∈ s.filesOf i ↔ (i, file) ∈ s.fetched := by
  simp [filesOf]

/-- Where every file of the queue has finished, every stream has had all its files closed. -/
theorem closed_of_finished (hqueue : s.fetched.map Prod.snd ++ s.sender.pendingFiles = queue) (hnodup : queue.Nodup)
    (hfinished : ∀ file ∈ queue, HasFinished density s file) (i : Nat) :
    (s.filesOf i).length ≤ closed density s i := by
  have hdistinct : (s.fetched.map Prod.snd).Nodup := (hqueue ▸ List.sublist_append_left _ _ : List.Sublist _ queue).nodup hnodup
  by_contra hless
  rw [not_le] at hless
  have hn := List.getElem?_eq_getElem hless
  have hentry := mem_filesOf.mp (List.mem_of_getElem? hn)
  obtain ⟨k, m, hm, hclosed⟩ := hfinished _ (mem_of_filesOf hqueue (List.mem_of_getElem? hn))
  have hother := mem_filesOf.mp (List.mem_of_getElem? hm)
  obtain rfl : k = i := congrArg Prod.fst (List.inj_on_of_nodup_map hdistinct hother hentry rfl)
  have hown : (s.filesOf k).Nodup := (List.filter_sublist.map _).nodup hdistinct
  obtain rfl := (List.getElem?_inj (List.getElem?_eq_some_iff.mp hm).1 hown).mp (hm.trans hn.symm)
  exact Nat.lt_irrefl _ hclosed

theorem drained_of_finished (hqueue : s.fetched.map Prod.snd ++ s.sender.pendingFiles = queue) (hnodup : queue.Nodup)
    (hfinished : ∀ file ∈ queue, HasFinished density s file) : s.fetched.length = queue.length := by
  have hempty : s.sender.pendingFiles = [] := by
    rw [List.eq_nil_iff_forall_not_mem]
    intro file hfile
    obtain ⟨i, n, hn, _⟩ := hfinished file (hqueue ▸ List.mem_append_right _ hfile)
    have hfetched : file ∈ s.fetched.map Prod.snd :=
      List.mem_map_of_mem (mem_filesOf.mp (List.mem_of_getElem? hn))
    rw [← hqueue] at hnodup
    exact List.disjoint_of_nodup_append hnodup hfetched hfile
  rw [← hqueue, hempty, List.append_nil, List.length_map]

/-- The count is down to 0 exactly when every file of the queue has finished. -/
theorem numFiles_eq_zero_iff (hcarried : ∀ i < s.sender.streams.length, Carried senderDisk density (s.wire i) (s.filesOf i))
    (hqueue : s.fetched.map Prod.snd ++ s.sender.pendingFiles = queue)
    (hbounded : ∀ entry ∈ s.fetched, entry.1 < s.sender.streams.length) (hnodup : queue.Nodup)
    (h : Counting density queue.length s) :
    s.receiver.testConfig.numFiles = 0 ↔ ∀ file ∈ queue, HasFinished density s file := by
  have hle := closed_le hcarried h
  have hsum : ∑ i ∈ Finset.range s.sender.streams.length, (s.filesOf i).length = s.fetched.length := sum_filesOf hbounded
  have hclosedSum := Finset.sum_le_sum fun i (_ : i ∈ Finset.range s.sender.streams.length) => hle i
  have hfetched : s.fetched.length + s.sender.pendingFiles.length = queue.length := by
    rw [← hqueue, List.length_append, List.length_map]
  have hcount : s.receiver.testConfig.numFiles = 0 ↔
      queue.length ≤ ∑ i ∈ Finset.range s.sender.streams.length, closed density s i := by
    rw [h.numFiles]
    omega
  rw [hcount]
  constructor
  · intro hall file hfile
    have hempty : s.sender.pendingFiles = [] := List.length_eq_zero_iff.mp (by omega)
    have hequal := (Finset.sum_eq_sum_iff_of_le fun i (_ : i ∈ Finset.range s.sender.streams.length) => hle i).mp (by omega)
    rw [← hqueue, hempty, List.append_nil] at hfile
    obtain ⟨⟨i, _⟩, hentry, rfl⟩ := List.mem_map.mp hfile
    obtain ⟨n, hn⟩ := List.mem_iff_getElem?.mp (mem_filesOf.mpr hentry)
    refine ⟨i, n, hn, ?_⟩
    rw [hequal i (Finset.mem_range.mpr (hbounded _ hentry))]
    exact (List.getElem?_eq_some_iff.mp hn).1
  · intro hfinished
    rw [← drained_of_finished hqueue hnodup hfinished, ← hsum]
    exact Finset.sum_le_sum fun i _ => closed_of_finished hqueue hnodup hfinished i

/-- A sender without streams leaves its queue as it is. -/
structure Streamless (queue : List File) (s : FileSession) : Prop where
  streams : s.sender.streams = []
  fetched : s.fetched = []
  queue : s.sender.pendingFiles = queue

theorem streamless_step (h : Streamless queue s) {a : Action} (hquiet : Quiet a)
    (hstep : (machine senderDisk density).step s a = some t) : Streamless queue t := by
  cases a with
  | event i event =>
    obtain ⟨_, sender, hcallback, rfl⟩ := event_inv hstep
    rcases connectionCallback_cases hcallback with ⟨_, _, hstream, _⟩ | ⟨rfl, _⟩ | ⟨rfl, _⟩
    · rw [h.streams] at hstream
      cases hstream
    · exact ⟨h.streams, h.fetched, h.queue⟩
    · exact ⟨h.streams, h.fetched, h.queue⟩
  | thread i answers =>
    obtain ⟨_, _, hstream, _⟩ := thread_inv hstep
    rw [h.streams] at hstream
    cases hstream
  | poll =>
    obtain rfl := Option.some.inj hstep
    rcases s.sender.isStreamDone_cases with ⟨hsame, _⟩ | ⟨hdone, _⟩
    · have hsender : s.sender.testFinishState.2 = s.sender := hsame
      rw [hsender]
      exact h
    · have hsender : s.sender.testFinishState.2 = { s.sender with state := .testDone } := congrArg Prod.snd hdone
      rw [hsender]
      exact ⟨h.streams, h.fetched, h.queue⟩
  | stop | clearStreams => exact absurd hquiet (by simp [Quiet])
  | accept | receiverEvent | deliver | receiverPoll =>
    obtain ⟨hsender, _, _, hfetched⟩ := sender_unchanged hstep rfl
    exact ⟨hsender ▸ h.streams, hfetched ▸ h.fetched, hsender ▸ h.queue⟩

end

/-- In a quiet run of a transfer that was accepted, with files of 1 to 2^31 - 1 bytes, the count is down to 0 exactly when every file of the queue has finished. -/
theorem numFiles_of_run {senderDisk : Disk} {density : Density} {config serverConfig : TestConfig} {testId : UInt32}
    {available : Option Nat} {disk : Disk} {s t : FileSession} {acts : List Action} (hlawful : density.Lawful)
    (hcount : config.files.length ≤ 10) (hlength : (FileSession.queue senderDisk config).length = config.files.length)
    (hsendable : ∀ file ∈ FileSession.queue senderDisk config, Sendable senderDisk file)
    (hstart : start senderDisk config serverConfig testId available disk = .ok s)
    (haccepted : denied senderDisk config testId available = false)
    (hquiet : (machine senderDisk density).Respects (fun _ a => Quiet a) s acts)
    (hrun : (machine senderDisk density).run s acts = some t) :
    t.receiver.testConfig.numFiles = 0 ↔ ∀ file ∈ FileSession.queue senderDisk config, HasFinished density t file := by
  have hnodup : (FileSession.queue senderDisk config).Nodup := nodup_uniqueFiles ..
  have hcounting : Counting density (FileSession.queue senderDisk config).length s :=
    hlength ▸ counting_start hstart haccepted hcount
  by_cases hstreams : 1 ≤ config.numStreams
  · have hsending : Sending senderDisk density (FileSession.queue senderDisk config) s := sending_start hstart haccepted hstreams
    have hstep (u : FileSession) (a : Action) (v : FileSession)
        (h : Sending senderDisk density (FileSession.queue senderDisk config) u ∧
          Counting density (FileSession.queue senderDisk config).length u)
        (hquiet : Quiet a) (hstep : (machine senderDisk density).step u a = some v) :
        Sending senderDisk density (FileSession.queue senderDisk config) v ∧
          Counting density (FileSession.queue senderDisk config).length v :=
      ⟨sending_step hlawful hsendable h.1 hquiet hstep,
        counting_step (fun i hi => h.1.carried (List.getElem?_eq_getElem hi)) h.2 hquiet hstep⟩
    obtain ⟨hsent, hcounted⟩ := Machine.run_invariant hstep ⟨hsending, hcounting⟩ hquiet hrun
    exact numFiles_eq_zero_iff (fun i hi => hsent.carried (List.getElem?_eq_getElem hi)) hsent.queue hsent.bounded hnodup
      hcounted
  · have hempty : Streamless (FileSession.queue senderDisk config) s := by
      have hnone : config.numStreams.toNat = 0 := by omega
      have hsender := sender_start hstart haccepted
      refine ⟨?_, (ghosts_start hstart).1, ?_⟩
      · rw [hsender]
        simp [opened, hnone]
      · rw [hsender]
        rfl
    have hnothing {u : FileSession} (h : Streamless (FileSession.queue senderDisk config) u) (i : Nat)
        (hi : i < u.sender.streams.length) : Carried senderDisk density (u.wire i) (u.filesOf i) := by
      rw [h.streams] at hi
      exact absurd hi (Nat.not_lt_zero i)
    have hstep (u : FileSession) (a : Action) (v : FileSession)
        (h : Streamless (FileSession.queue senderDisk config) u ∧
          Counting density (FileSession.queue senderDisk config).length u)
        (hquiet : Quiet a) (hstep : (machine senderDisk density).step u a = some v) :
        Streamless (FileSession.queue senderDisk config) v ∧
          Counting density (FileSession.queue senderDisk config).length v :=
      ⟨streamless_step h.1 hquiet hstep, counting_step (hnothing h.1) h.2 hquiet hstep⟩
    obtain ⟨hidle, hcounted⟩ := Machine.run_invariant hstep ⟨hempty, hcounting⟩ hquiet hrun
    have hqueue : t.fetched.map Prod.snd ++ t.sender.pendingFiles = FileSession.queue senderDisk config := by
      rw [hidle.fetched, hidle.queue]
      rfl
    refine numFiles_eq_zero_iff (hnothing hidle) hqueue (fun entry hentry => ?_) hnodup hcounted
    rw [hidle.fetched] at hentry
    exact absurd hentry List.not_mem_nil

end FileSession

namespace IperfFileTransfer

/-- As many files are announced as are queued, every queued file has a last block, and in every transfer without errors the receiver's count is down to 0 exactly when every queued file has finished. -/
structure CountsAgree (density : Density) (disk : Disk) (config : TestConfig) (testId : UInt32) : Prop where
  announced : (sender disk config testId).requestHeader.param0.toNat = (sender disk config testId).pendingFiles.length
  finishing : ∀ file ∈ (sender disk config testId).pendingFiles, Finishes disk density file
  counted : ∀ {serverConfig : TestConfig} {available : Option Nat} {received : Disk} {s t : FileSession}
    {acts : List FileSession.Action}, FileSession.start disk config serverConfig testId available received = .ok s →
      FileSession.denied disk config testId available = false →
      (FileSession.machine disk density).Respects (fun _ a => FileSession.Quiet a) s acts →
      (FileSession.machine disk density).run s acts = some t →
        (t.receiver.testConfig.numFiles = 0 ↔
          ∀ file ∈ (sender disk config testId).pendingFiles, FileSession.HasFinished density t file)

theorem files_le {fileExists : Path → Bool} {config : TestConfig} (hrole : config.role = .roleFileSender)
    (hvalid : validateClientConfig fileExists config = true) : config.files.length ≤ maxTransferFiles := by
  simp only [validateClientConfig, validateFileSender, hrole, Bool.and_eq_true, bne_self_eq_false, Bool.false_or,
    decide_eq_true_eq] at hvalid
  exact hvalid.2.1.1.2

/-- For every list of paths that passes the checks and every outcome of the look-up of their sizes, the two counts agree exactly where the list has no path twice, every path has a size, and no file is empty or has 2^31 bytes or more. -/
theorem countsAgree_iff {fileExists : Path → Bool} {config : TestConfig} (hrole : config.role = .roleFileSender)
    (hvalid : validateClientConfig fileExists config = true) {density : Density} (hlawful : density.Lawful) {disk : Disk}
    (hsizes : ∀ path ∈ config.files, ∀ content ∈ disk path, content.length < 2 ^ 63) (testId : UInt32) :
    CountsAgree density disk config testId ↔ config.files.Nodup ∧
      ∀ path ∈ config.files, ∃ content ∈ disk path, 0 < content.length ∧ content.length < 2 ^ 31 := by
  have hle := files_le hrole hvalid
  unfold maxTransferFiles at hle
  have hparam : (sender disk config testId).requestHeader.param0.toNat = config.files.length :=
    UInt32.toNat_ofNat_of_lt' (show config.files.length < 2 ^ 32 by omega)
  have hqueued : (sender disk config testId).pendingFiles.length = config.files.length
      ↔ config.files.Nodup ∧ ∀ path ∈ config.files, (disk path).isSome := by
    refine (length_uniqueFiles_eq_iff disk config.files 0 []).trans ?_
    simp only [List.not_mem_nil, not_false_eq_true, true_and]
  constructor
  · intro h
    obtain ⟨hnodup, hreadable⟩ := hqueued.mp (h.announced.symm.trans hparam)
    refine ⟨hnodup, fun path hpath => ?_⟩
    obtain ⟨content, hcontent⟩ := Option.isSome_iff_exists.mp (hreadable path hpath)
    obtain ⟨file, hfile, rfl⟩ := exists_queued testId hpath hcontent
    exact ⟨content, hcontent, (finishes_iff hfile hcontent (hsizes _ hpath content hcontent)).mp (h.finishing file hfile)⟩
  · rintro ⟨hnodup, hbounds⟩
    have hlength := hqueued.mpr ⟨hnodup, fun path hpath => by
      obtain ⟨content, hcontent, _⟩ := hbounds path hpath
      rw [Option.mem_def.mp hcontent]
      rfl⟩
    have hfound {file : File} (hfile : file ∈ (sender disk config testId).pendingFiles) :
        ∃ content, disk file.path = some content ∧ 0 < content.length ∧ content.length < 2 ^ 31 :=
      hbounds file.path (path_of_mem hfile)
    refine ⟨hparam.trans hlength.symm, fun file hfile => ?_, ?_⟩
    · obtain ⟨content, hcontent, hsize⟩ := hfound hfile
      exact (finishes_iff hfile hcontent (hsize.2.trans (by decide))).mpr hsize
    · intro serverConfig available received s t acts hstart haccepted hquiet hrun
      refine FileSession.numFiles_of_run hlawful hle hlength (fun file hfile => ?_) hstart haccepted hquiet hrun
      obtain ⟨found, hcontent, hsize⟩ := hfound hfile
      have hread : content disk file = found := by rw [content, hcontent, Option.getD_some]
      exact FileSession.sendable_of_size hle hfile (hread ▸ hsize.1) (hread ▸ hsize.2)

def filesConfig (files : List Path) : TestConfig where
  protocol := 1
  peerHost := "192.0.2.1"
  files := files
  role := .roleFileSender

theorem countsAgree_iff_pair :
    CountsAgree .failing (fun _ => some [1]) (filesConfig [ofText "a", ofText "b"]) 7 := by
  have hvalid : validateClientConfig (fun _ => true) (filesConfig [ofText "a", ofText "b"]) = true := by decide
  have hsizes (path : Path) (_ : path ∈ (filesConfig [ofText "a", ofText "b"]).files) (content : Octets)
      (hcontent : content ∈ some [(1 : UInt8)]) : content.length < 2 ^ 63 := by
    obtain rfl := Option.some.inj hcontent
    decide
  apply (countsAgree_iff rfl hvalid Density.failing_lawful hsizes 7).mpr
  exact ⟨by decide, fun _ _ => ⟨[1], rfl, by decide, by decide⟩⟩

/-- One path given twice is announced twice and queued once. -/
theorem announced_twice_counterexample :
    validateClientConfig (fun _ => true) (filesConfig [ofText "a", ofText "a"]) = true ∧
      (sender (fun _ => some [1]) (filesConfig [ofText "a", ofText "a"]) 7).requestHeader.param0 = 2 ∧
      (sender (fun _ => some [1]) (filesConfig [ofText "a", ofText "a"]) 7).pendingFiles.length = 1 ∧
      ¬ CountsAgree .failing (fun _ => some [1]) (filesConfig [ofText "a", ofText "a"]) 7 := by
  have hparam : (sender (fun _ => some [1]) (filesConfig [ofText "a", ofText "a"]) 7).requestHeader.param0 = 2 := by
    decide +kernel
  have hqueued : (sender (fun _ => some [1]) (filesConfig [ofText "a", ofText "a"]) 7).pendingFiles.length = 1 := by
    decide +kernel
  refine ⟨by decide, hparam, hqueued, fun h => ?_⟩
  have hcount := h.announced
  rw [hparam, hqueued] at hcount
  exact absurd hcount (by decide)

end IperfFileTransfer

end BatsIperf
