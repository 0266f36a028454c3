import BatsIperf.Common
import BatsIperf.Foundation.Fault

/-!
# The command line

The loop of `InitFromArgs` over the arguments after the program's name. Options are looked up in tables of the members they set. A token that is not an option is one more file where a `-f` has been read before, however long ago.
-/

namespace BatsIperf

open Octets

/-- What is made of the value of an option: `std::stof` and `std::stoi`, for numbers that parse, and the text of a host. -/
structure Parsers where
  stof : Octets → ℚ
  stoi : Octets → Int
  host : Octets → String

/-- The members that the loop sets, with its own two variables. -/
structure Arguments where
  userInputConfig : TestConfig := {}
  testRole : TestRole := .roleNone
  interfaceName : Octets := []
  logFile : Octets := []
  batsLogPath : Octets := []
  curVecArg : Octets := []
  isReadingVec : Bool := false

/-- How an iteration ends: with a return, or before the next token, which is past the value where one has been read. -/
inductive ArgStep
  | returned (role : TestRole) (arguments : Arguments)
  | goesOn (arguments : Arguments)
  | tookValue (arguments : Arguments)

/-- How the loop ends: with a return while a token is read, before the tokens that are left, or after the last one. -/
inductive ArgsResult
  | returned (role : TestRole) (left : List Octets) (arguments : Arguments)
  | finished (arguments : Arguments)

namespace Arguments

/-! ### The tables -/

def intArgsTbl : List (Octets × (TestConfig → Int → TestConfig)) :=
  [(ofText "-P", fun config value => { config with numStreams := value }),
    (ofText "-p", fun config value => { config with port := value }),
    (ofText "-m", fun config value => { config with protocol := value }),
    (ofText "-b", fun config value => { config with maxAllowedSendingRate := value })]

def vecArgsTbl : List (Octets × (TestConfig → Octets → TestConfig)) :=
  [(ofText "-f", fun config value => { config with files := config.files ++ [value] })]

def strArgsTbl : List (Octets × (Arguments → Octets → Arguments)) :=
  [(ofText "-I", fun arguments value => { arguments with interfaceName := value }),
    (ofText "-l", fun arguments value => { arguments with logFile := value }),
    (ofText "-L", fun arguments value => { arguments with batsLogPath := value })]

/-! ### The loop -/

variable (parsers : Parsers)

/-- One iteration. The next token is there if `i + 1 < argc`: it is `argv[argc]` that is read in its place where this is not checked. -/
def readArg (arguments : Arguments) (arg : Octets) (next : Option Octets) : Except Fault ArgStep :=
  let config := arguments.userInputConfig
  if arg = ofText "-h" then
    .ok (.returned .roleObserver arguments)
  else if arg = ofText "-t" then do
    let value ← Fault.need .outOfBounds next
    return .tookValue { arguments with userInputConfig := { config with time := parsers.stof value } }
  else if arg = ofText "-i" then do
    let value ← Fault.need .outOfBounds next
    return .tookValue { arguments with userInputConfig := { config with interval := parsers.stof value } }
  else if arg = ofText "-d" then
    .ok (.goesOn { arguments with userInputConfig := { config with isDebugMode := true } })
  else if arg = ofText "-r" then
    .ok (.goesOn { arguments with userInputConfig := { config with isReverseEnabled := true } })
  else if arg = ofText "-C" then
    .ok (.goesOn { arguments with userInputConfig := { config with isCompressionEnabled := true } })
  else if arg = ofText "-T" then
    .ok (.goesOn { arguments with userInputConfig := { config with isPreciseTimeEnabled := true } })
  else if arg = ofText "-s" then
    if arguments.testRole = .roleNone then
      .ok (.goesOn { arguments with testRole := .roleReceiver })
    else
      .ok (.returned .roleNone arguments)
  else if let some set := intArgsTbl.lookup arg then
    match next with
    | some value => .ok (.tookValue { arguments with userInputConfig := set config (parsers.stoi value) })
    | none => .ok (.returned .roleNone arguments)
  else if let some push := vecArgsTbl.lookup arg then
    match next with
    | some value =>
      .ok (.tookValue { arguments with
        curVecArg := arg, isReadingVec := true, userInputConfig := push config value })
    | none => .ok (.returned .roleNone arguments)
  else if let some set := strArgsTbl.lookup arg then
    match next with
    | some value => .ok (.tookValue (set arguments value))
    | none => .ok (.returned .roleNone arguments)
  else if arg = ofText "-c" then
    match next with
    | some value =>
      let named := { arguments with userInputConfig := { config with peerHost := parsers.host value } }
      if arguments.testRole = .roleNone then
        .ok (.tookValue { named with testRole := .roleSender })
      else
        .ok (.returned .roleNone named)
    | none => .ok (.returned .roleNone arguments)
  else if arguments.isReadingVec = true ∧ arguments.curVecArg ≠ [] then do
    let push ← Fault.need .terminated (vecArgsTbl.lookup arguments.curVecArg)
    return .goesOn { arguments with userInputConfig := push config arg }
  else
    .ok (.returned .roleNone arguments)

def readArgs (arguments : Arguments) : List Octets → Except Fault ArgsResult
  | [] => .ok (.finished arguments)
  | arg :: rest =>
    match readArg parsers arguments arg rest.head? with
    | .error fault => .error fault
    | .ok (.returned role next) => .ok (.returned role rest next)
    | .ok (.goesOn next) => readArgs next rest
    | .ok (.tookValue next) =>
      match rest with
      | [] => .ok (.finished next)
      | _ :: rest => readArgs next rest

/-! ### The options -/

/-- The options without a value, but for the help and the role. -/
def flagOptions : List Octets := [ofText "-d", ofText "-r", ofText "-C", ofText "-T"]

/-- The options with a value that the loop does not check for. -/
def uncheckedOptions : List Octets := [ofText "-t", ofText "-i"]

def valueOptions : List Octets :=
  uncheckedOptions ++ (intArgsTbl.map Prod.fst ++ strArgsTbl.map Prod.fst)

/-- All options. They are those that the usage lists. -/
def options : List Octets :=
  [ofText "-h", ofText "-s", ofText "-c", ofText "-f"] ++ (flagOptions ++ valueOptions)

/-- What a later iteration depends on: whether there is a role, whether a vector is being read, and the files so far. -/
structure Seen (arguments : Arguments) (roleSet inVec : Bool) (files : List Path) : Prop where
  role : arguments.testRole = .roleNone ↔ roleSet = false
  reading : arguments.isReadingVec = inVec
  vec : inVec = true → arguments.curVecArg = ofText "-f"
  files : arguments.userInputConfig.files = files

theorem seen_init : Seen {} false false [] := ⟨by simp, rfl, by simp, rfl⟩

section

variable {parsers} {arguments : Arguments} {roleSet inVec : Bool} {files : List Path} {arg : Octets}

theorem readArg_flag (hseen : arguments.Seen roleSet inVec files) (harg : arg ∈ flagOptions) (next : Option Octets) :
    ∃ after, readArg parsers arguments arg next = .ok (.goesOn after) ∧ after.Seen roleSet inVec files := by
  simp only [flagOptions, List.mem_cons, List.not_mem_nil, or_false] at harg
  rcases harg with rfl | rfl | rfl | rfl <;>
    exact ⟨_, rfl, hseen.role, hseen.reading, hseen.vec, hseen.files⟩

theorem readArg_value (hseen : arguments.Seen roleSet inVec files) (harg : arg ∈ valueOptions) (value : Octets) :
    ∃ after, readArg parsers arguments arg (some value) = .ok (.tookValue after) ∧ after.Seen roleSet inVec files := by
  simp only [valueOptions, uncheckedOptions, intArgsTbl, strArgsTbl, List.map_cons, List.map_nil, List.cons_append,
    List.nil_append, List.mem_cons, List.not_mem_nil, or_false] at harg
  rcases harg with rfl | rfl | rfl | rfl | rfl | rfl | rfl | rfl | rfl <;>
    exact ⟨_, rfl, hseen.role, hseen.reading, hseen.vec, hseen.files⟩

theorem readArg_files (hseen : arguments.Seen roleSet inVec files) (value : Octets) :
    ∃ after, readArg parsers arguments (ofText "-f") (some value) = .ok (.tookValue after)
      ∧ after.Seen roleSet true (files ++ [value]) :=
  ⟨_, rfl, hseen.role, rfl, fun _ => rfl, congrArg (· ++ [value]) hseen.files⟩

theorem readArg_server (hseen : arguments.Seen false inVec files) (next : Option Octets) :
    ∃ after, readArg parsers arguments (ofText "-s") next = .ok (.goesOn after) ∧ after.Seen true inVec files :=
  ⟨_, if_pos (hseen.role.mpr rfl), by simp, hseen.reading, hseen.vec, hseen.files⟩

theorem readArg_server_of_role (hseen : arguments.Seen true inVec files) (next : Option Octets) :
    readArg parsers arguments (ofText "-s") next = .ok (.returned .roleNone arguments) :=
  if_neg fun hrole => Bool.noConfusion (hseen.role.mp hrole)

theorem readArg_client (hseen : arguments.Seen false inVec files) (host : Octets) :
    ∃ after, readArg parsers arguments (ofText "-c") (some host) = .ok (.tookValue after) ∧ after.Seen true inVec files :=
  ⟨_, if_pos (hseen.role.mpr rfl), by simp, hseen.reading, hseen.vec, hseen.files⟩

theorem readArg_client_of_role (hseen : arguments.Seen true inVec files) (host : Octets) :
    ∃ after, readArg parsers arguments (ofText "-c") (some host) = .ok (.returned .roleNone after)
      ∧ after.Seen true inVec files :=
  ⟨_, if_neg fun hrole => Bool.noConfusion (hseen.role.mp hrole), hseen.role, hseen.reading, hseen.vec, hseen.files⟩

/-- Where a value is missing, the loop returns if it checks that there is one. -/
theorem readArg_missing (harg : arg ∈ ofText "-c" :: ofText "-f" :: valueOptions) (hchecked : arg ∉ uncheckedOptions) :
    readArg parsers arguments arg none = .ok (.returned .roleNone arguments) := by
  simp only [valueOptions, intArgsTbl, strArgsTbl, List.map_cons, List.map_nil, List.cons_append,
    List.nil_append, List.mem_cons, List.mem_append, List.not_mem_nil, or_false, hchecked, false_or] at harg
  rcases harg with rfl | rfl | rfl | rfl | rfl | rfl | rfl | rfl | rfl <;> rfl

theorem readArg_unchecked (harg : arg ∈ uncheckedOptions) :
    readArg parsers arguments arg none = .error .outOfBounds := by
  simp only [uncheckedOptions, List.mem_cons, List.not_mem_nil, or_false] at harg
  rcases harg with rfl | rfl <;> rfl

theorem readArg_stray (harg : arg ∉ options) (next : Option Octets) :
    readArg parsers arguments arg next
      = if arguments.isReadingVec = true ∧ arguments.curVecArg ≠ [] then do
          let push ← Fault.need .terminated (vecArgsTbl.lookup arguments.curVecArg)
          return .goesOn { arguments with userInputConfig := push arguments.userInputConfig arg }
        else
          .ok (.returned .roleNone arguments) := by
  simp only [options, flagOptions, valueOptions, uncheckedOptions, intArgsTbl, strArgsTbl, List.map_cons, List.map_nil,
    List.cons_append, List.nil_append, List.mem_cons, List.not_mem_nil, or_false, not_or] at harg
  obtain ⟨hh, hs, hc, hf, hd, hr, hC, hT, ht, hi, hP, hp, hm, hb, hI, hl, hL⟩ := harg
  have hint : intArgsTbl.lookup arg = none := by
    simp [List.lookup_eq_none_iff, intArgsTbl, hP, hp, hm, hb]
  have hvec : vecArgsTbl.lookup arg = none := by
    simp [List.lookup_eq_none_iff, vecArgsTbl, hf]
  have hstr : strArgsTbl.lookup arg = none := by
    simp [List.lookup_eq_none_iff, strArgsTbl, hI, hl, hL]
  simp only [readArg, if_neg hh, if_neg ht, if_neg hi, if_neg hd, if_neg hr, if_neg hC, if_neg hT, if_neg hs, hint, hvec,
    hstr, if_neg hc]

theorem readArg_stray_of_none (hseen : arguments.Seen roleSet false files) (harg : arg ∉ options) (next : Option Octets) :
    readArg parsers arguments arg next = .ok (.returned .roleNone arguments) := by
  rw [readArg_stray harg, if_neg]
  rw [hseen.reading]
  exact fun hreading => Bool.noConfusion hreading.1

theorem readArg_stray_of_vec (hseen : arguments.Seen roleSet true files) (harg : arg ∉ options) (next : Option Octets) :
    ∃ after, readArg parsers arguments arg next = .ok (.goesOn after) ∧ after.Seen roleSet true (files ++ [arg]) := by
  have hvec := hseen.vec rfl
  rw [readArg_stray harg, if_pos ⟨hseen.reading, by rw [hvec]; decide⟩, hvec]
  exact ⟨_, rfl, hseen.role, hseen.reading, fun _ => rfl, congrArg (· ++ [arg]) hseen.files⟩

end

/-! ### Iterations -/

section

variable {parsers} {arguments after : Arguments} {role : TestRole} {roleSet inVec : Bool} {files : List Path}
  {arg value : Octets} {rest : List Octets}

theorem readArgs_of_returned (h : readArg parsers arguments arg rest.head? = .ok (.returned role after)) :
    readArgs parsers arguments (arg :: rest) = .ok (.returned role rest after) := by
  rw [readArgs, h]

theorem readArgs_of_goesOn (h : readArg parsers arguments arg rest.head? = .ok (.goesOn after)) :
    readArgs parsers arguments (arg :: rest) = readArgs parsers after rest := by
  rw [readArgs, h]

theorem readArgs_of_tookValue (h : readArg parsers arguments arg (some value) = .ok (.tookValue after)) :
    readArgs parsers arguments (arg :: value :: rest) = readArgs parsers after rest := by
  rw [readArgs, List.head?_cons, h]

theorem left_length_lt {args left : List Octets} (h : readArgs parsers arguments args = .ok (.returned role left after)) :
    left.length < args.length := by
  induction arguments, args using readArgs.induct parsers with
  | case1 arguments => cases h
  | case2 arguments arg rest fault hstep =>
    rw [readArgs, hstep] at h
    cases h
  | case3 arguments arg rest role next hstep =>
    rw [readArgs_of_returned hstep] at h
    cases h
    exact Nat.lt_succ_self _
  | case4 arguments arg rest next hstep ih =>
    rw [readArgs_of_goesOn hstep] at h
    exact (ih h).trans (Nat.lt_succ_self rest.length)
  | case5 arguments arg next hstep =>
    rw [readArgs, hstep] at h
    cases h
  | case6 arguments arg next value tail hstep ih =>
    rw [readArgs_of_tookValue hstep] at h
    exact (ih h).trans (Nat.lt_add_of_pos_right Nat.two_pos)

/-- Once a vector has been read from, a run of tokens that are not options goes into it. -/
theorem readArgs_run {run : List Octets} (hseen : arguments.Seen roleSet true files) (hrun : ∀ arg ∈ run, arg ∉ options) :
    ∃ after, readArgs parsers arguments (run ++ rest) = readArgs parsers after rest
      ∧ after.Seen roleSet true (files ++ run) := by
  induction run generalizing arguments files with
  | nil => exact ⟨arguments, rfl, by rwa [List.append_nil]⟩
  | cons arg run ih =>
    obtain ⟨next, hnext, hseen⟩ := readArg_stray_of_vec hseen (hrun arg List.mem_cons_self) (run ++ rest).head?
    obtain ⟨after, hafter, hseen⟩ := ih hseen fun arg harg => hrun arg (List.mem_cons_of_mem _ harg)
    refine ⟨after, ?_, by rwa [List.append_assoc, List.singleton_append] at hseen⟩
    rw [List.cons_append, readArgs_of_goesOn hnext, hafter]

end

end Arguments

end BatsIperf
