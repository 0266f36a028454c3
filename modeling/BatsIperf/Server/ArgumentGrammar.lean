import BatsIperf.Server.Arguments

/-!
# The grammar of the command line

A command line is a sequence of options, each with its value or, for `-f`, with the unbroken run of tokens up to the next option. It ends where the tokens do, or at one that the program does not go past. `Arguments.readArgs` follows this grammar but for two kinds of command lines: those that end with a `-t` or a `-i`, and those with a stray token after a `-f` that is not in its run.
-/

namespace BatsIperf

open Octets Arguments

/-! ### The grammar -/

inductive ArgUnit
  | flag (arg : Octets)
  | server
  | client (host : Octets)
  | value (arg value : Octets)
  | files (first : Octets) (run : List Octets)

namespace ArgUnit

/-- The paths of a `-f`. -/
def paths : ArgUnit → List Path
  | files first run => first :: run
  | _ => []

def isFiles : ArgUnit → Bool
  | files _ _ => true
  | _ => false

end ArgUnit

/-- What ends a command line: its last token, or a token with those after it. -/
inductive Stop
  | atEnd
  | help (left : List Octets)
  | stray (left : List Octets)
  | missing (arg : Octets)
  | secondRole (left : List Octets)

/-- The options before the stop, where `roleSet` says that there has been a `-s` or a `-c`. -/
inductive Segments : Bool → List Octets → List ArgUnit → Stop → Prop
  | atEnd {roleSet : Bool} : Segments roleSet [] [] .atEnd
  | help {roleSet : Bool} (rest : List Octets) : Segments roleSet (ofText "-h" :: rest) [] (.help rest)
  | stray {roleSet : Bool} {arg : Octets} (harg : arg ∉ options) (rest : List Octets) :
    Segments roleSet (arg :: rest) [] (.stray rest)
  | missing {roleSet : Bool} {arg : Octets} (harg : arg ∈ ofText "-c" :: ofText "-f" :: valueOptions) :
    Segments roleSet [arg] [] (.missing arg)
  | secondServer (rest : List Octets) : Segments true (ofText "-s" :: rest) [] (.secondRole rest)
  | secondClient (host : Octets) (rest : List Octets) :
    Segments true (ofText "-c" :: host :: rest) [] (.secondRole (host :: rest))
  | flag {roleSet : Bool} {arg : Octets} {rest : List Octets} {units : List ArgUnit} {stop : Stop}
    (harg : arg ∈ flagOptions) (hrest : Segments roleSet rest units stop) :
    Segments roleSet (arg :: rest) (.flag arg :: units) stop
  | server {rest : List Octets} {units : List ArgUnit} {stop : Stop} (hrest : Segments true rest units stop) :
    Segments false (ofText "-s" :: rest) (.server :: units) stop
  | client {rest : List Octets} {units : List ArgUnit} {stop : Stop} (host : Octets)
    (hrest : Segments true rest units stop) :
    Segments false (ofText "-c" :: host :: rest) (.client host :: units) stop
  | value {roleSet : Bool} {arg : Octets} {rest : List Octets} {units : List ArgUnit} {stop : Stop}
    (harg : arg ∈ valueOptions) (value : Octets) (hrest : Segments roleSet rest units stop) :
    Segments roleSet (arg :: value :: rest) (.value arg value :: units) stop
  | files {roleSet : Bool} {run rest : List Octets} {units : List ArgUnit} {stop : Stop} (first : Octets)
    (hrun : ∀ arg ∈ run, arg ∉ options) (hnext : ∀ next ∈ rest.head?, next ∈ options)
    (hrest : Segments roleSet rest units stop) :
    Segments roleSet (ofText "-f" :: first :: (run ++ rest)) (.files first run :: units) stop

/-- How the loop ends on a command line with a stop: it returns at the token, or after the last one. -/
def Stop.result : Stop → Arguments → ArgsResult
  | atEnd => .finished
  | help left => .returned .roleObserver left
  | stray left => .returned .roleNone left
  | missing _ => .returned .roleNone []
  | secondRole left => .returned .roleNone left

/-- The loop ends at the stop, with the files of the options before. Where it reads `argv[argc]` it has no such result. -/
def MeetsGrammar (result : Except Fault ArgsResult) (units : List ArgUnit) (stop : Stop) : Prop :=
  ∃ after, result = .ok (stop.result after) ∧ after.userInputConfig.files = units.flatMap ArgUnit.paths

/-- The stops that the loop sees after the options before them: a value is only missed where it is checked for, and a stray token only where there has been no `-f`. -/
def Stop.IsHandled (units : List ArgUnit) : Stop → Prop
  | .missing arg => arg ∉ uncheckedOptions
  | .stray _ => units.any ArgUnit.isFiles = false
  | _ => True

/-! ### Every command line is by the grammar -/

theorem exists_run (args : List Octets) :
    ∃ run rest, args = run ++ rest ∧ (∀ arg ∈ run, arg ∉ options) ∧ ∀ next ∈ rest.head?, next ∈ options := by
  induction args with
  | nil => exact ⟨[], [], rfl, by simp, by simp⟩
  | cons arg args ih =>
    by_cases harg : arg ∈ options
    · exact ⟨[], arg :: args, rfl, by simp, by simpa using harg⟩
    obtain ⟨run, rest, rfl, hrun, hnext⟩ := ih
    refine ⟨arg :: run, rest, rfl, fun other hother => ?_, hnext⟩
    rcases List.mem_cons.mp hother with rfl | hother
    · exact harg
    · exact hrun other hother

theorem mem_options {arg : Octets} (h : arg ∈ options) :
    arg = ofText "-h" ∨ arg = ofText "-s" ∨ arg = ofText "-c" ∨ arg = ofText "-f" ∨ arg ∈ flagOptions ∨ arg ∈ valueOptions := by
  simpa only [options, List.mem_append, List.mem_cons, List.not_mem_nil, or_false, or_assoc] using h

/-- Every list of tokens is by the grammar, by induction on its length: an option takes its value or its run with it. -/
theorem exists_segments (roleSet : Bool) (args : List Octets) : ∃ units stop, Segments roleSet args units stop := by
  induction hlength : args.length using Nat.strong_induction_on generalizing roleSet args with
  | _ length ih =>
    subst hlength
    rcases args with _ | ⟨arg, args⟩
    · exact ⟨[], .atEnd, .atEnd⟩
    by_cases hoption : arg ∈ options
    swap
    · exact ⟨[], _, .stray hoption args⟩
    rcases mem_options hoption with rfl | rfl | rfl | rfl | hflag | hvalue
    · exact ⟨[], _, .help args⟩
    · cases roleSet with
      | true => exact ⟨[], _, .secondServer args⟩
      | false =>
        obtain ⟨units, stop, hrest⟩ := ih args.length (Nat.lt_succ_self _) true args rfl
        exact ⟨_, stop, .server hrest⟩
    · rcases args with _ | ⟨host, args⟩
      · exact ⟨[], _, .missing List.mem_cons_self⟩
      cases roleSet with
      | true => exact ⟨[], _, .secondClient host args⟩
      | false =>
        obtain ⟨units, stop, hrest⟩ := ih args.length (Nat.lt_add_of_pos_right Nat.two_pos) true args rfl
        exact ⟨_, stop, .client host hrest⟩
    · rcases args with _ | ⟨first, args⟩
      · exact ⟨[], _, .missing (List.mem_cons_of_mem _ List.mem_cons_self)⟩
      obtain ⟨run, rest, rfl, hrun, hnext⟩ := exists_run args
      have hlt : rest.length < (ofText "-f" :: first :: (run ++ rest)).length := by
        rw [List.length_cons, List.length_cons, List.length_append]
        omega
      obtain ⟨units, stop, hrest⟩ := ih rest.length hlt roleSet rest rfl
      exact ⟨_, stop, .files first hrun hnext hrest⟩
    · obtain ⟨units, stop, hrest⟩ := ih args.length (Nat.lt_succ_self _) roleSet args rfl
      exact ⟨_, stop, .flag hflag hrest⟩
    · rcases args with _ | ⟨value, args⟩
      · exact ⟨[], _, .missing (List.mem_cons_of_mem _ (List.mem_cons_of_mem _ hvalue))⟩
      obtain ⟨units, stop, hrest⟩ := ih args.length (Nat.lt_add_of_pos_right Nat.two_pos) roleSet args rfl
      exact ⟨_, stop, .value hvalue value hrest⟩

/-! ### The loop on a command line by the grammar -/

section

variable {parsers : Parsers} {arguments : Arguments} {roleSet : Bool} {args : List Octets} {units before : List ArgUnit}
  {stop : Stop}

theorem Segments.meets_iff_of_stray {arg : Octets} (harg : arg ∉ options) (rest : List Octets)
    (hseen : arguments.Seen roleSet (before.any ArgUnit.isFiles) (before.flatMap ArgUnit.paths)) :
    MeetsGrammar (readArgs parsers arguments (arg :: rest)) before (.stray rest)
      ↔ (Stop.stray rest).IsHandled before := by
  cases hvec : before.any ArgUnit.isFiles with
  | false =>
    rw [hvec] at hseen
    refine iff_of_true ?_ hvec
    rw [readArgs_of_returned (readArg_stray_of_none hseen harg _)]
    exact ⟨arguments, rfl, hseen.files⟩
  | true =>
    rw [hvec] at hseen
    refine iff_of_false ?_ fun hhandled => Bool.noConfusion (hvec.symm.trans hhandled)
    obtain ⟨next, hstep, _⟩ := readArg_stray_of_vec hseen harg rest.head?
    rw [readArgs_of_goesOn hstep]
    -- The token has become a file, and a return at a later one leaves fewer tokens.
    rintro ⟨after, hafter, _⟩
    exact Nat.lt_irrefl _ (left_length_lt hafter)

theorem Segments.meets_iff_of_missing {arg : Octets} (harg : arg ∈ ofText "-c" :: ofText "-f" :: valueOptions)
    (hfiles : arguments.userInputConfig.files = before.flatMap ArgUnit.paths) :
    MeetsGrammar (readArgs parsers arguments [arg]) before (.missing arg) ↔ (Stop.missing arg).IsHandled before := by
  by_cases hunchecked : arg ∈ uncheckedOptions
  · refine iff_of_false ?_ fun hhandled => hhandled hunchecked
    rw [readArgs, List.head?_nil, readArg_unchecked hunchecked]
    rintro ⟨_, h, _⟩
    cases h
  · refine iff_of_true ?_ hunchecked
    rw [readArgs_of_returned (readArg_missing harg hunchecked)]
    exact ⟨arguments, rfl, hfiles⟩

/-- The loop keeps to the grammar, from what it has seen of the options before, exactly where it handles the stop. -/
theorem Segments.meets_iff (h : Segments roleSet args units stop)
    (hseen : arguments.Seen roleSet (before.any ArgUnit.isFiles) (before.flatMap ArgUnit.paths)) :
    MeetsGrammar (readArgs parsers arguments args) (before ++ units) stop ↔ stop.IsHandled (before ++ units) := by
  induction h generalizing arguments before with
  | atEnd =>
    rw [List.append_nil]
    exact iff_of_true ⟨arguments, rfl, hseen.files⟩ trivial
  | help rest =>
    rw [List.append_nil]
    exact iff_of_true ⟨arguments, rfl, hseen.files⟩ trivial
  | stray harg rest =>
    rw [List.append_nil]
    exact meets_iff_of_stray harg rest hseen
  | missing harg =>
    rw [List.append_nil]
    exact meets_iff_of_missing harg hseen.files
  | secondServer rest =>
    rw [List.append_nil, readArgs_of_returned (readArg_server_of_role hseen _)]
    exact iff_of_true ⟨arguments, rfl, hseen.files⟩ trivial
  | secondClient host rest =>
    obtain ⟨after, hstep, hseen⟩ := @readArg_client_of_role parsers _ _ _ hseen host
    rw [List.append_nil, readArgs_of_returned hstep]
    exact iff_of_true ⟨after, rfl, hseen.files⟩ trivial
  | flag harg _ ih =>
    obtain ⟨after, hstep, hseen⟩ := readArg_flag hseen harg _
    rw [readArgs_of_goesOn hstep, List.append_cons]
    apply ih
    simpa [ArgUnit.isFiles, ArgUnit.paths] using hseen
  | server _ ih =>
    obtain ⟨after, hstep, hseen⟩ := readArg_server hseen _
    rw [readArgs_of_goesOn hstep, List.append_cons]
    apply ih
    simpa [ArgUnit.isFiles, ArgUnit.paths] using hseen
  | client host _ ih =>
    obtain ⟨after, hstep, hseen⟩ := readArg_client hseen host
    rw [readArgs_of_tookValue hstep, List.append_cons]
    apply ih
    simpa [ArgUnit.isFiles, ArgUnit.paths] using hseen
  | value harg value _ ih =>
    obtain ⟨after, hstep, hseen⟩ := readArg_value hseen harg value
    rw [readArgs_of_tookValue hstep, List.append_cons]
    apply ih
    simpa [ArgUnit.isFiles, ArgUnit.paths] using hseen
  | files first hrun _ _ ih =>
    obtain ⟨opened, hstep, hseen⟩ := readArg_files hseen first
    obtain ⟨after, hafter, hseen⟩ := readArgs_run hseen hrun
    rw [readArgs_of_tookValue hstep, hafter, List.append_cons]
    apply ih
    simpa [ArgUnit.isFiles, ArgUnit.paths] using hseen

end

/-- Every command line is by the grammar, and the loop keeps to it exactly where it handles the stop. -/
theorem keeps_to_grammar_iff (parsers : Parsers) (args : List Octets) :
    (∃ units stop, Segments false args units stop) ∧
      ∀ units stop, Segments false args units stop →
        (MeetsGrammar (readArgs parsers {} args) units stop ↔ stop.IsHandled units) := by
  refine ⟨exists_segments false args, fun units stop h => ?_⟩
  have hinit : ({} : Arguments).Seen false ([].any ArgUnit.isFiles) ([].flatMap ArgUnit.paths) := seen_init
  exact h.meets_iff hinit

/-- A `-t` at the end makes the loop read past the arguments, and a token behind a flag becomes a file. -/
theorem breaks_grammar :
    let parsers : Parsers := { stof := fun _ => 0, stoi := fun _ => 0, host := fun _ => "" }
    (Segments false [ofText "-t"] [] (.missing (ofText "-t"))
        ∧ ¬ MeetsGrammar (readArgs parsers {} [ofText "-t"]) [] (.missing (ofText "-t")))
      ∧ Segments false [ofText "-f", ofText "a", ofText "-d", ofText "b"]
          [.files (ofText "a") [], .flag (ofText "-d")] (.stray [])
        ∧ ¬ MeetsGrammar (readArgs parsers {} [ofText "-f", ofText "a", ofText "-d", ofText "b"])
          [.files (ofText "a") [], .flag (ofText "-d")] (.stray []) := by
  have hinit : ({} : Arguments).Seen false ([].any ArgUnit.isFiles) ([].flatMap ArgUnit.paths) := seen_init
  have hshort : Segments false [ofText "-t"] [] (.missing (ofText "-t")) := .missing (by decide)
  have hrun : ∀ arg ∈ ([] : List Octets), arg ∉ options := fun _ harg => absurd harg List.not_mem_nil
  have hlate : Segments false [ofText "-f", ofText "a", ofText "-d", ofText "b"]
      [.files (ofText "a") [], .flag (ofText "-d")] (.stray []) :=
    .files _ hrun (by decide) (.flag (by decide) (.stray (by decide) []))
  refine ⟨⟨hshort, fun h => ?_⟩, hlate, fun h => ?_⟩
  · exact (hshort.meets_iff hinit).mp h (by decide)
  · exact Bool.noConfusion ((hlate.meets_iff hinit).mp h)

end BatsIperf
