import DreamDoc.Proofs.Containment
import DreamDoc.Proofs.Messages
import DreamDoc.Proofs.NullCharacters
import DreamDoc.Proofs.OpenQuotations

namespace DreamDoc

theorem ShellWords.not_isReported_of_splitFrom {state : State} {text : List Char}
    {failure : Failure} (torn : splitFrom state text = .error failure) :
    failure.isReported = false := by
  rcases failure_of_splitFrom torn with rfl | rfl <;> rfl

namespace CommandLine

section Loading

def given (text : Option String) : Option String := text.filter (· ≠ "")

/-- The dump that a run reads: the one it is asked for, or that of the variables if it is not asked
for a command either. -/
def dumpPath? (settings : Settings) (options : Options) : Option Path :=
  match options.objtree, given options.parser with
  | some dump, _ => some (Path.ofString dump)
  | none, some _ => none
  | none, none => (given settings.objtree).map Path.ofString

/-- The command that a run starts if it reads no dump. -/
def commandLine? (settings : Settings) (options : Options) : Option String :=
  match dumpPath? settings options with
  | some _ => none
  | none => (given options.parser).or (given settings.parser)

variable {host : Host} {options : Options} {source : Path} {failure : Failure}

theorem filter_isGiven (text : Option String) :
    (text.map Command.line).filter Command.isGiven = (given text).map Command.line := by
  cases text with
  | none => rfl
  | some line => by_cases empty : line = "" <;> simp [given, Option.filter, Command.isGiven, empty]

theorem bind_path? (text : Option String) :
    (text.map DumpChoice.text).bind DumpChoice.path? = (given text).map Path.ofString := by
  cases text with
  | none => rfl
  | some dump => by_cases empty : dump = "" <;> simp [given, Option.filter, DumpChoice.path?, empty]

theorem choose_eq (settings : Settings) (options : Options) :
    Loader.choose settings (options.parser.map .line)
        (options.objtree.map fun dump => .path (Path.ofString dump)) =
      match dumpPath? settings options, commandLine? settings options with
      | some path, _ => .ok (.dump path)
      | none, some line => (Command.line line).loader
      | none, none => .error .noParser := by
  unfold Loader.choose commandLine? dumpPath?
  rw [filter_isGiven, filter_isGiven, bind_path?]
  cases options.objtree with
  | some dump => rfl
  | none =>
    cases given options.parser with
    | some line => rfl
    | none =>
      cases given settings.objtree with
      | some dump => rfl
      | none => cases given settings.parser <;> rfl

theorem readDump_isReported {origin : String} {bytes : ByteArray}
    (failed : Loader.readDump origin bytes = .error failure) : failure.isReported = true := by
  unfold Loader.readDump at failed
  split at failed <;> cases failed
  rfl

theorem ofOutcome_unreported_iff {program : String} {ended : ProcessOutcome} :
    Loader.ofOutcome program ended = .error failure ∧ failure.isReported = false ↔
      ended = .refused ∧ failure = .nullCharacter := by
  constructor
  · rintro ⟨failed, unreported⟩
    cases ended with
    | refused =>
      cases failed
      exact ⟨rfl, rfl⟩
    | notStarted code text =>
      cases failed
      cases unreported
    | exited status output errors =>
      simp only [Loader.ofOutcome] at failed
      split at failed
      · rw [readDump_isReported failed] at unreported
        cases unreported
      · cases failed
        cases unreported
  · rintro ⟨rfl, rfl⟩
    exact ⟨rfl, rfl⟩

theorem loadDump_unreported_iff {files : FileSystem} {path : Path} :
    Loader.loadDump files path = .error failure ∧ failure.isReported = false ↔
      '\x00' ∈ path.toString.toList ∧ failure = .nullCharacter := by
  constructor
  · rintro ⟨failed, unreported⟩
    unfold Loader.loadDump at failed
    split at failed
    · rw [readDump_isReported failed] at unreported
      cases unreported
    · cases failed
      cases unreported
    · rename_i cause _ unread
      cases failed
      exact (FileSystem.readFile_blames unread).unreported unreported
  · rintro ⟨null, rfl⟩
    exact ⟨by simp [Loader.loadDump, FileSystem.readFile, FileSystem.locate_of_null null], rfl⟩

theorem loaded_unreported_iff :
    loaded host options source = .error failure ∧ failure.isReported = false ↔
      (∃ line, commandLine? host.settings options = some line ∧
        (ShellWords.split line = .error failure ∨
          ∃ program arguments, ShellWords.split line = .ok (program :: arguments) ∧
            host.start (program :: arguments ++ [source.toString]) = .refused ∧
            failure = .nullCharacter)) ∨
      ∃ path, dumpPath? host.settings options = some path ∧ '\x00' ∈ path.toString.toList ∧
        failure = .nullCharacter := by
  unfold loaded
  rw [choose_eq]
  cases dump : dumpPath? host.settings options with
  | some path =>
    have silent : commandLine? host.settings options = none := by simp [commandLine?, dump]
    change Loader.loadDump host.files path = .error failure ∧ _ ↔ _
    rw [loadDump_unreported_iff, silent]
    simp
  | none =>
    cases commandLine? host.settings options with
    | none =>
      constructor
      · rintro ⟨⟨⟩, ⟨⟩⟩
      · simp
    | some line =>
      cases torn : ShellWords.split line with
      | error cause =>
        have unreported := ShellWords.not_isReported_of_splitFrom torn
        simp only [Command.loader, Command.words?, torn]
        grind
      | ok words =>
        cases words with
        | nil =>
          simp only [Command.loader, Command.words?, torn]
          constructor
          · rintro ⟨⟨⟩, ⟨⟩⟩
          · simp [torn]
        | cons program arguments =>
          simp only [Command.loader, Command.words?, torn, Loader.load]
          rw [ofOutcome_unreported_iff]
          simp [torn]

end Loading

section Reports

variable {host : Host} {options : Options} {source : Path} {failure : Failure}

/-- Where a run fails without a report. -/
inductive Unreported (host : Host) (options : Options) (source : Path) : Failure → Prop
  | command {line : String} {failure : Failure} (producing : source.suffix = ".dme")
      (chosen : commandLine? host.settings options = some line)
      (torn : ShellWords.split line = .error failure) : Unreported host options source failure
  | words {line program : String} {arguments : List String} (producing : source.suffix = ".dme")
      (chosen : commandLine? host.settings options = some line)
      (split : ShellWords.split line = .ok (program :: arguments))
      (refused : host.start (program :: arguments ++ [source.toString]) = .refused) :
      Unreported host options source .nullCharacter
  | dump {path : Path} (producing : source.suffix = ".dme")
      (chosen : dumpPath? host.settings options = some path)
      (null : '\x00' ∈ path.toString.toList) : Unreported host options source .nullCharacter
  | target {env : Environment} {file : Int} {failure : Failure}
      (producing : source.suffix = ".dme") (loads : loaded host options source = .ok env)
      (halts : HaltsAt env host.files file failure) : Unreported host options source failure
  | stored {relative : Path} (reading : source.suffix = ".dm")
      (inside : relativeToWorkdir host.files.workdir none source = .ok relative)
      (null : '\x00' ∈ relative.toString.toList) :
      Unreported host options source .nullCharacter

/-- What comes of a run, whether it says so or not. -/
def outcome (host : Host) (options : Options) (source : Path) : Except Failure Unit :=
  if source.suffix = ".dm" then (readBack host.files none source).map fun _ => ()
  else (produceAll host options source (World.ofFiles host.files)).2.map fun _ => ()

theorem produceAll_unreported_iff :
    (produceAll host options source (World.ofFiles host.files)).2 = .error failure ∧
        failure.isReported = false ↔
      loaded host options source = .error failure ∧ failure.isReported = false ∨
        ∃ env file, loaded host options source = .ok env ∧
          HaltsAt env host.files file failure := by
  unfold produceAll loaded
  cases Loader.choose host.settings (options.parser.map .line)
      (options.objtree.map fun dump => .path (Path.ofString dump)) with
  | error cause => simp
  | ok loader =>
    have kept := (files_load host source loader (World.ofFiles host.files)).1
    cases result : loader.load host.start source (World.ofFiles host.files) with
    | mk world outcome =>
      rw [result] at kept
      cases outcome with
      | error cause => simp [result]
      | ok env =>
        simp only [result, reduceCtorEq, false_and, false_or, Except.ok.injEq]
        rw [produce_unreported_iff, kept]
        simp [World.ofFiles]

theorem outcome_unreported_iff (handled : source.suffix = ".dm" ∨ source.suffix = ".dme") :
    outcome host options source = .error failure ∧ failure.isReported = false ↔
      Unreported host options source failure := by
  rcases handled with reading | producing
  · have mapped : outcome host options source = .error failure ↔
        readBack host.files none source = .error failure := by
      rw [outcome, if_pos reading]
      cases readBack host.files none source <;> simp [Except.map]
    rw [mapped, readBack_unreported_iff]
    constructor
    · rintro ⟨rfl, relative, inside, null⟩
      exact .stored reading inside null
    · intro unreported
      cases unreported with
      | stored _ inside null => exact ⟨rfl, _, inside, null⟩
      | command producing => simp [reading] at producing
      | words producing => simp [reading] at producing
      | dump producing => simp [reading] at producing
      | target producing => simp [reading] at producing
  · have mapped : outcome host options source = .error failure ↔
        (produceAll host options source (World.ofFiles host.files)).2 = .error failure := by
      rw [outcome, if_neg (by simp [producing])]
      cases (produceAll host options source (World.ofFiles host.files)).2 <;> simp [Except.map]
    rw [mapped, produceAll_unreported_iff, loaded_unreported_iff]
    constructor
    · rintro ((⟨line, chosen, torn | ⟨program, arguments, split, refused, rfl⟩⟩ |
        ⟨path, chosen, null, rfl⟩) | ⟨env, file, loads, halts⟩)
      · exact .command producing chosen torn
      · exact .words producing chosen split refused
      · exact .dump producing chosen null
      · exact .target producing loads halts
    · intro unreported
      cases unreported with
      | command _ chosen torn => exact .inl (.inl ⟨_, chosen, .inl torn⟩)
      | words _ chosen split refused =>
        exact .inl (.inl ⟨_, chosen, .inr ⟨_, _, split, refused, rfl⟩⟩)
      | dump _ chosen null => exact .inl (.inr ⟨_, chosen, null, rfl⟩)
      | target _ loads halts => exact .inr ⟨_, _, loads, halts⟩
      | stored reading => simp [producing] at reading

/-- A run that has said `begun` ends with the exit code 0, or it goes on with the line about its
failure and ends with the exit code 1. The line gives the message of the failure, and it gives it as
it is unless the printer acts on something in it; the faults of a dump are reported with it. -/
def Reports (begun : String) (outcome : Except Failure Unit) (report : Report) : Prop :=
  outcome = .ok () ∧ report.ending = .exit 0 ∧ report.errors = begun ∨
    ∃ failure shown, outcome = .error failure ∧ report.ending = .exit 1 ∧
      report.errors = begun ++ failureLine failure ∧ failureLine failure = "    error: " ++ shown ∧
      (Terminal.isVerbatim (plainLine failure).toList = true →
        failureLine failure = plainLine failure) ∧
      ∀ origin faults, failure = .invalidDump origin faults → report.faults = faults

theorem finish_reports_iff {α : Type} {begun : String} {attempt : Attempt α}
    {result : Except Failure Unit} (same : attempt.2.map (fun _ => ()) = result) :
    (Reports begun result (finish begun attempt) ↔
      ∀ failure, ¬(result = .error failure ∧ failure.isReported = false)) ∧
    ∀ failure, (finish begun attempt).ending = .escaped failure ↔
      result = .error failure ∧ failure.isReported = false := by
  obtain ⟨world, held⟩ := attempt
  subst same
  cases held with
  | ok value => simp [Reports, finish, Except.map]
  | error failure =>
    cases reported : failure.isReported with
    | true =>
      obtain ⟨shown, starts⟩ := failureLine_starts failure
      have reports : Reports begun (.error failure)
          ⟨.exit 1, begun ++ failureLine failure, faultsOf failure, world⟩ := by
        refine .inr ⟨failure, shown, rfl, rfl, rfl, starts, failureLine_of_isVerbatim, ?_⟩
        rintro origin faults rfl
        rfl
      simp [finish, Except.map, reported, reports]
    | false => simp [Reports, finish, Except.map, reported]

end Reports

/-- The system refuses the words of a process exactly if one of them holds a null character. -/
def Host.RefusesNulls (host : Host) : Prop :=
  ∀ words, host.start words = .refused ↔ ∃ word ∈ words, '\x00' ∈ word.toList

def idleHost : Host where
  files := ⟨.ofList [(["w"], .directory)], Path.ofString "/w"⟩
  settings := ⟨none, none⟩
  start words :=
    if words.any fun word => '\x00' ∈ word.toList then .refused
    else .notStarted 2 "No such file or directory"

theorem idleHost_refusesNulls : idleHost.RefusesNulls := by
  intro words
  simp only [idleHost]
  split <;> simp_all

end CommandLine

end DreamDoc
