import DreamDoc.CommandLine.Basic
import DreamDoc.Proofs.DumpRoundTrip
import DreamDoc.Proofs.Edits

/-!
# Where runs may write

The name of a target comes from a dump, which may hold any text. Still a target is at most one name
below the output directory, so that whatever is run, in whatever order, changes nothing but the
output directory and what stands directly in it. Runs that produce nothing change nothing at all.
-/

namespace DreamDoc

def IsOutput (workdir : Path) (place : List String) : Prop :=
  place = workdir.names ++ ["dm2doxy"] ∨ ∃ name, place = workdir.names ++ ["dm2doxy", name]

namespace FileSystem

/-- Nothing has changed outside the output directory. -/
structure SameOutside (fs later : FileSystem) : Prop where
  workdir : later.workdir = fs.workdir
  outside : ∀ place, ¬IsOutput fs.workdir place → later.find? place = fs.find? place

namespace SameOutside

variable {fs middle later : FileSystem}

theorem refl (fs : FileSystem) : SameOutside fs fs := ⟨rfl, fun _ _ => rfl⟩

theorem trans (first : SameOutside fs middle) (second : SameOutside middle later) :
    SameOutside fs later where
  workdir := second.workdir.trans first.workdir
  outside place apart := by
    rw [second.outside place (first.workdir ▸ apart), first.outside place apart]

theorem set {place : List String} (below : place ≠ []) (output : IsOutput fs.workdir place)
    (entry : Entry) : SameOutside fs (fs.set place entry) where
  workdir := rfl
  outside other apart := by
    rw [find?_set fs below, if_neg]
    rintro rfl
    exact apart output

end SameOutside

end FileSystem

/-- The path leads to a name below the output directory. -/
def Path.NearOutput (path : Path) : Prop :=
  path.root = .relative ∧ ∃ name, path.names <+: ["dm2doxy", name]

theorem Path.NearOutput.leading {path leading : Path} (near : path.NearOutput)
    (way : leading.LeadsTo path) : leading.NearOutput := by
  obtain ⟨relative, name, leads⟩ := near
  exact ⟨way.1.trans relative, name, way.2.trans leads⟩

theorem nearOutput_pseudoSourcePath (source : String) :
    (pseudoSourcePath Path.here source).NearOutput := by
  have names : (Path.here.join outputDirectory).names = ["dm2doxy"] := by
    rw [join_here_outputDirectory, names_outputDirectory]
  constructor
  · rw [root_pseudoSourcePath, join_here_outputDirectory, root_outputDirectory]
  · rcases names_pseudoSourcePath Path.here source with whole | ⟨name, whole⟩
    · exact ⟨"", by simp [whole, names]⟩
    · exact ⟨name, by simp [whole, names]⟩

def Spot.place : Spot → List String
  | directory place => place
  | file place _ => place
  | vacant place => place

namespace FileSystem

variable {fs later : FileSystem} {path : Path} {spot : Spot}

theorem look_place (fs : FileSystem) (place : List String) : (fs.look place).place = place := by
  unfold look
  split <;> rfl

theorem follow_single {place : List String} {name : String} (down : name ≠ "..")
    (followed : fs.follow place [name] = .ok spot) : spot = fs.look (place ++ [name]) := by
  rw [follow_cons, if_neg down] at followed
  obtain ⟨-, followed⟩ := followed
  split at followed
  · rename_i found
    simp only [follow, Except.ok.injEq] at followed
    simp [← followed, look, found]
  · exact followed.2.symm

theorem isOutput_of_locate (near : path.NearOutput) (located : fs.locate path = .ok spot) :
    IsOutput fs.workdir spot.place ∨ ∃ place, spot = .directory place := by
  obtain ⟨relative, name, leads⟩ := near
  obtain ⟨-, -, followed⟩ := locate_eq_ok.mp located
  have start : fs.start path = fs.workdir.names := by
    simp [FileSystem.start, Path.isAbsolute, relative]
  rw [start] at followed
  rcases List.prefix_cons_iff.mp leads with none | ⟨rest, names, shorter⟩
  · rw [none] at followed
    exact .inr ⟨_, (Except.ok.inj followed).symm⟩
  · rw [names] at followed
    rcases List.prefix_cons_iff.mp shorter with none | ⟨last, more, nothing⟩
    · rw [none] at followed
      left
      rw [follow_single (by decide) followed, look_place]
      exact .inl rfl
    · rw [more, List.prefix_nil.mp nothing] at followed
      rw [← List.singleton_append] at followed
      obtain ⟨directory, reached, below⟩ := follow_append followed
      have output : directory = fs.workdir.names ++ ["dm2doxy"] := by
        rw [← look_place fs (fs.workdir.names ++ ["dm2doxy"]), ← follow_single (by decide) reached]
        rfl
      -- The name may be that of the parent: then a directory is found, and no file is written.
      by_cases up : name = ".."
      · rw [follow_cons, if_pos up] at below
        exact .inr ⟨_, (Except.ok.inj below).symm⟩
      · left
        rw [follow_single up below, look_place, output]
        exact .inr ⟨name, by simp⟩

theorem Edits.sameOutside {aims : Path → Prop} (edits : Edits aims fs later)
    (near : ∀ path, aims path → path.NearOutput) : SameOutside fs later := by
  induction edits with
  | refl => exact .refl fs
  | fill _ aimed located entry ih =>
    have output := isOutput_of_locate (near _ aimed) located
    exact ih.trans (.set (holds_of_locate located).1 (by simpa [Spot.place] using output) entry)
  | overwrite _ aimed located contents ih =>
    have output := isOutput_of_locate (near _ aimed) located
    exact ih.trans (.set (holds_of_locate located).1 (by simpa [Spot.place] using output) _)

end FileSystem

theorem produce_sameOutside (env : Environment) (world : World) :
    FileSystem.SameOutside world.files (produce env Path.here world).1.files := by
  apply (produce_edits env Path.here world).sameOutside
  rintro path ⟨source, way⟩
  exact (nearOutput_pseudoSourcePath source).leading way

namespace CommandLine

/-- One run: the variables that it finds, what becomes of processes, and its words. -/
structure Invocation where
  settings : Settings
  start : List String → ProcessOutcome
  words : List String

def Invocation.host (invocation : Invocation) (fs : FileSystem) : Host :=
  ⟨fs, invocation.settings, invocation.start⟩

def Invocation.answer (invocation : Invocation) (fs : FileSystem) : Answer :=
  run (invocation.host fs) invocation.words

def Answer.files (fs : FileSystem) : Answer → FileSystem
  | usageError => fs
  | help => fs
  | ran report => report.world.files

def Answer.exitCode? : Answer → Option Nat
  | usageError => some 2
  | help => some 0
  | ran report =>
    match report.ending with
    | .exit code => some code
    | .escaped _ => none

/-- The file system after some runs, one after the other. -/
def session (fs : FileSystem) (invocations : List Invocation) : FileSystem :=
  invocations.foldl (fun fs invocation => (invocation.answer fs).files fs) fs

def loaded (host : Host) (options : Options) (source : Path) : Except Failure Environment :=
  match Loader.choose host.settings (options.parser.map .line)
      (options.objtree.map fun dump => .path (Path.ofString dump)) with
  | .error failure => .error failure
  | .ok loader => (loader.load host.start source (World.ofFiles host.files)).2

section Runs

variable (host : Host) (options : Options) (source : Path)

theorem world_finish {α : Type} (errors : String) (attempt : Attempt α) :
    (finish errors attempt).world = attempt.1 := by
  obtain ⟨world, outcome⟩ := attempt
  cases outcome with
  | ok value => rfl
  | error failure => cases reported : failure.isReported <;> simp [finish, reported]

theorem ending_finish {α : Type} (errors : String) (attempt : Attempt α) :
    (finish errors attempt).ending ≠ .exit 2 := by
  obtain ⟨world, outcome⟩ := attempt
  cases outcome with
  | ok value => simp [finish]
  | error failure => cases reported : failure.isReported <;> simp [finish, reported]

theorem files_load (loader : Loader) (world : World) :
    (loader.load host.start source world).1.files = world.files ∧
      (loader.load host.start source world).1.output = world.output := by
  cases loader <;> exact ⟨rfl, rfl⟩

theorem produceAll_cases :
    (∃ world failure, produceAll host options source (World.ofFiles host.files) =
        (world, .error failure) ∧ world.files = host.files ∧ world.output = .empty) ∨
      ∃ world env, produceAll host options source (World.ofFiles host.files) =
        produce env Path.here world ∧ world.files = host.files ∧
          loaded host options source = .ok env := by
  unfold produceAll
  split
  · exact .inl ⟨_, _, rfl, rfl, rfl⟩
  · rename_i loader chosen
    have kept := files_load host source loader (World.ofFiles host.files)
    split
    · rename_i world failure result
      rw [result] at kept
      exact .inl ⟨world, failure, rfl, kept⟩
    · rename_i world env result
      rw [result] at kept
      refine .inr ⟨world, env, rfl, kept.1, ?_⟩
      rw [loaded, chosen]
      exact congrArg Prod.snd result

theorem produceAll_unloaded {failure : Failure}
    (unloaded : loaded host options source = .error failure) :
    (produceAll host options source (World.ofFiles host.files)).1.files = host.files ∧
      (produceAll host options source (World.ofFiles host.files)).1.output = .empty := by
  obtain ⟨world, _, stopped, kept⟩ | ⟨world, env, -, -, got⟩ := produceAll_cases host options source
  · rwa [stopped]
  · rw [unloaded] at got
    cases got

theorem produceAll_of_output {program : String} {arguments : List String}
    {output errors : ByteArray} {env : Environment}
    (chosen : Loader.choose host.settings (options.parser.map .line)
      (options.objtree.map fun dump => .path (Path.ofString dump)) =
        .ok (.command program arguments))
    (started : host.start (program :: arguments ++ [source.toString]) = .exited 0 output errors)
    (loads : Loader.readDump program output = .ok env) (world : World) :
    produceAll host options source world =
      produce env Path.here
        ((Loader.command program arguments).load host.start source world).1 := by
  simp only [produceAll, chosen, Loader.load, started, Loader.ofOutcome, ↓reduceIte, loads]

theorem produceAll_sameOutside :
    FileSystem.SameOutside host.files
      (produceAll host options source (World.ofFiles host.files)).1.files := by
  obtain ⟨world, _, stopped, kept, -⟩ | ⟨world, env, produced, kept, -⟩ :=
    produceAll_cases host options source
  · rw [stopped, kept]
    exact .refl _
  · rw [produced, ← kept]
    exact produce_sameOutside env world

theorem printStored_files (world : World) : (printStored source world).1.files = world.files := by
  unfold printStored
  split <;> rfl

theorem runOn_readBack (readBack : source.suffix = ".dm") :
    (runOn host options source).world.files = host.files := by
  rw [runOn, if_pos readBack, world_finish, printStored_files]
  rfl

theorem runOn_produce (produce : source.suffix = ".dme") :
    (runOn host options source).world =
      (produceAll host options source (World.ofFiles host.files)).1 := by
  rw [runOn, if_neg (by simp [produce]), if_pos produce, world_finish]

theorem runOn_neither (unread : source.suffix ≠ ".dm") (unproduced : source.suffix ≠ ".dme") :
    (runOn host options source).world = World.ofFiles host.files := by
  rw [runOn, if_neg unread, if_neg unproduced]

theorem runOn_sameOutside :
    FileSystem.SameOutside host.files (runOn host options source).world.files := by
  by_cases readBack : source.suffix = ".dm"
  · rw [runOn_readBack host options source readBack]
    exact .refl _
  · by_cases produce : source.suffix = ".dme"
    · rw [runOn_produce host options source produce]
      exact produceAll_sameOutside host options source
    · rw [runOn_neither host options source readBack produce]
      exact .refl _

theorem runOn_refused (refused : (runOn host options source).ending = .exit 2) :
    (runOn host options source).world.files = host.files := by
  by_cases readBack : source.suffix = ".dm"
  · exact runOn_readBack host options source readBack
  · by_cases produce : source.suffix = ".dme"
    · rw [runOn, if_neg readBack, if_pos produce] at refused
      exact absurd refused (ending_finish _ _)
    · rw [runOn_neither host options source readBack produce]
      rfl

theorem run_eq_ran {words : List String} {report : Report} (ran : run host words = .ran report) :
    ∃ options source, Options.none.read words = some options ∧ options.arguments = [source] ∧
      report.ending = (runOn host options (Path.ofString source)).ending ∧
      report.world.files = (runOn host options (Path.ofString source)).world.files ∧
      report.world.output = (runOn host options (Path.ofString source)).world.output := by
  unfold run at ran
  cases read : Options.none.read words with
  | none => simp [read] at ran
  | some options =>
    simp only [read] at ran
    split at ran
    · cases ran
    · split at ran
      · rename_i source arguments
        split at ran
        · cases ran
        · cases ran
          exact ⟨options, source, rfl, arguments, rfl, rfl, rfl⟩
      · cases ran

end Runs

section Answers

variable (invocation : Invocation) (fs : FileSystem)

theorem answer_sameOutside : FileSystem.SameOutside fs ((invocation.answer fs).files fs) := by
  cases answered : invocation.answer fs with
  | usageError => exact .refl fs
  | help => exact .refl fs
  | ran report =>
    obtain ⟨options, source, -, -, -, files, -⟩ := run_eq_ran _ answered
    rw [Answer.files, files]
    exact runOn_sameOutside (invocation.host fs) options (Path.ofString source)

theorem answer_refused (refused : (invocation.answer fs).exitCode? = some 2) :
    (invocation.answer fs).files fs = fs := by
  cases answered : invocation.answer fs with
  | usageError => rfl
  | help => rfl
  | ran report =>
    obtain ⟨options, source, -, -, ending, files, -⟩ := run_eq_ran _ answered
    rw [Answer.files, files]
    apply runOn_refused
    rw [answered, Answer.exitCode?] at refused
    rw [← ending]
    split at refused
    · rename_i code exits
      rw [exits, Option.some.inj refused]
    · cases refused

theorem session_sameOutside (invocations : List Invocation) :
    FileSystem.SameOutside fs (session fs invocations) := by
  induction invocations generalizing fs with
  | nil => exact .refl fs
  | cons invocation rest ih => exact (answer_sameOutside invocation fs).trans (ih _)

variable {options : Options} {source : String}
  (read : Options.none.read invocation.words = some options)
  (arguments : options.arguments = [source])

include read arguments

theorem files_answer (unhelped : options.help = false)
    (plain : (hasNull source || options.objtree.any hasNull) = false) :
    (invocation.answer fs).files fs =
      (runOn (invocation.host fs) options (Path.ofString source)).world.files := by
  simp only [Invocation.answer, run, read, unhelped, arguments, plain]
  rfl

theorem answer_ran {report : Report} (answered : invocation.answer fs = .ran report) :
    let alone := runOn (invocation.host fs) options (Path.ofString source)
    report.world.files = alone.world.files ∧ report.world.output = alone.world.output := by
  obtain ⟨others, other, again, argument, -, files, output⟩ := run_eq_ran _ answered
  rw [read] at again
  cases again
  rw [arguments] at argument
  cases argument
  exact ⟨files, output⟩

theorem answer_readBack (readBack : (Path.ofString source).suffix = ".dm") :
    (invocation.answer fs).files fs = fs := by
  cases answered : invocation.answer fs with
  | usageError => rfl
  | help => rfl
  | ran report =>
    rw [Answer.files, (answer_ran invocation fs read arguments answered).1]
    exact runOn_readBack _ options _ readBack

theorem answer_unloaded (produce : (Path.ofString source).suffix = ".dme") {failure : Failure}
    (unloaded : loaded (invocation.host fs) options (Path.ofString source) = .error failure) :
    (invocation.answer fs).files fs = fs ∧
      ∀ report, invocation.answer fs = .ran report → report.world.output = .empty := by
  obtain ⟨kept, silent⟩ := produceAll_unloaded _ options _ unloaded
  rw [← runOn_produce _ options _ produce] at kept silent
  cases answered : invocation.answer fs with
  | usageError => exact ⟨rfl, by simp⟩
  | help => exact ⟨rfl, by simp⟩
  | ran report =>
    obtain ⟨files, output⟩ := answer_ran invocation fs read arguments answered
    refine ⟨files.trans kept, ?_⟩
    rintro _ ⟨⟩
    exact output.trans silent

end Answers

/-- Whatever was run before, nothing has changed but the output directory and what stands directly
in it. A run that is refused, that reads back, or that gets no environment changes nothing, and in
the last case it prints nothing either. -/
theorem sessions_contained (fs : FileSystem) (earlier : List Invocation) (next : Invocation) :
    let files := session fs earlier
    let answer := next.answer files
    (∀ place, files.find? place ≠ fs.find? place → IsOutput fs.workdir place) ∧
      (answer.exitCode? = some 2 → answer.files files = files) ∧
      ∀ options source, Options.none.read next.words = some options →
        options.arguments = [source] →
        ((Path.ofString source).suffix = ".dm" → answer.files files = files) ∧
        ∀ failure, (Path.ofString source).suffix = ".dme" →
          loaded (next.host files) options (Path.ofString source) = .error failure →
          answer.files files = files ∧
            ∀ report, answer = .ran report → report.world.output = .empty := by
  intro files answer
  refine ⟨?_, answer_refused next files, ?_⟩
  · intro place changed
    by_cases output : IsOutput fs.workdir place
    · exact output
    · exact absurd ((session_sameOutside fs earlier).outside place output) changed
  · intro options source read arguments
    refine ⟨answer_readBack next files read arguments, ?_⟩
    intro failure produce unloaded
    exact answer_unloaded next files read arguments produce unloaded

def parserRun (output : ByteArray) : Invocation :=
  ⟨⟨none, none⟩, fun _ => .exited 0 output .empty, ["--parser", "tool", "a.dme"]⟩

theorem session_parserRun (fs : FileSystem) {output : ByteArray} {env : Environment}
    (loads : Loader.readDump "tool" output = .ok env) :
    session fs [parserRun output] = (produce env Path.here ((Loader.command "tool" []).load
      (parserRun output).start (Path.ofString "a.dme") (World.ofFiles fs)).1).1.files := by
  let options : Options := { Options.none with parser := some "tool", arguments := ["a.dme"] }
  have read : Options.none.read ["--parser", "tool", "a.dme"] = some options := by decide +kernel
  have chosen : Loader.choose (parserRun output).settings (options.parser.map .line)
      (options.objtree.map fun dump => .path (Path.ofString dump)) = .ok (.command "tool" []) := by
    cbv
  have plain : (hasNull "a.dme" || options.objtree.any hasNull) = false := by decide +kernel
  have answered : ((parserRun output).answer fs).files fs =
      (runOn ((parserRun output).host fs) options (Path.ofString "a.dme")).world.files :=
    files_answer (parserRun output) fs read rfl rfl plain
  rw [session, List.foldl_cons, List.foldl_nil, answered, runOn_produce _ _ _ (by decide +kernel)]
  have produced := produceAll_of_output ((parserRun output).host fs) options (Path.ofString "a.dme")
    chosen rfl loads (World.ofFiles fs)
  exact congrArg (·.1.files) produced

theorem sessions_contained_hostile_dump :
    let fs : FileSystem :=
      ⟨.ofList [(["w"], .directory), (["etc"], .directory), (["etc", "x"], .file "kept".toUTF8)],
        Path.ofString "/w"⟩
    let env : Environment :=
      ⟨.ofList [((1 : Int), "../etc/x"), (2, "/etc/x")], ⟨"", ⟨1, 1⟩, none, ∅, ∅, []⟩,
        [⟨⟨1, 1⟩, "// a"⟩, ⟨⟨2, 1⟩, "// b"⟩]⟩
    let hostile := parserRun (Dump.write env).toUTF8
    let idle : Invocation := ⟨⟨none, none⟩, fun _ => .notStarted 2 "", ["a.dme"]⟩
    let files := session fs [hostile]
    files.find? ["w", "dm2doxy", "..$etc$x"] = some (.file "// a\n".toUTF8) ∧
      IsOutput fs.workdir ["w", "dm2doxy", "..$etc$x"] ∧
      files.find? ["w", "dm2doxy", "$etc$x"] = some (.file "// b\n".toUTF8) ∧
      IsOutput fs.workdir ["w", "dm2doxy", "$etc$x"] ∧
      (idle.answer files).files files = files := by
  intro fs env hostile idle files
  have loads : Loader.readDump "tool" (Dump.write env).toUTF8 = .ok env :=
    Loader.readDump_of_short "tool" (List.Perm.refl _) (by decide +kernel) (by decide +kernel)
  have produced : files = _ := session_parserRun fs loads
  have first : files.find? ["w", "dm2doxy", "..$etc$x"] = some (.file "// a\n".toUTF8) := by
    rw [produced]
    decide +kernel
  have second : files.find? ["w", "dm2doxy", "$etc$x"] = some (.file "// b\n".toUTF8) := by
    rw [produced]
    decide +kernel
  have absent : ∀ name, name ∈ ["..$etc$x", "$etc$x"] → fs.find? ["w", "dm2doxy", name] = none := by
    decide +kernel
  obtain ⟨contained, -, unloaded⟩ := sessions_contained fs [hostile] idle
  refine ⟨first, contained _ ?_, second, contained _ ?_, ?_⟩
  · rw [absent _ (by simp)]
    exact first ▸ by simp
  · rw [absent _ (by simp)]
    exact second ▸ by simp
  · have read : Options.none.read idle.words = some { Options.none with arguments := ["a.dme"] } := by
      decide +kernel
    exact ((unloaded _ "a.dme" read rfl).2 .noParser (by decide +kernel) rfl).1

end CommandLine

end DreamDoc
