import DreamDoc.CommandLine.Options
import DreamDoc.CommandLine.Terminal
import DreamDoc.Emission
import DreamDoc.Loader
import DreamDoc.ReadBack

namespace DreamDoc.CommandLine

structure Host where
  files : FileSystem
  settings : Settings
  start : List String → ProcessOutcome

inductive Ending where
  | exit (code : Nat)
  | escaped (failure : Failure)
deriving DecidableEq

/-- What a run leaves behind. `faults` are those of a dump, which complete the open last line of
`errors`. -/
structure Report where
  ending : Ending
  errors : String
  faults : List Fault
  world : World

inductive Answer where
  | usageError
  | help
  | ran (report : Report)

def threshold (options : Options) : Level :=
  if options.verbose then .debug else if options.quiet then .warning else .info

def extensionError (suffix : String) : String :=
  Terminal.line "bad extension: " (if suffix = "" then "(none)" else suffix)
    "; expected .dm or .dme" ++ "\n"

def announcement (source : Path) : String := Terminal.line "parsing " source.toString "" ++ "\n"

/-- The line about a failure. It stays open where the report of the faults of a dump follows. -/
def failureLine (failure : Failure) : String :=
  match failure with
  | .invalidDump _ faults => Terminal.lineStart "    error: " failure.message (Fault.report faults)
  | _ => Terminal.line "    error: " failure.message "" ++ "\n"

def faultsOf : Failure → List Fault
  | .invalidDump _ faults => faults
  | _ => []

def finish {α : Type} (errors : String) : Attempt α → Report
  | (world, .ok _) => ⟨.exit 0, errors, [], world⟩
  | (world, .error failure) =>
    if failure.isReported then
      ⟨.exit 1, errors ++ failureLine failure, faultsOf failure, world⟩
    else ⟨.escaped failure, errors, [], world⟩

def printStored (source : Path) (world : World) : Attempt Unit :=
  match readBack world.files none source with
  | .ok contents => (world.put contents, .ok ())
  | .error failure => (world, .error failure)

def produceAll (host : Host) (options : Options) (source : Path) (world : World) :
    Attempt (List Summary) :=
  match Loader.choose host.settings (options.parser.map .line)
      (options.objtree.map fun dump => .path (Path.ofString dump)) with
  | .error failure => (world, .error failure)
  | .ok loader =>
    match loader.load host.start source world with
    | (world, .error failure) => (world, .error failure)
    | (world, .ok env) => produce env Path.here world

def runOn (host : Host) (options : Options) (source : Path) : Report :=
  let world := World.ofFiles host.files
  if source.suffix = ".dm" then finish "" (printStored source world)
  else if source.suffix = ".dme" then
    finish (announcement source) (produceAll host options source world)
  else ⟨.exit 2, extensionError source.suffix, [], world⟩

def hasNull (text : String) : Bool := '\x00' ∈ text.toList

def run (host : Host) (words : List String) : Answer :=
  match Options.none.read words with
  | none => .usageError
  | some options =>
    if options.help then .help
    else match options.arguments with
      | [source] =>
        if hasNull source || options.objtree.any hasNull then .usageError
        else
          let report := runOn host options (Path.ofString source)
          let world := report.world
          .ran { report with
            world := { world with journal := shownRecords (threshold options) world.journal } }
      | _ => .usageError

end DreamDoc.CommandLine
