import DreamDoc.Dump.Basic
import DreamDoc.ShellWords
import DreamDoc.Text.Utf8
import DreamDoc.World

namespace DreamDoc

inductive Loader where
  | dump (path : Path)
  | command (program : String) (arguments : List String)
deriving DecidableEq

inductive Command where
  | line (text : String)
  | words (list : List String)

inductive DumpChoice where
  | text (written : String)
  | path (known : Path)

structure Settings where
  objtree : Option String
  parser : Option String

namespace Command

def isGiven : Command → Bool
  | line text => text ≠ ""
  | words list => list ≠ []

def words? : Command → Except Failure (List String)
  | line text => ShellWords.split text
  | words list => .ok list

def loader (command : Command) : Except Failure Loader :=
  match command.words? with
  | .error failure => .error failure
  | .ok [] => .error .emptyCommand
  | .ok (program :: arguments) => .ok (.command program arguments)

end Command

def DumpChoice.path? : DumpChoice → Option Path
  | text written => if written = "" then none else some (Path.ofString written)
  | path known => some known

namespace Loader

def choose (settings : Settings) (command : Option Command) (dump : Option DumpChoice) :
    Except Failure Loader :=
  match dump.bind DumpChoice.path? with
  | some path => .ok (.dump path)
  | none =>
    match command.filter Command.isGiven with
    | some command => command.loader
    | none =>
      match (settings.objtree.map DumpChoice.text).bind DumpChoice.path? with
      | some path => .ok (.dump path)
      | none =>
        match (settings.parser.map Command.line).filter Command.isGiven with
        | some command => command.loader
        | none => .error .noParser

def readDump (source : String) (bytes : ByteArray) : Except Failure Environment :=
  match Dump.read bytes with
  | .accepted env => .ok env
  | .rejected first others => .error (.invalidDump source (first :: others))

def loadDump (files : FileSystem) (dump : Path) : Except Failure Environment :=
  match files.readFile dump with
  | .ok bytes => readDump dump.toString bytes
  | .error (.system .notFound _) => .error (.dumpNotFound dump)
  | .error failure => .error failure

def errorDetail (errors : ByteArray) : String :=
  match Text.trim Text.isBlank (Text.decodeLossy errors).toList with
  | [] => "no output"
  | detail => String.ofList detail

def ofOutcome (program : String) : ProcessOutcome → Except Failure Environment
  | .refused => .error .nullCharacter
  | .notStarted code text => .error (.parserNotStarted program code text)
  | .exited status output errors =>
    if status = 0 then readDump program output
    else .error (.parserFailed status (errorDetail errors))

/-- Loads the environment whose root is `source`. A command gets that path as its last word, and
`start` tells what becomes of the process. -/
def load (start : List String → ProcessOutcome) (source : Path) (loader : Loader) (world : World) :
    Attempt Environment :=
  match loader with
  | dump path => (world, loadDump world.files path)
  | command program arguments =>
    let words := program :: arguments ++ [source.toString]
    let world := world.note .info s!"Running parser: {ShellWords.join words}"
    let outcome := start words
    let calls := if outcome.isRefused then world.calls else world.calls ++ [words]
    ({ world with calls }, ofOutcome program outcome)

end Loader

end DreamDoc
