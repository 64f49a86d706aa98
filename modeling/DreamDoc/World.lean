import DreamDoc.FileSystem
import DreamDoc.Journal

namespace DreamDoc

structure World where
  files : FileSystem
  output : ByteArray
  journal : List Record
  calls : List (List String)

namespace World

def ofFiles (files : FileSystem) : World := ⟨files, .empty, [], []⟩

def note (world : World) (level : Level) (message : String) : World :=
  { world with journal := world.journal ++ [⟨level, message⟩] }

def put (world : World) (bytes : ByteArray) : World :=
  { world with output := world.output ++ bytes }

end World

/-- The world after a part of a run, and what came of it. -/
abbrev Attempt (α : Type) := World × Except Failure α

/-- What became of a process. One whose words the system does not take is never started. -/
inductive ProcessOutcome where
  | refused
  | notStarted (code : Int) (text : String)
  | exited (status : Int) (output errors : ByteArray)

def ProcessOutcome.isRefused : ProcessOutcome → Bool
  | refused => true
  | _ => false

end DreamDoc
