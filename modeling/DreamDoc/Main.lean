import DreamDoc.CommandLine.Basic

namespace DreamDoc.Executable

def placeText (place : List String) : String := "/" ++ "/".intercalate place

def isDirectoryAt (place : List String) : IO Bool := do
  ((← IO.currentDir) / placeText place).isDir

def contentsAt? (place : List String) : IO (Option ByteArray) := do
  try
    return some (← IO.FS.readBinFile (placeText place))
  catch _ => return none

def observe (files : FileSystem) (place : List String) : List String → IO FileSystem
  | [] => return files
  | name :: rest => do
    if name = ".." then observe files place.dropLast rest
    else
      let next := place ++ [name]
      if ← isDirectoryAt next then observe (files.set next .directory) next rest
      else match ← contentsAt? next with
        | some contents => return files.set next (.file contents)
        | none => return files

def observePath (files : FileSystem) (path : Path) : IO FileSystem :=
  observe files (if path.isAbsolute then [] else files.workdir.names) path.names

def storedNames : IO (List String) := do
  try
    let entries ← ((← IO.currentDir) / outputDirectory.toString).readDir
    return entries.toList.map (·.fileName)
  catch _ => return []

def picture (settings : Settings) (words : List String) : IO FileSystem := do
  let workdir := Path.ofString (toString (← IO.currentDir))
  let mut files ← observePath ⟨∅, workdir⟩ workdir
  files ← observePath files outputDirectory
  for name in ← storedNames do
    files ← observePath files (outputDirectory.join (Path.ofString name))
  let asked := (Options.none.read words).bind Options.objtree
  for dump in asked.toList ++ settings.objtree.toList do
    files ← observePath files (Path.ofString dump)
  return files

def carryOut (before : FileSystem) (place : List String) (entry : Entry) : IO Unit := do
  if before.find? place ≠ some entry then
    match entry with
    | .directory => IO.FS.createDirAll (placeText place)
    | .file contents => IO.FS.writeBinFile (placeText place) contents

def conclude (before : FileSystem) (report : CommandLine.Report) : IO UInt32 := do
  let errors ← IO.getStderr
  let output ← IO.getStdout
  for (place, entry) in report.world.files.entries.entries do
    carryOut before place entry
  for record in report.world.journal do
    errors.putStrLn record.message
  output.write report.world.output
  output.flush
  errors.putStr report.errors
  if report.faults ≠ [] then errors.putStrLn (Fault.report report.faults)
  match report.ending with
  | .exit code => return code.toUInt32
  | .escaped failure =>
    errors.putStrLn failure.message
    return 1

def usage : String :=
  "usage: dm2doxy [--parser COMMAND] [--objtree DUMP] [--verbose] [--quiet] PATH"

end DreamDoc.Executable

open DreamDoc DreamDoc.Executable in
def main (words : List String) : IO UInt32 := do
  let settings : Settings := ⟨← IO.getEnv "DM2DOXY_OBJTREE", ← IO.getEnv "DM2DOXY_PARSER"⟩
  let files ← picture settings words
  -- No process is started from here: each is answered as one that the system does not support.
  let start (_ : List String) : ProcessOutcome := .notStarted 38 "Function not implemented"
  match CommandLine.run ⟨files, settings, start⟩ words with
  | .usageError =>
    IO.eprintln usage
    return 2
  | .help =>
    IO.println usage
    return 0
  | .ran report => conclude files report
