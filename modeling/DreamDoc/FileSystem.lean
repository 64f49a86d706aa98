import DreamDoc.Failure
import DreamDoc.Table

/-!
# File systems

A file system lists what stands at absolute places, each given by the names that lead to it. The
root is always a directory. A path is followed name by name from the root or from the working
directory, which is an absolute path without `..`, and every name but the last must lead to a
directory.
-/

namespace DreamDoc

inductive Entry where
  | directory
  | file (contents : ByteArray)

instance : DecidableEq Entry
  | .directory, .directory => isTrue rfl
  | .directory, .file _ => isFalse nofun
  | .file _, .directory => isFalse nofun
  | .file a, .file b =>
    decidable_of_iff (a.data = b.data)
      ⟨fun same => by cases a; cases b; exact congrArg _ (congrArg _ same), by rintro ⟨rfl⟩; rfl⟩

structure FileSystem where
  entries : Table (List String) Entry
  workdir : Path

/-- Where a path leads: to something, or to a place in a directory where nothing stands. -/
inductive Spot where
  | directory (place : List String)
  | file (place : List String) (contents : ByteArray)
  | vacant (place : List String)

namespace FileSystem

def nameLimit : Nat := 255

def pathLimit : Nat := 4095

def find? (fs : FileSystem) (place : List String) : Option Entry :=
  if place = [] then some .directory else fs.entries.get? place

def follow (fs : FileSystem) (place : List String) : List String → Except SystemFault Spot
  | [] => .ok (.directory place)
  | name :: rest =>
    if name = ".." then fs.follow place.dropLast rest
    else if nameLimit < name.utf8ByteSize then .error .nameTooLong
    else match fs.find? (place ++ [name]), rest with
      | some .directory, rest => fs.follow (place ++ [name]) rest
      | some (.file contents), [] => .ok (.file (place ++ [name]) contents)
      | some (.file _), _ => .error .notADirectory
      | none, [] => .ok (.vacant (place ++ [name]))
      | none, _ => .error .notFound

def locate (fs : FileSystem) (path : Path) : Except Failure Spot :=
  if '\x00' ∈ path.toString.toList then .error .nullCharacter
  else if pathLimit < path.toString.utf8ByteSize then .error (.system .nameTooLong path)
  else match fs.follow (if path.isAbsolute then [] else fs.workdir.names) path.names with
    | .ok spot => .ok spot
    | .error fault => .error (.system fault path)

def isDirectory (fs : FileSystem) (path : Path) : Bool :=
  match fs.locate path with
  | .ok (.directory _) => true
  | _ => false

def set (fs : FileSystem) (place : List String) (entry : Entry) : FileSystem :=
  { fs with entries := fs.entries.insert place entry }

theorem find?_set (fs : FileSystem) {place : List String} (below : place ≠ []) (entry : Entry)
    (other : List String) :
    (fs.set place entry).find? other = if place = other then some entry else fs.find? other := by
  unfold find? set
  by_cases root : other = []
  · subst root
    simp [below]
  · simp [root]

def readFile (fs : FileSystem) (path : Path) : Except Failure ByteArray :=
  match fs.locate path with
  | .ok (.file _ contents) => .ok contents
  | .ok (.directory _) => .error (.system .isADirectory path)
  | .ok (.vacant _) => .error (.system .notFound path)
  | .error failure => .error failure

def writeFile (fs : FileSystem) (path : Path) (contents : ByteArray) : Except Failure FileSystem :=
  match fs.locate path with
  | .ok (.file place _) => .ok (fs.set place (.file contents))
  | .ok (.vacant place) => .ok (fs.set place (.file contents))
  | .ok (.directory _) => .error (.system .isADirectory path)
  | .error failure => .error failure

def makeDirectory (fs : FileSystem) (path : Path) : Except Failure FileSystem :=
  match fs.locate path with
  | .ok (.vacant place) => .ok (fs.set place .directory)
  | .ok _ => .error (.system .fileExists path)
  | .error failure => .error failure

def ensureDirectory (fs : FileSystem) (path : Path) : FileSystem × Except Failure Unit :=
  match fs.makeDirectory path with
  | .ok fs => (fs, .ok ())
  | .error failure =>
    if fs.isDirectory path then (fs, .ok ()) else (fs, .error failure)

/-- Makes a directory unless there is one, and up to `depth` directories that lead to it. Those
that were made before a failure stay. -/
def makeDirectoriesWithin (fs : FileSystem) (path : Path) :
    (depth : Nat) → FileSystem × Except Failure Unit
  | 0 => fs.ensureDirectory path
  | depth + 1 =>
    match fs.ensureDirectory path with
    | (fs, .error (.system .notFound _)) =>
      match fs.makeDirectoriesWithin path.parent depth with
      | (fs, .ok ()) => fs.ensureDirectory path
      | (fs, .error failure) => (fs, .error failure)
    | outcome => outcome

def makeDirectories (fs : FileSystem) (path : Path) : FileSystem × Except Failure Unit :=
  fs.makeDirectoriesWithin path path.names.length

def removeAll (fs : FileSystem) (place : List String) : FileSystem :=
  { fs with entries := fs.entries.filterKeys fun other => !place.isPrefixOf other }

def remove (fs : FileSystem) (path : Path) : Except Failure FileSystem :=
  match fs.locate path with
  | .ok (.directory place) => .ok (fs.removeAll place)
  | .ok (.file place _) => .ok (fs.removeAll place)
  | .ok (.vacant _) => .ok fs
  | .error (.system .notFound _) => .ok fs
  | .error failure => .error failure

end FileSystem

end DreamDoc
