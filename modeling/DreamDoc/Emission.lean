import DreamDoc.Collation
import DreamDoc.Path.Target

namespace DreamDoc

def builtinsFile : Int := 0

structure Summary where
  label : String
  lines : Nat
  fragments : Nat
deriving DecidableEq

namespace Summary

def ofListing (label : String) (listing : Listing String) : Summary :=
  ⟨label, listing.size, listing.fragmentCount⟩

def message (summary : Summary) : String :=
  s!"{summary.label}: {summary.lines} lines with {summary.fragments} items"

end Summary

/-- What is built in goes by the path of its file, if that is known and not empty. -/
def builtinsLabel (env : Environment) : String :=
  match env.filePath? builtinsFile with
  | some path => if path = "" then "builtins" else path
  | none => "builtins"

def FileSystem.place (fs : FileSystem) (target : Path) (contents : ByteArray) :
    FileSystem × Except Failure Unit :=
  match fs.makeDirectories target.parent with
  | (fs, .error failure) => (fs, .error failure)
  | (fs, .ok ()) =>
    match fs.writeFile target contents with
    | .ok fs => (fs, .ok ())
    | .error failure => (fs, .error failure)

/-- Emits the listing of one file. A file that the environment does not know is passed over. -/
def emitListing (env : Environment) (base : Path) (id : Int) (listing : Listing String)
    (world : World) : Attempt (Option Summary) :=
  let contents := listing.render.toUTF8
  if id = builtinsFile then
    let summary := Summary.ofListing (builtinsLabel env) listing
    ((world.put contents).note .info summary.message, .ok (some summary))
  else match env.filePath? id with
    | none => (world.note .warning s!"Skipping definitions for unknown file id {id}", .ok none)
    | some source =>
      let target := pseudoSourcePath base source
      let summary := Summary.ofListing source listing
      match world.files.place target contents with
      | (files, .error failure) => ({ world with files }, .error failure)
      | (files, .ok ()) =>
        let world := { world with files }
        ((world.note .debug s!"Wrote {target.toString}").note .info summary.message,
          .ok (some summary))

-- The text is made before anything else, so a listing without one ends the emission even if its file
-- would be passed over.
def emitFile (env : Environment) (base : Path) (id : Int) (listing : Listing String)
    (world : World) : Attempt (Option Summary) :=
  if listing.isRenderable then emitListing env base id listing world
  else (world, .error .gapTooLong)

def emitAll (env : Environment) (base : Path) :
    List (Int × Listing String) → World → Attempt (List Summary)
  | [], world => (world, .ok [])
  | (id, listing) :: rest, world =>
    match emitFile env base id listing world with
    | (world, .error failure) => (world, .error failure)
    | (world, .ok summary) =>
      let (world, outcome) := emitAll env base rest world
      (world, outcome.map (summary.toList ++ ·))

def emit (env : Environment) (base : Path) (tree : Tree String) (world : World) :
    Attempt (List Summary) :=
  emitAll env base tree.toList world

def produce (env : Environment) (base : Path) (world : World) : Attempt (List Summary) :=
  let record := collationRecord env
  emit env base (Tree.mapFragments Fragment.text (collate env))
    (world.note record.level record.message)

end DreamDoc
