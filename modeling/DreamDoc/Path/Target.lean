import DreamDoc.Failure

/-!
# Where pseudo-source is kept

The pseudo-source of a source file lies directly in one directory. Its name is the path of the
source with every separator flattened, and with the extension turned into dots so that nothing
takes it for a source. Read-back looks for it under the path relative to the working directory.
-/

namespace DreamDoc

def outputDirectory : Path := Path.ofString "dm2doxy"

def flattenSeparators (source : String) : List Char :=
  source.toList.map fun c => if c = '/' ∨ c = '\x5c' then '$' else c

def flatName (source : String) : String :=
  let flat := flattenSeparators source
  if ".dm".toList.isSuffixOf flat then String.ofList (flat.take (flat.length - 3) ++ ['.', '.'])
  else String.ofList flat

def pseudoSourcePath (base : Path) (source : String) : Path :=
  (base.join outputDirectory).join (Path.ofString (flatName source))

def absoluteWorkdir (current : Path) (workdir : Option Path) : Path :=
  match workdir with
  | some workdir => current.join workdir
  | none => current

def relativeToWorkdir (current : Path) (workdir : Option Path) (source : Path) :
    Except Failure Path :=
  let absolute := absoluteWorkdir current workdir
  match (absolute.join source).relativeTo? absolute with
  | some relative => .ok relative
  | none => .error (.outsideWorkdir source absolute)

end DreamDoc
