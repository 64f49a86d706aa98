import DreamDoc.FileSystem
import DreamDoc.Path.Target

namespace DreamDoc

def readBack (fs : FileSystem) (workdir : Option Path) (source : Path) :
    Except Failure ByteArray :=
  match relativeToWorkdir fs.workdir workdir source with
  | .error failure => .error failure
  | .ok relative =>
    let target := pseudoSourcePath (workdir.getD Path.here) relative.toString
    match fs.readFile target with
    | .ok contents => .ok contents
    | .error (.system .notFound _) => .error (.noPseudoSource relative target)
    | .error failure => .error failure

end DreamDoc
