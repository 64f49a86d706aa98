import DreamDoc.Dump.Verdict
import DreamDoc.Path.Basic
import DreamDoc.Text.Quoted

namespace DreamDoc

inductive SystemFault where
  | notFound
  | fileExists
  | notADirectory
  | isADirectory
  | nameTooLong
deriving DecidableEq

namespace SystemFault

def code : SystemFault → Int
  | notFound => 2
  | fileExists => 17
  | notADirectory => 20
  | isADirectory => 21
  | nameTooLong => 36

def text : SystemFault → String
  | notFound => "No such file or directory"
  | fileExists => "File exists"
  | notADirectory => "Not a directory"
  | isADirectory => "Is a directory"
  | nameTooLong => "File name too long"

end SystemFault

def systemMessage (code : Int) (text name : String) : String :=
  s!"[Errno {code}] {text}: {Text.quoted name}"

inductive Failure where
  | outsideWorkdir (source workdir : Path)
  | noPseudoSource (source target : Path)
  | emptyCommand
  | noParser
  | dumpNotFound (dump : Path)
  | invalidDump (source : String) (faults : List Fault)
  | parserNotStarted (command : String) (code : Int) (text : String)
  | parserFailed (status : Int) (detail : String)
  | system (fault : SystemFault) (path : Path)
  | openQuotation
  | openEscape
  | nullCharacter
  | gapTooLong
deriving DecidableEq

namespace Failure

def message : Failure → String
  | outsideWorkdir source workdir =>
    s!"{source.toString} is not inside the working directory {workdir.toString}"
  | noPseudoSource source target =>
    s!"no pseudo-source for {source.toString} (expected {target.toString}); " ++
      "run dm2doxy on the .dme first"
  | emptyCommand => "parser command is empty"
  | noParser => "no environment parser configured; set DM2DOXY_PARSER or DM2DOXY_OBJTREE"
  | dumpNotFound dump => s!"environment dump not found: {dump.toString}"
  | invalidDump source _ => s!"invalid environment dump from {source}: "
  | parserNotStarted command code text =>
    s!"could not run parser {command}: {systemMessage code text command}"
  | parserFailed status detail => s!"parser exited with status {status}: {detail}"
  | system fault path => systemMessage fault.code fault.text path.toString
  | openQuotation => "No closing quotation"
  | openEscape => "No escaped character"
  | nullCharacter => "embedded null byte"
  | gapTooLong => "cannot fit 'int' into an index-sized integer"

/-- A command that cannot be split, a null character that the system does not take and a line too far
down are mistakes of the caller, which a run does not answer for. -/
def isReported : Failure → Bool
  | openQuotation | openEscape | nullCharacter | gapTooLong => false
  | _ => true

end Failure

end DreamDoc
