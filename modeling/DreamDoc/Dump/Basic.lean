import DreamDoc.Dump.Schema
import DreamDoc.Json.Reader
import DreamDoc.Text.Utf8

namespace DreamDoc.Dump

def readText (text : String) : Verdict Environment :=
  match Json.parse limits text with
  | .ok value => environment value
  | .error flaw => .fail (.malformed flaw)

/-- Reads the environment that some bytes describe. Bytes that are no UTF-8 count as null
characters, which JSON has nowhere. -/
def read (bytes : ByteArray) : Verdict Environment :=
  match String.fromUTF8? bytes with
  | some text => readText text
  | none => readText (Text.decodeWith '\x00' bytes)

end DreamDoc.Dump
