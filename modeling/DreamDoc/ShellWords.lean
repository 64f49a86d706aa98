import DreamDoc.Failure

namespace DreamDoc.ShellWords

def isBlank (c : Char) : Bool := c = ' ' || c = '\t' || c = '\n' || c = '\r'

/-- Where a character stands. The characters of the current word are held newest first. -/
inductive State where
  | between
  | plain (word : List Char)
  | single (word : List Char)
  | double (word : List Char)
  | escape (word : List Char)
  | escapeInDouble (word : List Char)

def finish (word : List Char) : String := String.ofList word.reverse

def enter (word : List Char) (c : Char) : State :=
  if c = '\x27' then .single word
  else if c = '\x22' then .double word
  else if c = '\x5c' then .escape word
  else .plain (c :: word)

def splitFrom : State → List Char → Except Failure (List String)
  | .between, [] => .ok []
  | .plain word, [] => .ok [finish word]
  | .single _, [] => .error .openQuotation
  | .double _, [] => .error .openQuotation
  | .escape _, [] => .error .openEscape
  | .escapeInDouble _, [] => .error .openEscape
  | .between, c :: rest =>
    if isBlank c then splitFrom .between rest else splitFrom (enter [] c) rest
  | .plain word, c :: rest =>
    if isBlank c then (finish word :: ·) <$> splitFrom .between rest
    else splitFrom (enter word c) rest
  | .single word, c :: rest =>
    splitFrom (if c = '\x27' then .plain word else .single (c :: word)) rest
  | .double word, c :: rest =>
    splitFrom
      (if c = '\x22' then .plain word
        else if c = '\x5c' then .escapeInDouble word
        else .double (c :: word)) rest
  | .escape word, c :: rest => splitFrom (.plain (c :: word)) rest
  | .escapeInDouble word, c :: rest =>
    splitFrom
      (.double (if c = '\x22' ∨ c = '\x5c' then c :: word else c :: '\x5c' :: word)) rest

def split (line : String) : Except Failure (List String) := splitFrom .between line.toList

def isSafe (c : Char) : Bool := c.isAlphanum || "_@%+=:,./-".toList.contains c

/-- A word as it is written in a command line. A single quote inside a quotation is written as
the end of the quotation, the quote between double quotes, and a new quotation. -/
def quote (word : String) : String :=
  if word ≠ "" ∧ word.toList.all isSafe then word
  else
    String.ofList ('\x27' :: word.toList.flatMap (fun c =>
      if c = '\x27' then ['\x27', '\x22', '\x27', '\x22', '\x27'] else [c]) ++ ['\x27'])

def join (words : List String) : String := " ".intercalate (words.map quote)

end DreamDoc.ShellWords
