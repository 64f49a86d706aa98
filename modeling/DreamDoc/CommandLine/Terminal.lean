import DreamDoc.Text.Emoji
import DreamDoc.Text.Split

/-!
# Text on the terminal

Messages pass through a printer that knows markup, where a tag is a word between square brackets
and a backslash before a bracket protects it. Tags in a message are protected, so that they show
as they are; a backslash before a bracket that opens no tag still counts as protection and is
dropped, and a single backslash at the end is protected by a second one. Emoji codes show as
emoji, unless they reach across the border of a tag. Some control characters are dropped, and tabs
advance to the next tab stop.

A message may be shown while the text that follows it is still to come. Of that text only the
first square bracket matters, which may end a tag that the message begins.
-/

namespace DreamDoc.Terminal

def startsTag (c : Char) : Bool := ('a' ≤ c ∧ c ≤ 'z') || c = '#' || c = '/' || c = '@'

def bracket? (text : List Char) : Option Char := text.find? fun c => c = '[' || c = ']'

/-- Whether the rest of a message after an opening bracket makes it a tag. `beyond` is the first
bracket behind the message. -/
def opensTag (beyond : Option Char) : List Char → Bool
  | [] => false
  | c :: rest => startsTag c && (bracket? rest).or beyond = some ']'

/-- Cuts a message before and behind its tags and drops the protection of other brackets. `done`
holds the start of the current piece, the newest first, and `inTag` says that it is a tag. -/
def pieces (beyond : Option Char) (done : List Char) (inTag : Bool) :
    List Char → List (List Char)
  | [] => [done.reverse]
  | '\x5c' :: '[' :: rest =>
    if opensTag beyond rest then ('\x5c' :: done).reverse :: pieces beyond ['['] true rest
    else pieces beyond ('[' :: done) inTag rest
  | '[' :: rest =>
    if opensTag beyond rest then done.reverse :: pieces beyond ['['] true rest
    else pieces beyond ('[' :: done) inTag rest
  | ']' :: rest =>
    if inTag then (']' :: done).reverse :: pieces beyond [] false rest
    else pieces beyond (']' :: done) inTag rest
  | c :: rest => pieces beyond (c :: done) inTag rest

def protectEnd (text : List Char) : List Char :=
  match text.reverse with
  | '\x5c' :: '\x5c' :: _ => text
  | '\x5c' :: _ => text ++ ['\x5c']
  | _ => text

def showMessage (beyond : Option Char) (message : List Char) : List Char :=
  (pieces beyond [] false (protectEnd message)).flatMap Emoji.showCodes

def isDropped (c : Char) : Bool :=
  c = '\x07' || c = '\x08' || c = '\x0b' || c = '\x0c' || c = '\r'

def tabWidth : Nat := 8

def fillTabs (column : Nat) : List (List Char) → List Char
  | [] => []
  | [part] => part
  | part :: rest =>
    let reached := column + Text.columns (part ++ [' '])
    let blanks := (tabWidth - reached % tabWidth) % tabWidth
    part ++ List.replicate (blanks + 1) ' ' ++ fillTabs (reached + blanks) rest

def expandTabs (text : List Char) : List Char :=
  Text.joinWith '\n' ((Text.splitAt '\n' text).map fun line => fillTabs 0 (Text.splitAt '\t' line))

def display (text : List Char) : String :=
  String.ofList (expandTabs (text.filter fun c => !isDropped c))

def line (before message after : String) : String :=
  display (before.toList ++ showMessage none message.toList ++ after.toList)

def lineStart (before message following : String) : String :=
  display (before.toList ++ showMessage (bracket? following.toList) message.toList)

end DreamDoc.Terminal
