import DreamDoc.Text.Blank
import DreamDoc.Text.Emoji.Flags
import DreamDoc.Text.Emoji.Names
import DreamDoc.Text.Width

namespace DreamDoc.Emoji

def tones : List (String × Char) := [
    ("_light_skin_tone", '🏻'), ("_medium-light_skin_tone", '🏼'), ("_medium_skin_tone", '🏽'),
    ("_medium-dark_skin_tone", '🏾'), ("_dark_skin_tone", '🏿')]

def withTone (tone : Char) (symbol : String) : String :=
  match symbol.toList with
  | [] => ""
  | [base] => String.ofList [base, tone]
  | base :: next :: rest =>
    String.ofList (base :: tone :: if next = Text.emojiSelector then rest else next :: rest)

def dropEnd? (text ending : List Char) : Option (List Char) :=
  if ending.isSuffixOf text then some (text.take (text.length - ending.length)) else none

def toned? (name : String) : Option String :=
  tones.findSome? fun (ending, tone) => do
    let base ← dropEnd? name.toList ending.toList
    let symbol ← tonedNames.lookup (String.ofList base)
    return withTone tone symbol

def named? (name : String) : Option String :=
  names.lookup name <|> tonedNames.lookup name <|> toned? name <|> flag? name

def lower (c : Char) : Char :=
  if c = 'Ã' ∨ c = 'Å' ∨ c = 'Ç' ∨ c = 'É' ∨ c = 'Í' ∨ c = 'Ô' then Char.ofNat (c.toNat + 0x20)
  else if c = '\u212a' then 'k'
  else if c = '\u212b' then 'å'
  else c.toLower

def splitCode (code : List Char) : List Char × List Char :=
  match dropEnd? code "-text".toList, dropEnd? code "-emoji".toList with
  | some name, _ => (name, [Text.textSelector])
  | none, some name => (name, [Text.emojiSelector])
  | none, none => (code, [])

def showCode (code : List Char) : List Char :=
  let (name, selector) := splitCode code
  match named? (String.ofList (name.map lower)) with
  | some symbol => symbol.toList ++ selector
  | none => ':' :: code ++ [':']

/-- Replaces the codes in a text. `code` holds what has been read behind a colon that may open a
code, the newest first. -/
def showCodesAfter (code : Option (List Char)) : List Char → List Char
  | [] =>
    match code with
    | none => []
    | some code => ':' :: code.reverse
  | c :: rest =>
    match code with
    | none => if c = ':' then showCodesAfter (some []) rest else c :: showCodesAfter none rest
    | some code =>
      if c = ':' then showCode code.reverse ++ showCodesAfter none rest
      else if Text.isBlank c then ':' :: code.reverse ++ c :: showCodesAfter none rest
      else showCodesAfter (some (c :: code)) rest

def showCodes (text : List Char) : List Char := showCodesAfter none text

end DreamDoc.Emoji
