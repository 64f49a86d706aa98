import DreamDoc.Text.Split

/-!
# Windows paths

Both slashes separate names and the backslash is printed. A path may start with a drive: a letter
and a colon, or the host and share of a network path. A mark in front of the drive says that the
path is in the extended form.
-/

namespace DreamDoc.WindowsPath

def separator : Char := '\x5c'

structure Parts where
  drive : List Char
  rooted : Bool
  rest : List Char

def extendedMark : List Char := "\\\\?\\".toList

def extendedNetworkMark : List Char := "\\\\?\\UNC".toList

/-- Cuts off the mark of the extended form. The mark of a network path takes one of the two
separators in front of the host, which is given back. -/
def splitMark (text : List Char) : List Char × List Char :=
  if (extendedNetworkMark ++ [separator]).isPrefixOf text then
    (extendedNetworkMark, separator :: text.drop extendedNetworkMark.length)
  else if extendedMark.isPrefixOf text then (extendedMark, text.drop extendedMark.length)
  else ([], text)

/-- Cuts a network path, two separators with a host and a share, behind the share. The share may be
empty at the end of the text only. -/
def splitShare? : List Char → Option (List Char × List Char)
  | first :: second :: text =>
    let host := text.takeWhile (· ≠ separator)
    match text.dropWhile (· ≠ separator) with
    | [] => none
    | third :: tail =>
      if first = separator ∧ second = separator ∧ host ≠ [] ∧ tail.head? ≠ some separator then
        some ([first, second] ++ host ++ third :: tail.takeWhile (· ≠ separator),
          tail.dropWhile (· ≠ separator))
      else none
  | _ => none

def splitLetter : List Char → List Char × List Char
  | letter :: ':' :: rest =>
    if letter.isAlpha then ([letter, ':'], rest) else ([], letter :: ':' :: rest)
  | text => ([], text)

def split (text : List Char) : Parts :=
  let (mark, text) := splitMark text
  match splitShare? text with
  | some (share, rest) => ⟨mark ++ (if mark = [] then share else share.drop 1), true, rest⟩
  | none =>
    let (letter, rest) := splitLetter text
    ⟨mark ++ letter, rest.head? = some separator, rest⟩

def normalize (path : String) : String :=
  let parts := split (path.toList.map fun c => if c = '/' then separator else c)
  let names := (Text.splitAt separator parts.rest).filter fun name => name ≠ [] ∧ name ≠ ['.']
  let text := parts.drive ++ (if parts.rooted then [separator] else []) ++
    Text.joinWith separator names
  if text = [] then "." else String.ofList text

end DreamDoc.WindowsPath
