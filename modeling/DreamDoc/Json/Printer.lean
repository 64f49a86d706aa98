import DreamDoc.Json.Basic

namespace DreamDoc.Json

def hexChar (n : Nat) : Char :=
  if n < 10 then Char.ofNat ('0'.toNat + n) else Char.ofNat ('a'.toNat + n - 10)

def escape (c : Char) : List Char :=
  if c = '\x22' then ['\x5c', '\x22']
  else if c = '\x5c' then ['\x5c', '\x5c']
  else if c = '\x08' then ['\x5c', 'b']
  else if c = '\x0c' then ['\x5c', 'f']
  else if c = '\n' then ['\x5c', 'n']
  else if c = '\r' then ['\x5c', 'r']
  else if c = '\t' then ['\x5c', 't']
  else if c.toNat < 0x20 then
    ['\x5c', 'u', '0', '0', hexChar (c.toNat / 16), hexChar (c.toNat % 16)]
  else [c]

def printString (s : String) : List Char :=
  '\x22' :: s.toList.flatMap escape ++ ['\x22']

def printInt : Int → List Char
  | .ofNat n => Nat.toDigits 10 n
  | .negSucc n => '-' :: Nat.toDigits 10 (n + 1)

def printNumeral : Numeral → List Char
  | .integer n => printInt n
  | .decimal d =>
    (if d.negative then ['-'] else []) ++ Nat.toDigits 10 d.digits ++ 'e' :: printInt d.exponent
  | .nan => "NaN".toList
  | .infinity negative => (if negative then ['-'] else []) ++ "Infinity".toList

mutual

def print : Json → List Char
  | .null => "null".toList
  | .bool b => (if b then "true" else "false").toList
  | .num n => printNumeral n
  | .str s => printString s
  | .arr items => '[' :: printItems items ++ [']']
  | .obj members => '\x7b' :: printMembers members ++ ['\x7d']

def printItems : List Json → List Char
  | [] => []
  | [item] => item.print
  | item :: rest => item.print ++ ',' :: printItems rest

def printMembers : List (String × Json) → List Char
  | [] => []
  | [(key, value)] => printString key ++ ':' :: value.print
  | (key, value) :: rest => printString key ++ ':' :: value.print ++ ',' :: printMembers rest

end

def render (value : Json) : String := String.ofList value.print

end DreamDoc.Json
