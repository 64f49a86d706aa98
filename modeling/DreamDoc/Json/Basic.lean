import DreamDoc.Decimal

namespace DreamDoc

inductive Numeral where
  | integer (value : Int)
  | decimal (value : Decimal)
  | nan
  | infinity (negative : Bool)
deriving DecidableEq

inductive Json where
  | null
  | bool (value : Bool)
  | num (value : Numeral)
  | str (value : String)
  | arr (items : List Json)
  | obj (members : List (String × Json))
deriving Inhabited

namespace Json

def lastMember? (members : List (String × Json)) (key : String) : Option Json :=
  members.reverse.lookup key

end Json

end DreamDoc
