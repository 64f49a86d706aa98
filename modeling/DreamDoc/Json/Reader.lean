import DreamDoc.Json.Flaw
import DreamDoc.Json.Token

namespace DreamDoc.Json

/-- An open container with what it holds so far, the newest first. An object has a key that
awaits its value. -/
inductive Frame where
  | array (items : List Json)
  | object (members : List (String × Json)) (key : String)

inductive Phase where
  | value
  | firstItem
  | afterItem (items : List Json)
  | firstKey
  | key (members : List (String × Json))
  | colon (members : List (String × Json)) (key : String)
  | afterMember (members : List (String × Json))

inductive State where
  | reading (phase : Phase) (outer : List Frame)
  | finished (value : Json)

namespace State

def deliver (value : Json) : List Frame → State
  | [] => .finished value
  | .array items :: outer => .reading (.afterItem (value :: items)) outer
  | .object members key :: outer => .reading (.afterMember ((key, value) :: members)) outer

def enter (outer : List Frame) : Token → Option State
  | .scalar value => some (deliver value outer)
  | .str value => some (deliver (.str value) outer)
  | .openBracket => some (.reading .firstItem outer)
  | .openBrace => some (.reading .firstKey outer)
  | _ => none

-- The containers around a value are counted, so one that is empty may stand one level deeper than
-- one that is not.
def start (limits : Limits) (outer : List Frame) (token : Token) : Option State :=
  if outer.length ≤ limits.depth then enter outer token else none

def step (limits : Limits) : State → Token → Option State
  | .reading .value outer, token => start limits outer token
  | .reading .firstItem outer, .closeBracket => some (deliver (.arr []) outer)
  | .reading .firstItem outer, token => start limits (.array [] :: outer) token
  | .reading (.afterItem items) outer, .comma => some (.reading .value (.array items :: outer))
  | .reading (.afterItem items) outer, .closeBracket => some (deliver (.arr items.reverse) outer)
  | .reading .firstKey outer, .closeBrace => some (deliver (.obj []) outer)
  | .reading .firstKey outer, .str key => some (.reading (.colon [] key) outer)
  | .reading (.key members) outer, .str key => some (.reading (.colon members key) outer)
  | .reading (.colon members key) outer, .colon =>
    some (.reading .value (.object members key :: outer))
  | .reading (.afterMember members) outer, .comma => some (.reading (.key members) outer)
  | .reading (.afterMember members) outer, .closeBrace =>
    some (deliver (.obj members.reverse) outer)
  | _, _ => none

def result : State → Except Flaw Json
  | .finished value => .ok value
  | .reading _ _ => .error .truncated

def flaw : State → Flaw
  | .finished _ => .surplus
  | .reading .value _ => .noValue
  | .reading .firstItem _ => .noValue
  | .reading (.afterItem _) _ => .noItemEnd
  | .reading .firstKey _ => .noKey
  | .reading (.key _) _ => .noKey
  | .reading (.colon _ _) _ => .noColon
  | .reading (.afterMember _) _ => .noMemberEnd

def run (limits : Limits) (state : State) (text : List Char) : Except Flaw Json :=
  match _rest : text.dropWhile isBlank with
  | [] => state.result
  | first :: tail =>
    match _taken : Token.read limits first tail with
    | none => .error state.flaw
    | some (token, left) =>
      match state.step limits token with
      | none => .error state.flaw
      | some next => next.run limits left
termination_by text.length
decreasing_by
  have := Token.length_of_read _taken
  have := (List.dropWhile_sublist isBlank (l := text)).length_le
  simp_all
  omega

end State

def parse (limits : Limits) (text : String) : Except Flaw Json :=
  State.run limits (.reading .value []) text.toList

end DreamDoc.Json
