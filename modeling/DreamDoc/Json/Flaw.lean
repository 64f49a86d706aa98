namespace DreamDoc.Json

inductive Flaw where
  | truncated
  | surplus
  | noValue
  | noItemEnd
  | noKey
  | noColon
  | noMemberEnd
deriving DecidableEq

def Flaw.text : Flaw → String
  | truncated => "the text ends early"
  | surplus => "the text goes on after its value"
  | noValue => "a value is expected"
  | noItemEnd => "a comma or ] is expected"
  | noKey => "a key is expected"
  | noColon => "a colon is expected"
  | noMemberEnd => "a comma or \x7d is expected"

end DreamDoc.Json
