namespace DreamDoc

structure Options where
  parser : Option String
  objtree : Option String
  verbose : Bool
  quiet : Bool
  help : Bool
  arguments : List String
deriving DecidableEq

namespace Options

def none : Options := ⟨.none, .none, false, false, false, []⟩

def setFlag? (options : Options) : Char → Option Options
  | 'v' => some { options with verbose := true }
  | 'q' => some { options with quiet := true }
  | 'h' => some { options with help := true }
  | _ => .none

def setLongFlag? (options : Options) : String → Option Options
  | "verbose" => options.setFlag? 'v'
  | "quiet" => options.setFlag? 'q'
  | "help" => options.setFlag? 'h'
  | _ => .none

def setValue? (options : Options) (value : String) : String → Option Options
  | "parser" => some { options with parser := some value }
  | "objtree" => some { options with objtree := some value }
  | _ => .none

def takesValue (name : String) : Bool := name = "parser" || name = "objtree"

/-- Reads the words after those that led to `options`. Unknown options, missing values and values
for flags are refused. -/
def read (options : Options) : List String → Option Options
  | [] => some options
  | word :: rest =>
    match word.toList with
    | ['-', '-'] => some { options with arguments := options.arguments ++ rest }
    | '-' :: '-' :: long =>
      let name := String.ofList (long.takeWhile (· ≠ '='))
      match long.dropWhile (· ≠ '=') with
      | _ :: value =>
        match options.setValue? (String.ofList value) name with
        | some options => options.read rest
        | .none => .none
      | [] =>
        if takesValue name then
          match rest with
          | [] => .none
          | value :: rest =>
            match options.setValue? value name with
            | some options => options.read rest
            | .none => .none
        else
          match options.setLongFlag? name with
          | some options => options.read rest
          | .none => .none
    | '-' :: letter :: letters =>
      match (letter :: letters).foldlM setFlag? options with
      | some options => options.read rest
      | .none => .none
    | _ => { options with arguments := options.arguments ++ [word] }.read rest

end Options

end DreamDoc
