import DreamDoc.Definition
import DreamDoc.Listing

/-!
# Class scaffolding

Declarations of a class are wrapped in a block `class c extends p { … }`. A block ends where the
next declaration belongs to another class or another file, or where the declarations end; its
closing brace stands at the location of its last declaration. The clause that names the parent
stands in the first block of a class only. Comments neither open nor close a block.
-/

namespace DreamDoc

/-- What a line of pseudo-source is made of: definitions and the scaffolding around them. -/
inductive Fragment where
  | opener (name : String)
  | parentClause (name parent : String)
  | openBrace
  | closeBrace
  | definition (definition : Definition)
deriving DecidableEq

namespace Fragment

def text : Fragment → String
  | opener name => "class " ++ name
  | parentClause _ parent => " extends " ++ parent
  | openBrace => "\x7b"
  | closeBrace => "\x7d"
  | definition d => d.text

def isScaffold : Fragment → Bool
  | definition _ => false
  | _ => true

end Fragment

/-- Where the last declaration stood and which class owned it, and the parents of the classes that
have not been opened yet. -/
structure BlockState where
  last : Option (Location × String)
  parents : Std.ExtTreeMap String String

namespace BlockState

def continues (state : BlockState) (location : Location) (owner : String) : Bool :=
  match state.last with
  | some (previous, current) => owner = current ∧ location.file = previous.file
  | none => false

def closing (state : BlockState) : List (Location × Fragment) :=
  match state.last with
  | some (location, owner) => if owner = "" then [] else [(location, .closeBrace)]
  | none => []

def opening (state : BlockState) (location : Location) (owner : String) :
    List (Location × Fragment) :=
  if owner = "" then []
  else
    (location, .opener owner) ::
      (state.parents[owner]?.toList.map fun parent => (location, .parentClause owner parent)) ++
      [(location, .openBrace)]

def boundary (state : BlockState) (location : Location) (owner : String) :
    List (Location × Fragment) :=
  if state.continues location owner then [] else state.closing ++ state.opening location owner

def advance (state : BlockState) (location : Location) (owner : String) : BlockState where
  last := some (location, owner)
  parents := if state.continues location owner then state.parents else state.parents.erase owner

/-- The definitions with their scaffolding. A closing brace comes after the fragments between it
and its location, so the stream need not be in the order of its locations. -/
def scaffold (state : BlockState) : List (Location × Definition) → List (Location × Fragment)
  | [] => state.closing
  | (location, d) :: rest =>
    if d.isComment then (location, .definition d) :: state.scaffold rest
    else
      state.boundary location d.owner ++ (location, .definition d) ::
        (state.advance location d.owner).scaffold rest

end BlockState

abbrev Group := Location × List Definition

def flattenGroups (groups : List Group) : List (Location × Definition) :=
  groups.flatMap fun (location, definitions) => definitions.map fun d => (location, d)

def scaffoldTree (groups : List Group) (parents : Std.ExtTreeMap String String) : Tree Fragment :=
  Tree.ofStream (BlockState.scaffold ⟨none, parents⟩ (flattenGroups groups))

end DreamDoc
