import DreamDoc.Environment

namespace DreamDoc

structure Definition where
  owner : String
  text : String
  isComment : Bool
deriving DecidableEq

def scope : String := "::"

/-- The class name of a path: one leading slash goes, every other becomes the scope mark. -/
def qualifiedName (path : String) : String :=
  let relative := if path.toList.head? = some '/' then path.toList.tail else path.toList
  String.ofList (relative.flatMap fun c => if c = '/' then scope.toList else [c])

def ProcedureKind.text : ProcedureKind → String
  | .proc => "proc"
  | .verb => "verb"

def Parameter.text (parameter : Parameter) : String :=
  String.join (parameter.path.map (· ++ scope)) ++ parameter.name

def Variable.text (name : String) (var : Variable) : String :=
  scope.intercalate (var.typePath.getD []) ++ " " ++ name ++ ";"

def Procedure.texts (name : String) (procedure : Procedure) : List String :=
  let head := (procedure.kind.map ProcedureKind.text).getD "" ++ " " ++ name ++ "("
  let parameters := match procedure.parameters with
    | [] => []
    | first :: rest => first.text :: rest.map fun parameter => ", " ++ parameter.text
  head :: parameters ++ [")\x7b\x7d"]

namespace TypeNode

def className (node : TypeNode) : String := qualifiedName node.path

def parentClass? (node : TypeNode) : Option String :=
  if node.path = "" then none
  else match node.parent with
    | some parent => if qualifiedName parent = "" then none else some (qualifiedName parent)
    | none => none

/-- An empty text that marks where a type is declared; the globals have none. -/
def marker (node : TypeNode) : List (Location × Definition) :=
  if node.path = "" then [] else [(node.location, ⟨node.className, "", false⟩)]

def declarations (node : TypeNode) : List (Location × Definition) :=
  node.marker ++
  node.vars.entries.map (fun (name, var) =>
    (var.location, ⟨node.className, var.text name, false⟩)) ++
  node.procs.entries.flatMap (fun (name, procedure) =>
    (procedure.texts name).map fun text => (procedure.location, ⟨node.className, text, false⟩))

end TypeNode

def DocComment.definition (comment : DocComment) : Location × Definition :=
  (comment.location, ⟨"", comment.text, true⟩)

namespace Environment

def definitions (env : Environment) : List (Location × Definition) :=
  env.comments.map DocComment.definition ++ env.tree.preorder.flatMap TypeNode.declarations

/-- The parent of each class; of several types with one name the last one decides. -/
def parents (env : Environment) : Std.ExtTreeMap String String :=
  env.tree.preorder.foldl
    (fun known node => match node.parentClass? with
      | some parent => known.insert node.className parent
      | none => known) ∅

end Environment

end DreamDoc
