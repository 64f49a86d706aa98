import DreamDoc.Location
import DreamDoc.Table

namespace DreamDoc

structure Parameter where
  path : List String
  name : String
deriving DecidableEq

inductive ProcedureKind where
  | proc
  | verb
deriving DecidableEq

structure Variable where
  location : Location
  typePath : Option (List String)
deriving DecidableEq

structure Procedure where
  location : Location
  kind : Option ProcedureKind
  parameters : List Parameter
deriving DecidableEq

/-- A type of the program. The root of the tree and its globals have the empty path. -/
structure TypeNode where
  path : String
  location : Location
  parent : Option String
  vars : Table String Variable
  procs : Table String Procedure
  children : List TypeNode

structure DocComment where
  location : Location
  text : String
deriving DecidableEq

structure Environment where
  files : Std.ExtTreeMap Int String
  tree : TypeNode
  comments : List DocComment

def Environment.filePath? (env : Environment) (id : Int) : Option String := env.files[id]?

mutual

def TypeNode.preorder : TypeNode → List TypeNode
  | ⟨path, location, parent, vars, procs, children⟩ =>
    ⟨path, location, parent, vars, procs, children⟩ :: preorderAll children

def TypeNode.preorderAll : List TypeNode → List TypeNode
  | [] => []
  | node :: rest => node.preorder ++ preorderAll rest

end

namespace TypeNode

theorem preorderAll_eq_flatMap (nodes : List TypeNode) :
    preorderAll nodes = nodes.flatMap preorder := by
  induction nodes with
  | nil => rfl
  | cons node rest ih => rw [preorderAll, ih, List.flatMap_cons]

theorem preorder_eq (node : TypeNode) :
    node.preorder = node :: node.children.flatMap preorder := by
  cases node
  rw [preorder, preorderAll_eq_flatMap]

end TypeNode

end DreamDoc
