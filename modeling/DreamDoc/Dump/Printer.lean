import DreamDoc.Environment
import DreamDoc.Json.Printer

namespace DreamDoc.Dump

open Json (obj arr str num null)

def integerJson (n : Int) : Json := num (.integer n)

def textsJson (texts : List String) : Json := arr (texts.map str)

def locationJson (location : Location) : Json :=
  obj [("file", integerJson location.file), ("line", integerJson location.line)]

def parameterJson (parameter : Parameter) : Json :=
  obj [("path", textsJson parameter.path), ("name", str parameter.name)]

def variableJson (var : Variable) : Json :=
  obj [("location", locationJson var.location),
    ("type_path", (var.typePath.map textsJson).getD null)]

def procedureKindJson : ProcedureKind → Json
  | .proc => str "proc"
  | .verb => str "verb"

def procedureJson (procedure : Procedure) : Json :=
  obj [("location", locationJson procedure.location),
    ("kind", (procedure.kind.map procedureKindJson).getD null),
    ("parameters", arr (procedure.parameters.map parameterJson))]

def docCommentJson (comment : DocComment) : Json :=
  obj [("location", locationJson comment.location), ("text", str comment.text)]

def tableJson {α : Type} (write : α → Json) (table : Table String α) : Json :=
  obj (table.entries.map fun (key, value) => (key, write value))

mutual

def typeNodeJson : TypeNode → Json
  | ⟨path, location, parent, vars, procs, children⟩ =>
    obj [("path", str path), ("location", locationJson location),
      ("parent", (parent.map str).getD null), ("vars", tableJson variableJson vars),
      ("procs", tableJson procedureJson procs), ("children", arr (typeNodesJson children))]

def typeNodesJson : List TypeNode → List Json
  | [] => []
  | node :: rest => typeNodeJson node :: typeNodesJson rest

end

def filesJson (files : List (Int × String)) : Json :=
  obj (files.map fun (id, path) => (String.ofList (Json.printInt id), str path))

def environmentJson (files : List (Int × String)) (env : Environment) : Json :=
  obj [("files", filesJson files), ("tree", typeNodeJson env.tree),
    ("comments", arr (env.comments.map docCommentJson))]

def writeInOrder (files : List (Int × String)) (env : Environment) : String :=
  (environmentJson files env).render

def write (env : Environment) : String := writeInOrder env.files.toList env

end DreamDoc.Dump
