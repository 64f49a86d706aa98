import DreamDoc.Dump.Integer
import DreamDoc.Environment

namespace DreamDoc.Dump

variable {α : Type}

def text : Json → Verdict String
  | .str s => .accepted s
  | _ => .fail .notText

def list (check : Json → Verdict α) : Json → Verdict (List α)
  | .arr items => .all (items.mapIdx fun i item => (check item).under (.item i))
  | _ => .fail .notList

def nullable (check : Json → Verdict α) : Json → Verdict (Option α)
  | .null => .accepted none
  | value => some <$> check value

def table (check : Json → Verdict α) : Json → Verdict (Table String α)
  | .obj members =>
    Table.ofList <$> .all (members.map fun (key, value) =>
      Prod.mk key <$> (check value).under (.member key))
  | _ => .fail .notMap

def required (members : List (String × Json)) (key : String) (check : Json → Verdict α) :
    Verdict α :=
  match Json.lastMember? members key with
  | some value => (check value).under (.member key)
  | none => .rejected ⟨[.member key], .missing⟩ []

def optional (members : List (String × Json)) (key : String) (default : α)
    (check : Json → Verdict α) : Verdict α :=
  match Json.lastMember? members key with
  | some value => (check value).under (.member key)
  | none => .accepted default

def location : Json → Verdict Location
  | .obj members =>
    Location.mk <$> required members "file" integer <*> required members "line" integer
  | _ => .fail .notLocation

def parameter : Json → Verdict Parameter
  | .obj members =>
    Parameter.mk <$> optional members "path" [] (list text) <*> required members "name" text
  | _ => .fail .notRecord

def variableEntry : Json → Verdict Variable
  | .obj members =>
    Variable.mk <$> required members "location" location <*>
      optional members "type_path" none (nullable (list text))
  | _ => .fail .notRecord

def procedureKind : Json → Verdict (Option ProcedureKind)
  | .null => .accepted none
  | .str "proc" => .accepted (some .proc)
  | .str "verb" => .accepted (some .verb)
  | _ => .fail .notKind

def procedureEntry : Json → Verdict Procedure
  | .obj members =>
    Procedure.mk <$> required members "location" location <*>
      optional members "kind" none procedureKind <*>
      optional members "parameters" [] (list parameter)
  | _ => .fail .notRecord

def docComment : Json → Verdict DocComment
  | .obj members =>
    DocComment.mk <$> required members "location" location <*> required members "text" text
  | _ => .fail .notRecord

theorem sizeOf_lastMember? {members : List (String × Json)} {key : String} {value : Json}
    (found : Json.lastMember? members key = some value) :
    sizeOf value < sizeOf (Json.obj members) := by
  have member : (key, value) ∈ members := by
    rw [Json.lastMember?, List.lookup_eq_some_iff] at found
    obtain ⟨before, after, split, _⟩ := found
    exact List.mem_reverse.1 (split ▸ by simp)
  have := List.sizeOf_lt_of_mem member
  simp only [Prod.mk.sizeOf_spec, Json.obj.sizeOf_spec] at *
  omega

def typeNode : Json → Verdict TypeNode
  | .obj members =>
    TypeNode.mk <$> optional members "path" "" text <*>
      required members "location" location <*>
      optional members "parent" none (nullable text) <*>
      optional members "vars" ∅ (table variableEntry) <*>
      optional members "procs" ∅ (table procedureEntry) <*>
      match _found : Json.lastMember? members "children" with
      | none => .accepted []
      | some (.arr items) =>
        (Verdict.all (items.attach.mapIdx fun i item =>
          (typeNode item.1).under (.item i))).under (.member "children")
      | some _ => (Verdict.fail .notList).under (.member "children")
  | _ => .fail .notRecord
termination_by value => sizeOf value
decreasing_by
  have := sizeOf_lastMember? _found
  have := List.sizeOf_lt_of_mem item.2
  simp only [Json.arr.sizeOf_spec] at *
  omega

theorem typeNode_obj (members : List (String × Json)) :
    typeNode (.obj members) =
      TypeNode.mk <$> optional members "path" "" text <*>
        required members "location" location <*>
        optional members "parent" none (nullable text) <*>
        optional members "vars" ∅ (table variableEntry) <*>
        optional members "procs" ∅ (table procedureEntry) <*>
        optional members "children" [] (list typeNode) := by
  have unattached (items : List Json) :
      (items.attach.mapIdx fun i item => (typeNode item.1).under (.item i)) =
        items.mapIdx fun i item => (typeNode item).under (.item i) := by
    apply List.ext_getElem <;> simp
  rw [typeNode]
  congr 1
  funext _
  split
  · rename_i found
    simp [optional, found]
  · rename_i items found
    simp [optional, found, list, unattached]
  · rename_i value other found
    cases value <;> simp_all [optional, list]

/-- Accepts the source files: the keys are integers, and of keys that denote one integer the last
counts. -/
def files : Json → Verdict (Std.ExtTreeMap Int String)
  | .obj members =>
    (Std.ExtTreeMap.ofList ·) <$> .all (members.map fun (key, value) =>
      Prod.mk <$> ((Verdict.ofExcept (integerText key)).under .key).under (.member key) <*>
        (text value).under (.member key))
  | _ => .fail .notMap

def environment : Json → Verdict Environment
  | .obj members =>
    Environment.mk <$> optional members "files" ∅ files <*>
      required members "tree" typeNode <*>
      optional members "comments" [] (list docComment)
  | _ => .fail .notRecord

end DreamDoc.Dump
