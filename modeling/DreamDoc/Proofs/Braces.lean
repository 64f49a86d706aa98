import DreamDoc.Definition
import Mathlib.Data.List.Infix

namespace DreamDoc

def depth (text : List Char) : Int := text.count '\x7b' - text.count '\x7d'

@[simp]
theorem depth_nil : depth [] = 0 := rfl

@[simp]
theorem depth_append (text rest : List Char) : depth (text ++ rest) = depth text + depth rest := by
  simp only [depth, List.count_append]
  omega

/-- Read from a depth on, no part of a text from its start leaves the bounds. -/
def Within (high level : Int) (text : List Char) : Prop :=
  ∀ front, front <+: text → 0 ≤ level + depth front ∧ level + depth front ≤ high

instance (high level : Int) (text : List Char) : Decidable (Within high level text) :=
  decidable_of_iff (∀ front ∈ text.inits, 0 ≤ level + depth front ∧ level + depth front ≤ high)
    (by simp only [List.mem_inits, Within])

theorem Within.append_iff {high level : Int} {text rest : List Char} :
    Within high level (text ++ rest) ↔
      Within high level text ∧ Within high (level + depth text) rest := by
  constructor
  · intro within
    refine ⟨fun front before => within front (before.trans (List.prefix_append _ _)), ?_⟩
    intro front before
    have whole := within (text ++ front) ((List.prefix_append_right_inj text).mpr before)
    rwa [depth_append, ← Int.add_assoc] at whole
  · rintro ⟨first, second⟩ front before
    rcases List.prefix_or_prefix_of_prefix before (List.prefix_append text rest) with inside | past
    · exact first front inside
    · obtain ⟨tail, rfl⟩ := past
      have bounds := second tail ((List.prefix_append_right_inj text).mp before)
      rwa [depth_append, ← Int.add_assoc]

theorem Within.bounds {high level : Int} {text : List Char} (within : Within high level text) :
    0 ≤ level ∧ level ≤ high := by
  simpa using within [] List.nil_prefix

def BraceFree (text : String) : Prop := ∀ c ∈ text.toList, c ≠ '\x7b' ∧ c ≠ '\x7d'

instance (text : String) : Decidable (BraceFree text) :=
  decidable_of_iff (text.toList.all fun c => c != '\x7b' && c != '\x7d') (by simp [BraceFree])

theorem depth_eq_zero {text : List Char} (free : ∀ c ∈ text, c ≠ '\x7b' ∧ c ≠ '\x7d') :
    depth text = 0 := by
  have noOpen : '\x7b' ∉ text := fun inside => (free _ inside).1 rfl
  have noClose : '\x7d' ∉ text := fun inside => (free _ inside).2 rfl
  rw [depth, List.count_eq_zero.mpr noOpen, List.count_eq_zero.mpr noClose]
  rfl

theorem within_of_free {high level : Int} {text : List Char}
    (free : ∀ c ∈ text, c ≠ '\x7b' ∧ c ≠ '\x7d') (low : 0 ≤ level) (top : level ≤ high) :
    Within high level text := by
  intro front before
  have flat : depth front = 0 := depth_eq_zero fun c inside => free c (before.subset inside)
  omega

namespace BraceFree

theorem empty : BraceFree "" := by decide

theorem append {text rest : String} (first : BraceFree text) (second : BraceFree rest) :
    BraceFree (text ++ rest) := by
  intro c member
  rw [String.toList_append] at member
  rcases List.mem_append.mp member with member | member
  · exact first c member
  · exact second c member

theorem join {texts : List String} (free : ∀ text ∈ texts, BraceFree text) :
    BraceFree (String.join texts) := by
  intro c member
  rw [String.toList_join] at member
  obtain ⟨text, inside, member⟩ := List.mem_flatMap.mp member
  exact free text inside c member

theorem intercalate {mark : String} (between : BraceFree mark) {texts : List String}
    (free : ∀ text ∈ texts, BraceFree text) : BraceFree (mark.intercalate texts) := by
  induction texts with
  | nil => exact String.intercalate_nil ▸ empty
  | cons text texts ih =>
    have first := free text List.mem_cons_self
    have rest := ih fun text member => free text (List.mem_cons_of_mem _ member)
    cases texts with
    | nil => simpa using first
    | cons next texts =>
      rw [String.intercalate_cons_cons]
      exact (first.append between).append rest

theorem scope : BraceFree scope := by decide

theorem qualifiedName {path : String} (free : BraceFree path) :
    BraceFree (qualifiedName path) := by
  intro c member
  simp only [DreamDoc.qualifiedName, String.toList_ofList, List.mem_flatMap] at member
  obtain ⟨source, kept, inside⟩ := member
  have original : source ∈ path.toList := by
    split at kept
    · exact List.mem_of_mem_tail kept
    · exact kept
  split at inside
  · exact scope c inside
  · obtain rfl := List.mem_singleton.mp inside
    exact free c original

end BraceFree

def Gentle (text : String) : Prop := depth text.toList = 0 ∧ Within 1 0 text.toList

theorem BraceFree.gentle {text : String} (free : BraceFree text) : Gentle text :=
  ⟨depth_eq_zero free, within_of_free free (by decide) (by decide)⟩

theorem gentle_body : Gentle ")\x7b\x7d" := by
  unfold Gentle
  decide

structure TypeNode.BraceFree (node : TypeNode) : Prop where
  path : DreamDoc.BraceFree node.path
  parent : ∀ parent ∈ node.parent, DreamDoc.BraceFree parent
  vars : ∀ entry ∈ node.vars.entries, DreamDoc.BraceFree entry.1 ∧
    ∀ segments ∈ entry.2.typePath, ∀ segment ∈ segments, DreamDoc.BraceFree segment
  procs : ∀ entry ∈ node.procs.entries, DreamDoc.BraceFree entry.1 ∧
    ∀ parameter ∈ entry.2.parameters, DreamDoc.BraceFree parameter.name ∧
      ∀ segment ∈ parameter.path, DreamDoc.BraceFree segment

structure Environment.BraceFree (env : Environment) : Prop where
  nodes : ∀ node ∈ env.tree.preorder, node.BraceFree
  comments : ∀ comment ∈ env.comments, DreamDoc.BraceFree comment.text

theorem Variable.braceFree_text {name : String} {var : Variable} (named : BraceFree name)
    (typed : ∀ segments ∈ var.typePath, ∀ segment ∈ segments, BraceFree segment) :
    BraceFree (var.text name) := by
  have segments : ∀ segment ∈ var.typePath.getD [], BraceFree segment := by
    cases found : var.typePath with
    | none => simp
    | some segments => exact typed segments found
  have blank : BraceFree " " := by decide
  have stop : BraceFree ";" := by decide
  exact (((BraceFree.scope.intercalate segments).append blank).append named).append stop

theorem Parameter.braceFree_text {parameter : Parameter} (named : BraceFree parameter.name)
    (typed : ∀ segment ∈ parameter.path, BraceFree segment) : BraceFree parameter.text := by
  refine (BraceFree.join ?_).append named
  intro text member
  obtain ⟨segment, inside, rfl⟩ := List.mem_map.mp member
  exact (typed segment inside).append .scope

theorem Procedure.gentle_of_mem_texts {name : String} {procedure : Procedure}
    (named : BraceFree name)
    (typed : ∀ parameter ∈ procedure.parameters, BraceFree parameter.name ∧
      ∀ segment ∈ parameter.path, BraceFree segment)
    {text : String} (member : text ∈ procedure.texts name) : Gentle text := by
  have blank : BraceFree " " := by decide
  have bracket : BraceFree "(" := by decide
  have comma : BraceFree ", " := by decide
  have kind : BraceFree ((procedure.kind.map ProcedureKind.text).getD "") := by
    rcases procedure.kind with _ | _ | _ <;> decide
  have parameters : ∀ parameter ∈ procedure.parameters, BraceFree parameter.text :=
    fun parameter inside =>
      Parameter.braceFree_text (typed parameter inside).1 (typed parameter inside).2
  simp only [texts, List.cons_append, List.mem_cons, List.mem_append, List.not_mem_nil,
    or_false] at member
  rcases member with rfl | inside | rfl
  · exact (((kind.append blank).append named).append bracket).gentle
  · cases found : procedure.parameters with
    | nil => simp [found] at inside
    | cons first rest =>
      rw [found] at parameters inside
      rcases List.mem_cons.mp inside with rfl | later
      · exact (parameters first List.mem_cons_self).gentle
      · obtain ⟨parameter, among, rfl⟩ := List.mem_map.mp later
        exact (comma.append (parameters parameter (List.mem_cons_of_mem _ among))).gentle
  · exact gentle_body

namespace TypeNode.BraceFree

variable {node : TypeNode}

theorem className (free : node.BraceFree) : DreamDoc.BraceFree node.className :=
  free.path.qualifiedName

theorem parentClass (free : node.BraceFree) {parent : String}
    (extends_ : node.parentClass? = some parent) : DreamDoc.BraceFree parent := by
  unfold parentClass? at extends_
  split at extends_
  · cases extends_
  · split at extends_
    · rename_i named
      split at extends_
      · cases extends_
      · cases extends_
        exact (free.parent _ named).qualifiedName
    · cases extends_

theorem of_mem_declarations (free : node.BraceFree) {item : Location × Definition}
    (member : item ∈ node.declarations) :
    DreamDoc.BraceFree item.2.owner ∧ Gentle item.2.text := by
  rcases List.mem_append.mp member with member | member
  · rcases List.mem_append.mp member with member | member
    · unfold marker at member
      split at member
      · cases member
      · obtain rfl := List.mem_singleton.mp member
        exact ⟨free.className, BraceFree.empty.gentle⟩
    · obtain ⟨⟨name, var⟩, inside, rfl⟩ := List.mem_map.mp member
      obtain ⟨named, typed⟩ := free.vars _ inside
      exact ⟨free.className, (var.braceFree_text named typed).gentle⟩
  · obtain ⟨⟨name, procedure⟩, inside, member⟩ := List.mem_flatMap.mp member
    obtain ⟨text, piece, rfl⟩ := List.mem_map.mp member
    obtain ⟨named, typed⟩ := free.procs _ inside
    exact ⟨free.className, procedure.gentle_of_mem_texts named typed piece⟩

end TypeNode.BraceFree

theorem Environment.BraceFree.of_mem_definitions {env : Environment} (free : env.BraceFree)
    {item : Location × Definition} (member : item ∈ env.definitions) :
    DreamDoc.BraceFree item.2.owner ∧ Gentle item.2.text := by
  rcases List.mem_append.mp member with member | member
  · obtain ⟨comment, inside, rfl⟩ := List.mem_map.mp member
    exact ⟨.empty, (free.comments comment inside).gentle⟩
  · obtain ⟨node, inside, member⟩ := List.mem_flatMap.mp member
    exact (free.nodes node inside).of_mem_declarations member

end DreamDoc
