import DreamDoc.Proofs.Streams
import DreamDoc.Definition

namespace DreamDoc

/-- Something of the environment is located there. -/
def Environment.Occupies (env : Environment) (location : Location) : Prop :=
  (∃ comment ∈ env.comments, comment.location = location) ∨
  ∃ node ∈ env.tree.preorder,
    (node.path ≠ "" ∧ node.location = location) ∨
    (∃ entry ∈ node.vars.entries, entry.2.location = location) ∨
    ∃ entry ∈ node.procs.entries, entry.2.location = location

theorem TypeNode.exists_mem_declarations {node : TypeNode} {location : Location} :
    (∃ d, (location, d) ∈ node.declarations) ↔
      (node.path ≠ "" ∧ node.location = location) ∨
      (∃ entry ∈ node.vars.entries, entry.2.location = location) ∨
      ∃ entry ∈ node.procs.entries, entry.2.location = location := by
  simp only [declarations, List.mem_append, exists_or, or_assoc]
  refine or_congr ?_ (or_congr ?_ ?_)
  · unfold marker
    by_cases global : node.path = ""
    · simp [global]
    · simp [global, eq_comm]
  · simp only [List.mem_map, Prod.mk.injEq]
    constructor
    · rintro ⟨d, entry, member, here, -⟩
      exact ⟨entry, member, here⟩
    · rintro ⟨entry, member, here⟩
      exact ⟨_, entry, member, here, rfl⟩
  · simp only [List.mem_flatMap, List.mem_map, Prod.mk.injEq]
    constructor
    · rintro ⟨d, entry, member, text, -, here, -⟩
      exact ⟨entry, member, here⟩
    · rintro ⟨entry, member, here⟩
      exact ⟨_, entry, member, _, List.mem_cons_self, here, rfl⟩

theorem Environment.exists_mem_definitions {env : Environment} {location : Location} :
    (∃ d, (location, d) ∈ env.definitions) ↔ env.Occupies location := by
  simp only [definitions, List.mem_append, exists_or, Occupies]
  refine or_congr ?_ ?_
  · simp only [List.mem_map, DocComment.definition, Prod.mk.injEq]
    constructor
    · rintro ⟨d, comment, member, here, -⟩
      exact ⟨comment, member, here⟩
    · rintro ⟨comment, member, here⟩
      exact ⟨_, comment, member, here, rfl⟩
  · simp only [List.mem_flatMap]
    constructor
    · rintro ⟨d, node, member, inside⟩
      exact ⟨node, member, TypeNode.exists_mem_declarations.mp ⟨d, inside⟩⟩
    · rintro ⟨node, member, inside⟩
      obtain ⟨d, inside⟩ := TypeNode.exists_mem_declarations.mpr inside
      exact ⟨d, node, member, inside⟩

theorem getElem?_foldl_replace {ν : Type} {f : Std.ExtTreeMap String String → ν →
    Std.ExtTreeMap String String} {owner : String} {g : ν → Option String}
    (step : ∀ known node, (f known node)[owner]? = (g node).or known[owner]?) (nodes : List ν)
    (known : Std.ExtTreeMap String String) :
    (nodes.foldl f known)[owner]? = (nodes.filterMap g).getLast?.or known[owner]? := by
  induction nodes generalizing known with
  | nil => rfl
  | cons node nodes ih =>
    rw [List.foldl_cons, ih, step]
    cases found : g node with
    | none => rw [List.filterMap_cons_none found, Option.none_or]
    | some parent =>
      rw [List.filterMap_cons_some found, List.getLast?_cons]
      cases (nodes.filterMap g).getLast? <;> rfl

theorem Environment.getElem?_parents (env : Environment) (owner : String) :
    env.parents[owner]? =
      (env.tree.preorder.filterMap fun node =>
        if node.className = owner then node.parentClass? else none).getLast? := by
  rw [parents, getElem?_foldl_replace (g := fun node =>
    if node.className = owner then node.parentClass? else none)]
  · simp
  · intro known node
    cases node.parentClass? with
    | none => simp
    | some parent =>
      by_cases here : node.className = owner <;> simp [here, Std.ExtTreeMap.getElem?_insert]

theorem Environment.exists_of_parents {env : Environment} {owner parent : String}
    (known : env.parents[owner]? = some parent) :
    ∃ node ∈ env.tree.preorder, node.parentClass? = some parent := by
  rw [getElem?_parents] at known
  obtain ⟨node, member, found⟩ := List.mem_filterMap.mp (List.mem_of_getLast? known)
  split at found
  · exact ⟨node, member, found⟩
  · cases found

end DreamDoc
