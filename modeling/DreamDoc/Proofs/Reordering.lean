import DreamDoc.Collation
import DreamDoc.Proofs.Definitions
import Mathlib.Data.List.Pairwise
import Mathlib.Logic.Relation

namespace DreamDoc

namespace TypeNode

/-- The children of one type, at the root or anywhere below it, come in another order. -/
inductive Reorders : TypeNode → TypeNode → Prop where
  | here {node : TypeNode} {others : List TypeNode} (perm : node.children.Perm others) :
    Reorders node { node with children := others }
  | deeper {node child other : TypeNode} {before after : List TypeNode}
    (split : node.children = before ++ child :: after) (reorders : Reorders child other) :
    Reorders node { node with children := before ++ other :: after }

def Reordered : TypeNode → TypeNode → Prop := Relation.ReflTransGen Reorders

def alone (node : TypeNode) : TypeNode := { node with children := [] }

theorem Reorders.perm_preorder {node other : TypeNode} (reorders : Reorders node other) :
    (node.preorder.map alone).Perm (other.preorder.map alone) := by
  induction reorders with
  | @here node others perm =>
    rw [preorder_eq, preorder_eq, List.map_cons, List.map_cons]
    exact ((perm.flatMap_right preorder).map alone).cons node.alone
  | @deeper node child other before after split _ ih =>
    rw [preorder_eq, preorder_eq, split]
    simp only [List.map_cons, List.flatMap_append, List.flatMap_cons, List.map_append]
    exact ((ih.append_right _).append_left _).cons node.alone

theorem Reordered.perm_preorder {node other : TypeNode} (reordered : Reordered node other) :
    (node.preorder.map alone).Perm (other.preorder.map alone) := by
  induction reordered with
  | refl => exact List.Perm.refl _
  | tail _ reorders ih => exact ih.trans reorders.perm_preorder

theorem Reordered.foldl_preorder {β : Type} {f : β → TypeNode → β} {node other : TypeNode}
    (reordered : Reordered node other) (own : ∀ held inner, f held inner.alone = f held inner)
    (commute : node.preorder.Pairwise fun a b => ∀ held, f (f held a) b = f (f held b) a)
    (start : β) : node.preorder.foldl f start = other.preorder.foldl f start := by
  -- The walk is permuted only up to the children that its types carry along, which `f` ignores.
  have symm : Std.Symm fun a b => ∀ held, f (f held a) b = f (f held b) a :=
    ⟨fun _ _ swap held => (swap held).symm⟩
  have swaps := commute.forall_of_forall fun _ _ _ => rfl
  have alone (tree : TypeNode) :
      tree.preorder.foldl f start = (tree.preorder.map TypeNode.alone).foldl f start := by
    rw [List.foldl_map]
    simp only [own]
  rw [alone node, alone other]
  refine reordered.perm_preorder.foldl_eq' ?_ start
  intro x first y second held
  obtain ⟨a, here, rfl⟩ := List.mem_map.mp first
  obtain ⟨b, there, rfl⟩ := List.mem_map.mp second
  simp only [own]
  exact swaps here there held

def places (node : TypeNode) : List Location :=
  (if node.path = "" then [] else [node.location]) ++
    node.vars.entries.map (·.2.location) ++ node.procs.entries.map (·.2.location)

theorem mem_places {node : TypeNode} {location : Location} :
    location ∈ node.places ↔ ∃ d, (location, d) ∈ node.declarations := by
  rw [exists_mem_declarations, places, List.append_assoc, List.mem_append, List.mem_append,
    List.mem_map, List.mem_map]
  refine or_congr ?_ Iff.rfl
  by_cases global : node.path = ""
  · simp [global]
  · simp [global, eq_comm]

theorem itemsAt_declarations_eq_nil {node : TypeNode} {location : Location}
    (absent : location ∉ node.places) : itemsAt node.declarations location = [] := by
  rw [itemsAt_eq_nil]
  rintro ⟨place, d⟩ member rfl
  exact absent (mem_places.mpr ⟨d, member⟩)

end TypeNode

namespace Environment

/-- No two types declare something at one location, and no two types of one class name different
parents for it. -/
structure Unambiguous (env : Environment) : Prop where
  places : env.tree.preorder.Pairwise fun node other =>
    ∀ location ∈ node.places, location ∉ other.places
  parents : env.tree.preorder.Pairwise fun node other => node.className = other.className →
    ∀ parent ∈ node.parentClass?, ∀ rival ∈ other.parentClass?, parent = rival

variable {env : Environment} {tree : TypeNode}

theorem Unambiguous.parents_reordered (unambiguous : env.Unambiguous)
    (reordered : TypeNode.Reordered env.tree tree) :
    ({ env with tree } : Environment).parents = env.parents := by
  refine (reordered.foldl_preorder (fun _ _ => rfl) ?_ ∅).symm
  refine unambiguous.parents.imp ?_
  intro node other agree known
  cases mine : node.parentClass? with
  | none => rfl
  | some parent =>
    cases theirs : other.parentClass? with
    | none => rfl
    | some rival =>
      apply Std.ExtTreeMap.ext_getElem?
      intro owner
      by_cases same : node.className = other.className
      · have one : parent = rival := agree same parent mine rival theirs
        simp only [one, same]
      · simp only [Std.ExtTreeMap.getElem?_insert]
        grind

theorem Unambiguous.itemsAt_reordered (unambiguous : env.Unambiguous)
    (reordered : TypeNode.Reordered env.tree tree) (location : Location) :
    itemsAt ({ env with tree } : Environment).definitions location =
      itemsAt env.definitions location := by
  have walk (node : TypeNode) : itemsAt (node.preorder.flatMap TypeNode.declarations) location =
      node.preorder.foldl (fun held node => held ++ itemsAt node.declarations location) [] := by
    rw [itemsAt, List.filterMap_flatMap, List.flatMap_eq_foldl]
    rfl
  simp only [definitions, itemsAt_append, walk]
  congr 1
  refine (reordered.foldl_preorder (fun _ _ => rfl) ?_ []).symm
  refine unambiguous.places.imp ?_
  intro node other apart held
  by_cases here : location ∈ node.places
  · simp [TypeNode.itemsAt_declarations_eq_nil (apart location here)]
  · simp [TypeNode.itemsAt_declarations_eq_nil here]

end Environment

/-- The order of the types below any type does not show in the collation. -/
theorem collate_reordered (env : Environment) (tree : TypeNode) (unambiguous : env.Unambiguous)
    (reordered : TypeNode.Reordered env.tree tree) : collate { env with tree } = collate env := by
  have groups : indexDefinitions ({ env with tree } : Environment).definitions =
      indexDefinitions env.definitions :=
    congrArg Std.ExtTreeMap.toList (gather_congr (unambiguous.itemsAt_reordered reordered))
  rw [collate, collate, groups, unambiguous.parents_reordered reordered]

def nestedTypes (inner outer : List TypeNode → List TypeNode) : TypeNode :=
  ⟨"", ⟨1, 1⟩, none, ∅, .ofList [("g", ⟨⟨1, 4⟩, some .proc, []⟩)], outer
    [⟨"/obj", ⟨1, 1⟩, some "/datum", .ofList [("x", ⟨⟨2, 7⟩, none⟩)], ∅, inner
      [⟨"/obj/item", ⟨1, 5⟩, some "/obj", ∅, .ofList [("f", ⟨⟨1, 6⟩, some .verb, []⟩)], []⟩,
        ⟨"/obj", ⟨1, 3⟩, some "datum", ∅, ∅, []⟩]⟩,
      ⟨"/mob", ⟨1, 2⟩, none, .ofList [("y", ⟨⟨2, 8⟩, none⟩)], ∅, []⟩]⟩

theorem collate_reordered_nestedTypes :
    let env : Environment := ⟨∅, nestedTypes id id, [⟨⟨1, 3⟩, "// c"⟩]⟩
    let tree := nestedTypes List.reverse List.reverse
    env.Unambiguous ∧ TypeNode.Reordered env.tree tree ∧
      env.tree.preorder.map TypeNode.path ≠ tree.preorder.map TypeNode.path ∧
      collate { env with tree } = collate env := by
  intro env tree
  have unambiguous : env.Unambiguous := ⟨by decide +kernel, by decide +kernel⟩
  have inside : TypeNode.Reorders (nestedTypes id id) (nestedTypes List.reverse id) :=
    @TypeNode.Reorders.deeper _ _ _ [] _ rfl (.here (List.Perm.swap _ _ _))
  have outside : TypeNode.Reorders (nestedTypes List.reverse id) tree :=
    .here (List.Perm.swap _ _ _)
  have reordered : TypeNode.Reordered env.tree tree := .tail (.single inside) outside
  exact ⟨unambiguous, reordered, by decide +kernel, collate_reordered env tree unambiguous reordered⟩

end DreamDoc
