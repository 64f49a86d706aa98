import DreamDoc.Proofs.Definitions
import DreamDoc.Proofs.ReadingOrder

namespace DreamDoc

/-- The type belongs to the class and its parent is a class. -/
def TypeNode.Inherits (node : TypeNode) (owner : String) : Prop :=
  node.path ≠ "" ∧ qualifiedName node.path = owner ∧
    ∃ parent ∈ node.parent, qualifiedName parent ≠ ""

instance (node : TypeNode) (owner : String) : Decidable (node.Inherits owner) :=
  inferInstanceAs (Decidable (_ ∧ _ ∧ _))

theorem TypeNode.parentClass?_eq (node : TypeNode) (owner : String) :
    (if node.className = owner then node.parentClass? else none) =
      if node.Inherits owner then node.parent.map qualifiedName else none := by
  by_cases heir : node.Inherits owner
  · obtain ⟨path, same, parent, found, proper⟩ := id heir
    rw [if_pos heir, className, if_pos same, parentClass?, if_neg path, Option.mem_def.mp found]
    simp [proper]
  · rw [if_neg heir, ite_eq_right_iff]
    intro same
    unfold parentClass?
    split
    · rfl
    · rename_i path
      cases found : node.parent with
      | none => rfl
      | some parent =>
        have orphan : qualifiedName parent = "" :=
          Decidable.by_contra fun proper => heir ⟨path, same, parent, found, proper⟩
        simp [orphan]

def Environment.heirs (env : Environment) (owner : String) : List TypeNode :=
  env.tree.preorder.filter fun node => node.Inherits owner

theorem Environment.mem_heirs {env : Environment} {owner : String} {node : TypeNode} :
    node ∈ env.heirs owner ↔ node ∈ env.tree.preorder ∧ node.Inherits owner := by
  simp [heirs]

theorem Environment.parents_eq_last_heir (env : Environment) (owner : String) :
    env.parents[owner]? =
      (env.heirs owner).getLast?.bind fun node => node.parent.map qualifiedName := by
  have recorded : env.parents[owner]? = ((env.heirs owner).filterMap fun node =>
      node.parent.map qualifiedName).getLast? := by
    rw [env.getElem?_parents, heirs, List.filterMap_filter]
    simp only [TypeNode.parentClass?_eq, decide_eq_true_eq]
  rw [recorded]
  cases found : (env.heirs owner).getLast? with
  | none => simp [List.getLast?_eq_none_iff.mp found]
  | some node =>
    obtain ⟨others, split⟩ := List.getLast?_eq_some_iff.mp found
    obtain ⟨-, -, -, parent, extends_, -⟩ := mem_heirs.mp (List.mem_of_getLast? found)
    rw [split, List.filterMap_append]
    simp [Option.mem_def.mp extends_]

namespace Fragment

def isParentClauseOf (owner : String) : Fragment → Bool
  | parentClause name _ => name = owner
  | _ => false

/-- Whether the fragment is part of the heading of a block of the class. -/
def heads (owner : String) : Fragment → Bool
  | opener name => name = owner
  | parentClause name _ => name = owner
  | _ => false

theorem not_clause_of_heads {owner : String} {fragment : Fragment}
    (elsewhere : fragment.heads owner = false) : fragment.isParentClauseOf owner = false := by
  cases fragment with
  | parentClause name parent => exact elsewhere
  | _ => rfl

end Fragment

namespace BlockState

variable {state : BlockState} {owner : String}

theorem heads_of_mem_ending {held : List (Location × Definition)} {item : Location × Fragment}
    (member : item ∈ state.closing ++ held.map placeDefinition) : item.2.heads owner = false := by
  rcases List.mem_append.mp member with closes | held
  · rw [(state.of_mem_closing closes).2]
    rfl
  · obtain ⟨source, -, rfl⟩ := List.mem_map.mp held
    rfl

theorem heads_of_mem_opening {location : Location} {other : String} (differ : other ≠ owner)
    {item : Location × Fragment} (member : item ∈ state.opening location other) :
    item.2.heads owner = false := by
  rw [opening_eq] at member
  split at member
  · cases member
  · obtain ⟨fragment, inside, rfl⟩ := List.mem_map.mp member
    simp only [heading, List.cons_append, List.mem_cons, List.mem_append, List.mem_map,
      Option.mem_toList, List.not_mem_nil, or_false] at inside
    rcases inside with rfl | ⟨parent, -, rfl⟩ | rfl
    · simp [Fragment.heads, differ]
    · simp [Fragment.heads, differ]
    · rfl

theorem not_clause_of_mem_settled {held stream : List (Location × Definition)}
    (tidy : Tidy state held stream) (unknown : state.parents[owner]? = none)
    {item : Location × Fragment} (member : item ∈ state.settled held stream) :
    item.2.isParentClauseOf owner = false := by
  have present : item.2 ∈ itemsAt (state.settled held stream) item.1 := mem_itemsAt.mpr member
  rw [itemsAt_settled tidy, itemsAt_append, itemsAt_placeDefinition] at present
  rcases List.mem_append.mp present with held | added
  · obtain ⟨d, -, same⟩ := List.mem_map.mp held
    rw [← same]
    rfl
  · have made := state.madeFrom_of_mem_scaffold (mem_itemsAt.mp added)
    generalize item.2 = fragment at made
    cases made with
    | parentClause known =>
      apply decide_eq_false
      rintro rfl
      rw [unknown] at known
      cases known
    | _ => rfl

theorem exists_first_heading {parent : String} {held stream : List (Location × Definition)}
    (tidy : Tidy state held stream) (spent : state.Spent) (named : owner ≠ "")
    (known : state.parents[owner]? = some parent)
    (declared : ∃ item ∈ stream, item.2.isComment = false ∧ item.2.owner = owner) :
    ∃ before location after, state.settled held stream =
        before ++ (heading owner (some parent)).map (fun fragment => (location, fragment)) ++
          after ∧
      (∀ item ∈ before, item.2.heads owner = false) ∧
      ∀ item ∈ after, item.2.isParentClauseOf owner = false := by
  fun_induction settled state held stream with
  | case1 state held => simp at declared
  | case2 state held place d rest comment here ih =>
    obtain rfl := tidy.held_eq_nil here
    have later : ∃ item ∈ rest, item.2.isComment = false ∧ item.2.owner = owner := by
      simpa [comment] using declared
    obtain ⟨before, location, after, split, first, last⟩ := ih tidy.keep spent known later
    refine ⟨(place, .definition d) :: before, location, after, by rw [split]; rfl, ?_, last⟩
    simpa [Fragment.heads] using first
  | case3 state held place d rest comment elsewhere ih =>
    have later : ∃ item ∈ rest, item.2.isComment = false ∧ item.2.owner = owner := by
      simpa [comment] using declared
    exact ih (tidy.hold elsewhere) spent known later
  | case4 state held place d rest declares front ih =>
    by_cases own : d.owner = owner
    · -- The first declaration of the class opens its block.
      subst own
      have opens : ¬state.continues place d.owner = true := by
        intro continues
        rw [spent.of_continues continues] at known
        cases known
      refine ⟨state.closing ++ held.map placeDefinition, place,
        (place, .definition d) :: (state.advance place d.owner).settled [] rest, ?_,
        fun _ member => heads_of_mem_ending member, ?_⟩
      · rw [show front = _ from if_neg opens, opening_eq, if_neg named, known, List.append_assoc]
      · intro item member
        rcases List.mem_cons.mp member with rfl | member
        · rfl
        · have used : (state.advance place d.owner).parents[d.owner]? = none := by
            rw [spent.parents_advance, if_pos rfl]
          exact not_clause_of_mem_settled (tidy.advance d.owner) used member
    · have later : ∃ item ∈ rest, item.2.isComment = false ∧ item.2.owner = owner := by
        simpa [own] using declared
      have kept : (state.advance place d.owner).parents[owner]? = some parent := by
        rw [spent.parents_advance, if_neg own, known]
      obtain ⟨before, location, after, split, first, last⟩ :=
        ih (tidy.advance d.owner) (spent.advance place d.owner) kept later
      refine ⟨front ++ (place, .definition d) :: before, location, after, ?_, ?_, last⟩
      · rw [split]
        simp
      · intro item member
        rcases List.mem_append.mp member with member | member
        · by_cases continues : state.continues place d.owner = true
          · rw [show front = _ from if_pos continues] at member
            exact heads_of_mem_ending (List.mem_append_right state.closing member)
          · rw [show front = _ from if_neg continues] at member
            rcases List.mem_append.mp member with ending | opening
            · exact heads_of_mem_ending ending
            · exact heads_of_mem_opening own opening
        · rcases List.mem_cons.mp member with rfl | member
          · rfl
          · exact first item member

end BlockState

theorem countP_around_heading {owner parent : String} {location : Location}
    {before after : List (Location × Fragment)}
    (first : ∀ item ∈ before, item.2.heads owner = false)
    (last : ∀ item ∈ after, item.2.isParentClauseOf owner = false) :
    (before ++ (heading owner (some parent)).map (fun fragment => (location, fragment)) ++
      after).countP (fun item => item.2.isParentClauseOf owner) = 1 := by
  have none_before : before.countP (fun item => item.2.isParentClauseOf owner) = 0 := by
    rw [List.countP_eq_zero]
    intro item inside
    simp [Fragment.not_clause_of_heads (first item inside)]
  have none_after : after.countP (fun item => item.2.isParentClauseOf owner) = 0 := by
    rw [List.countP_eq_zero]
    intro item inside
    simp [last item inside]
  rw [List.countP_append, List.countP_append, none_before, none_after]
  simp [heading, Fragment.isParentClauseOf]

theorem Environment.reading_collate (env : Environment) : (collate env).reading = env.settled := by
  rw [collate_eq]
  exact Tree.reading_ofStream (BlockState.inOrder_settled (.start env.inOrder_stream env.parents))

theorem Environment.exists_declaration_of_heir {env : Environment} {owner : String}
    {node : TypeNode} (member : node ∈ env.tree.preorder) (heir : node.Inherits owner) :
    ∃ item ∈ env.stream, item.2.isComment = false ∧ item.2.owner = owner := by
  obtain ⟨path, same, -⟩ := heir
  refine ⟨(node.location, ⟨node.className, "", false⟩), ?_, rfl, same⟩
  rw [env.mem_stream, definitions]
  refine List.mem_append_right _ (List.mem_flatMap.mpr ⟨node, member, ?_⟩)
  simp [TypeNode.declarations, TypeNode.marker, path]

/-- Over all files the parent of a class is named once if one of its types has a parent, in the
heading of the first block of the class, and the last of these types decides which parent it is. -/
theorem parentClause_once (env : Environment) (owner : String) (named : owner ≠ "") :
    (collate env).reading.countP (fun item => item.2.isParentClauseOf owner) =
        (if ∃ node ∈ env.tree.preorder, node.Inherits owner then 1 else 0) ∧
      ∀ node ∈ (env.tree.preorder.filter fun node => node.Inherits owner).getLast?,
        ∃ parent ∈ node.parent, ∃ before location after, (collate env).reading =
            before ++ [(location, .opener owner),
              (location, .parentClause owner (qualifiedName parent)), (location, .openBrace)] ++
              after ∧
          ∀ item ∈ before, item.2 ≠ .opener owner := by
  have tidy : BlockState.Tidy ⟨none, env.parents⟩ [] env.stream := .start env.inOrder_stream _
  have recorded := env.parents_eq_last_heir owner
  rw [env.reading_collate]
  change _ ∧ ∀ node ∈ (env.heirs owner).getLast?, _
  cases found : (env.heirs owner).getLast? with
  | none =>
    have childless : ¬∃ node ∈ env.tree.preorder, node.Inherits owner := by
      rintro ⟨node, member, heir⟩
      have present := Environment.mem_heirs.mpr ⟨member, heir⟩
      rw [List.getLast?_eq_none_iff.mp found] at present
      cases present
    rw [found] at recorded
    rw [if_neg childless, List.countP_eq_zero]
    refine ⟨?_, by simp⟩
    intro item member
    simp [BlockState.not_clause_of_mem_settled tidy recorded member]
  | some node =>
    obtain ⟨member, heir⟩ := Environment.mem_heirs.mp (List.mem_of_getLast? found)
    obtain ⟨-, -, parent, extends_, -⟩ := id heir
    have known : env.parents[owner]? = some (qualifiedName parent) := by
      rw [recorded, found]
      simp [Option.mem_def.mp extends_]
    obtain ⟨before, location, after, split, first, last⟩ :=
      BlockState.exists_first_heading tidy (.start env.parents) named known
        (env.exists_declaration_of_heir member heir)
    refine ⟨?_, ?_⟩
    · rw [if_pos ⟨node, member, heir⟩, Environment.settled, split]
      exact countP_around_heading first last
    · rintro _ ⟨⟩
      refine ⟨parent, extends_, before, location, after, split, ?_⟩
      intro item inside opens
      have elsewhere := first item inside
      rw [opens] at elsewhere
      simp [Fragment.heads] at elsewhere

def thriceReported : Environment where
  files := ∅
  tree := ⟨"", ⟨1, 1⟩, none, ∅, ∅,
    [⟨"/a", ⟨2, 1⟩, some "/p", ∅, ∅, []⟩,
      ⟨"a", ⟨2, 3⟩, some "/q/r", .ofList [("x", ⟨⟨1, 9⟩, none⟩)], ∅,
        [⟨"/a/b", ⟨1, 5⟩, some "/a", ∅, ∅, []⟩]⟩,
      ⟨"/a", ⟨1, 2⟩, some "/", ∅, ∅, []⟩]⟩
  comments := []

theorem parentClause_once_thriceReported :
    "a" ≠ "" ∧
    (collate thriceReported).reading.countP (fun item => item.2.isParentClauseOf "a") = 1 ∧
      ∃ before location after, (collate thriceReported).reading =
          before ++ [(location, .opener "a"), (location, .parentClause "a" "q::r"),
            (location, .openBrace)] ++ after ∧
        ∀ item ∈ before, item.2 ≠ .opener "a" := by
  have named : "a" ≠ "" := by decide
  obtain ⟨count, place⟩ := parentClause_once thriceReported "a" named
  obtain ⟨node, found, extends_⟩ : ∃ node,
      (thriceReported.tree.preorder.filter fun node => node.Inherits "a").getLast? = some node ∧
        node.parent = some "/q/r" :=
    Option.map_eq_some_iff.mp (by decide +kernel)
  obtain ⟨parent, known, stands⟩ := place node found
  obtain rfl : parent = "/q/r" := Option.some.inj (known.symm.trans extends_)
  rw [if_pos ⟨node, Environment.mem_heirs.mp (List.mem_of_getLast? found)⟩] at count
  exact ⟨named, count, stands⟩

end DreamDoc
