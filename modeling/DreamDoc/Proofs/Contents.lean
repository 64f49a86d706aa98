import DreamDoc.Proofs.ReadingOrder

namespace DreamDoc

namespace TypeNode

def ownMembersAt (node : TypeNode) (location : Location) : List Definition :=
  let member (text : String) : Definition := ⟨qualifiedName node.path, text, false⟩
  (if node.path ≠ "" ∧ node.location = location then [member ""] else []) ++
  (node.vars.entries.filter (·.2.location = location)).map (fun (name, var) =>
    member (var.text name)) ++
  (node.procs.entries.filter (·.2.location = location)).flatMap fun (name, procedure) =>
    (procedure.texts name).map member

mutual

/-- What a type and the types below it have at a location, each type before its children. -/
def membersAt (location : Location) : TypeNode → List Definition
  | ⟨path, place, parent, vars, procs, children⟩ =>
    ownMembersAt ⟨path, place, parent, vars, procs, children⟩ location ++
      membersAtAll location children

def membersAtAll (location : Location) : List TypeNode → List Definition
  | [] => []
  | node :: rest => node.membersAt location ++ membersAtAll location rest

end

theorem itemsAt_marker (node : TypeNode) (location : Location) :
    itemsAt node.marker location =
      if node.path ≠ "" ∧ node.location = location then [⟨node.className, "", false⟩] else [] := by
  unfold marker
  by_cases global : node.path = ""
  · simp [global]
  · simp [global, itemsAt_cons]

theorem itemsAt_declarations (node : TypeNode) (location : Location) :
    itemsAt node.declarations location = node.ownMembersAt location := by
  have vars := itemsAt_map_place (fun entry : String × Variable => entry.2.location)
    (fun entry => (⟨node.className, entry.2.text entry.1, false⟩ : Definition))
    node.vars.entries location
  have procs := itemsAt_flatMap_place (fun entry : String × Procedure => entry.2.location)
    (fun entry => (entry.2.texts entry.1).map fun text =>
      (⟨node.className, text, false⟩ : Definition)) node.procs.entries location
  simp only [List.map_map, Function.comp_def] at procs
  rw [declarations, itemsAt_append, itemsAt_append, itemsAt_marker, vars, procs]
  rfl

mutual

theorem itemsAt_preorder (location : Location) : (node : TypeNode) →
    itemsAt (node.preorder.flatMap declarations) location = node.membersAt location
  | ⟨path, place, parent, vars, procs, children⟩ => by
    rw [preorder, List.flatMap_cons, itemsAt_append, itemsAt_declarations,
      itemsAt_preorderAll location children, membersAt]

theorem itemsAt_preorderAll (location : Location) : (nodes : List TypeNode) →
    itemsAt ((preorderAll nodes).flatMap declarations) location = membersAtAll location nodes
  | [] => rfl
  | node :: rest => by
    rw [preorderAll, List.flatMap_append, itemsAt_append, itemsAt_preorder location node,
      itemsAt_preorderAll location rest, membersAtAll]

end

theorem isComment_of_mem_ownMembersAt {node : TypeNode} {location : Location} {d : Definition}
    (member : d ∈ node.ownMembersAt location) : d.isComment = false := by
  unfold ownMembersAt at member
  grind

theorem isComment_of_mem_membersAt {node : TypeNode} {location : Location} {d : Definition}
    (member : d ∈ node.membersAt location) : d.isComment = false := by
  rw [← itemsAt_preorder, mem_itemsAt] at member
  obtain ⟨inner, -, own⟩ := List.mem_flatMap.mp member
  rw [← mem_itemsAt, itemsAt_declarations] at own
  exact isComment_of_mem_ownMembersAt own

end TypeNode

namespace Environment

def commentsAt (env : Environment) (location : Location) : List Definition :=
  (env.comments.filter (·.location = location)).map fun comment => ⟨"", comment.text, true⟩

theorem itemsAt_definitions (env : Environment) (location : Location) :
    itemsAt env.definitions location = env.commentsAt location ++ env.tree.membersAt location := by
  have comments := itemsAt_map_place DocComment.location
    (fun comment => (⟨"", comment.text, true⟩ : Definition)) env.comments location
  rw [definitions, itemsAt_append, TypeNode.itemsAt_preorder, commentsAt, ← comments]
  rfl

end Environment

theorem BlockState.prefix_itemsAt_scaffold {state : BlockState}
    {stream : List (Location × Definition)} {location : Location}
    {comments declared : List Definition}
    (split : itemsAt stream location = comments ++ declared)
    (kind : ∀ d ∈ comments, d.isComment = true)
    (apart : ∀ last owner, state.last = some (last, owner) → last ≠ location) :
    comments.map .definition <+: itemsAt (state.scaffold stream) location := by
  induction stream generalizing state comments with
  | nil =>
    obtain ⟨rfl, -⟩ := List.append_eq_nil_iff.mp split.symm
    exact List.nil_prefix
  | cons item rest ih =>
    obtain ⟨place, d⟩ := item
    rw [itemsAt_cons] at split
    cases comment : d.isComment with
    | true =>
      rw [state.scaffold_comment comment, itemsAt_cons]
      by_cases here : place = location
      · rw [if_pos here] at split ⊢
        cases comments with
        | nil => exact List.nil_prefix
        | cons first comments =>
          obtain ⟨rfl, remaining⟩ := List.cons.inj split
          rw [List.map_cons, List.prefix_cons_inj]
          exact ih remaining (fun d member => kind d (List.mem_cons_of_mem _ member)) apart
      · rw [if_neg here] at split ⊢
        exact ih split kind apart
    | false =>
      by_cases here : place = location
      · -- The first thing at the location is no comment, so there is none to come.
        rw [if_pos here] at split
        cases comments with
        | nil => exact List.nil_prefix
        | cons first comments =>
          obtain ⟨rfl, -⟩ := List.cons.inj split
          have both := kind d List.mem_cons_self
          rw [comment] at both
          cases both
      · rw [if_neg here] at split
        rw [state.scaffold_declaration comment, itemsAt_append, itemsAt_cons, if_neg here,
          state.itemsAt_boundary_eq_nil d.owner here apart, List.nil_append]
        apply ih split kind
        rintro last owner ⟨⟩
        exact here

/-- A line without its scaffolding is what the environment has there, in order, and its comments
stand in front of everything else. -/
theorem contents_of_line (env : Environment) (location : Location) :
    let line := ((collate env).line? location).getD []
    line.filter (fun fragment => !fragment.isScaffold) =
        (env.commentsAt location ++ env.tree.membersAt location).map .definition ∧
      ∃ rest, line = (env.commentsAt location).map .definition ++ rest ∧
        ∀ d, .definition d ∈ rest → d.isComment = false := by
  have held := (env.itemsAt_stream location).trans (env.itemsAt_definitions location)
  have kept := BlockState.filter_itemsAt_scaffold ⟨none, env.parents⟩ env.stream location
  rw [held] at kept
  have comments : ∀ d ∈ env.commentsAt location, d.isComment = true := by
    intro d member
    obtain ⟨comment, -, rfl⟩ := List.mem_map.mp member
    rfl
  have front : (env.commentsAt location).map .definition <+:
      itemsAt (BlockState.scaffold ⟨none, env.parents⟩ env.stream) location :=
    BlockState.prefix_itemsAt_scaffold held comments (by simp)
  obtain ⟨rest, split⟩ := front
  rw [collate, getD_line?_scaffoldTree]
  refine ⟨kept, rest, split.symm, ?_⟩
  intro d member
  -- Taking away the comments on both sides leaves the members of the types in the rest.
  have others : rest.filter (fun fragment => !fragment.isScaffold) =
      (env.tree.membersAt location).map .definition := by
    rw [← split, List.filter_append, List.map_append, List.filter_eq_self.mpr (by simp)] at kept
    exact List.append_cancel_left kept
  have declared : Fragment.definition d ∈ (env.tree.membersAt location).map .definition := by
    rw [← others]
    exact List.mem_filter.mpr ⟨member, rfl⟩
  obtain ⟨source, inside, same⟩ := List.mem_map.mp declared
  cases same
  exact TypeNode.isComment_of_mem_membersAt inside

end DreamDoc
