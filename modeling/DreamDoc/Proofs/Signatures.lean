import DreamDoc.Proofs.Balance
import DreamDoc.Proofs.Stretches

namespace DreamDoc

namespace Procedure

def signature (name : String) (procedure : Procedure) : String :=
  (procedure.kind.map ProcedureKind.text).getD "" ++ " " ++ name ++ "(" ++
    ", ".intercalate (procedure.parameters.map Parameter.text) ++ ")\x7b\x7d"

theorem intercalate_cons_eq_join (first : Parameter) (rest : List Parameter) :
    ", ".intercalate ((first :: rest).map Parameter.text) =
      first.text ++ String.join (rest.map fun parameter => ", " ++ parameter.text) := by
  induction rest generalizing first with
  | nil => simp
  | cons second rest ih =>
    rw [List.map_cons, List.map_cons, String.intercalate_cons_cons, ← List.map_cons, ih]
    simp [String.append_assoc]

theorem join_texts (name : String) (procedure : Procedure) :
    String.join (procedure.texts name) = procedure.signature name := by
  unfold texts signature
  cases procedure.parameters with
  | nil => simp
  | cons first rest =>
    rw [intercalate_cons_eq_join]
    simp [String.append_assoc]

end Procedure

namespace TypeNode

/-- The pieces of a procedure as members of a type. -/
def pieces (node : TypeNode) (name : String) (procedure : Procedure) : List Definition :=
  (procedure.texts name).map fun text => ⟨node.className, text, false⟩

/-- What a type declares up to and with the given ones of its procedures. -/
def declarationsWith (node : TypeNode) (procs : List (String × Procedure)) :
    List (Location × Definition) :=
  node.marker ++
  node.vars.entries.map (fun (name, var) =>
    (var.location, ⟨node.className, var.text name, false⟩)) ++
  procs.flatMap fun (name, procedure) =>
    (node.pieces name procedure).map fun piece => (procedure.location, piece)

theorem declarations_eq_declarationsWith (node : TypeNode) :
    node.declarations = node.declarationsWith node.procs.entries := by
  simp only [declarations, declarationsWith, pieces, List.map_map]
  rfl

end TypeNode

namespace Environment

/-- What is found before the next procedure of a type, when the types above it in the tree order
and the given procedures of its own have been read. -/
def definitionsBefore (env : Environment) (above : List TypeNode) (node : TypeNode)
    (procs : List (String × Procedure)) : List (Location × Definition) :=
  env.comments.map DocComment.definition ++ above.flatMap TypeNode.declarations ++
    node.declarationsWith procs

variable {env : Environment} {above below : List TypeNode} {node : TypeNode}
  {procs others : List (String × Procedure)} {name : String} {procedure : Procedure}

theorem exists_definitions_split (walk : env.tree.preorder = above ++ node :: below)
    (order : node.procs.entries = procs ++ (name, procedure) :: others) :
    ∃ later, env.definitions = env.definitionsBefore above node procs ++
      ((node.pieces name procedure).map fun piece => (procedure.location, piece)) ++ later := by
  refine ⟨(others.flatMap fun (name, procedure) =>
    (node.pieces name procedure).map fun piece => (procedure.location, piece)) ++
      below.flatMap TypeNode.declarations, ?_⟩
  rw [definitions, walk, List.flatMap_append, List.flatMap_cons,
    node.declarations_eq_declarationsWith, order]
  simp [definitionsBefore, TypeNode.declarationsWith]

theorem exists_stream_split (walk : env.tree.preorder = above ++ node :: below)
    (order : node.procs.entries = procs ++ (name, procedure) :: others) :
    ∃ front rest, env.stream = front ++
        ((node.pieces name procedure).map fun piece => (procedure.location, piece)) ++ rest ∧
      itemsAt front procedure.location =
        itemsAt (env.definitionsBefore above node procs) procedure.location := by
  obtain ⟨later, split⟩ := exists_definitions_split walk order
  have held : itemsAt env.definitions procedure.location =
      itemsAt (env.definitionsBefore above node procs) procedure.location ++
        node.pieces name procedure ++ itemsAt later procedure.location := by
    rw [split, itemsAt_append, itemsAt_append, itemsAt_const, if_pos rfl]
  exact exists_spread_split held (by simp [TypeNode.pieces, Procedure.texts])

theorem exists_line_split (walk : env.tree.preorder = above ++ node :: below)
    (order : node.procs.entries = procs ++ (name, procedure) :: others) :
    ∃ before after, itemsAt env.settled procedure.location =
        before ++ (node.pieces name procedure).map .definition ++ after ∧
      before.filter (fun fragment => !fragment.isScaffold) =
        (itemsAt (env.definitionsBefore above node procs) procedure.location).map .definition := by
  obtain ⟨front, rest, split, early⟩ := exists_stream_split walk order
  have tidy := BlockState.Tidy.start env.inOrder_stream env.parents
  obtain ⟨head, tail, pieces⟩ : ∃ head tail, node.pieces name procedure = head :: tail :=
    ⟨_, _, rfl⟩
  have own : ∀ piece ∈ head :: tail, piece.isComment = false ∧ piece.owner = node.className := by
    rw [← pieces]
    simp [TypeNode.pieces]
  rw [split, pieces] at tidy
  obtain ⟨before, after, settled, definitions⟩ := BlockState.exists_settled_together
    (fun piece member => (own piece member).1)
    (fun piece member => ((own piece (List.mem_cons_of_mem _ member)).2.trans
      (own head List.mem_cons_self).2.symm)) tidy
  refine ⟨itemsAt before procedure.location, itemsAt after procedure.location, ?_, ?_⟩
  · have placed := itemsAt_const procedure.location procedure.location
      ((head :: tail).map Fragment.definition)
    rw [if_pos rfl, List.map_map] at placed
    rw [Environment.settled, split, pieces, settled, itemsAt_append, itemsAt_append, ← placed]
    rfl
  · rw [filter_itemsAt, definitions, List.nil_append, early]

end Environment

/-- Wherever a procedure of a type is declared, its line of the collation has the pieces of its
signature next to each other, behind the definitions found there before it. -/
theorem signature_contiguous (env : Environment) (above below : List TypeNode) (node : TypeNode)
    (walk : env.tree.preorder = above ++ node :: below) (procs others : List (String × Procedure))
    (name : String) (procedure : Procedure)
    (order : node.procs.entries = procs ++ (name, procedure) :: others) :
    ∃ listing before after, (collate env)[procedure.location.file]? = some listing ∧
      listing[procedure.location.line]? =
        some (before ++ (node.pieces name procedure).map .definition ++ after) ∧
      before.filter (fun fragment => !fragment.isScaffold) =
        (itemsAt (env.definitionsBefore above node procs) procedure.location).map .definition ∧
      (Tree.mapFragments Fragment.text (collate env))[procedure.location.file]? =
        some listing.texts ∧
      ∃ rest, listing.texts.render = listing.textUpTo procedure.location.line before ++
        procedure.signature name ++ rest := by
  obtain ⟨before, after, line, early⟩ := Environment.exists_line_split walk order
  have present : itemsAt env.settled procedure.location ≠ [] := by
    rw [line]
    simp [TypeNode.pieces, Procedure.texts]
  have found : (collate env).line? procedure.location =
      some (before ++ (node.pieces name procedure).map .definition ++ after) := by
    rw [env.collate_eq, Tree.line?_ofStream, if_neg present, line]
  obtain ⟨listing, inTree, here⟩ := Option.bind_eq_some_iff.mp found
  have joined : String.join (((node.pieces name procedure).map .definition).map Fragment.text) =
      procedure.signature name := by
    rw [← procedure.join_texts, TypeNode.pieces, List.map_map, List.map_map]
    exact congrArg String.join (List.map_id _)
  refine ⟨listing, before, after, inTree, here, early, ?_, ?_⟩
  · rw [Tree.getElem?_mapFragments, inTree]
    rfl
  · rw [← joined]
    exact Listing.render_split_around here

def longVerb : Procedure := ⟨⟨1, 4⟩, some .verb, [⟨["mob"], "x"⟩, ⟨[], "y"⟩, ⟨["a", "b"], "z"⟩]⟩

def classOfVerb : TypeNode :=
  ⟨"/a", ⟨1, 2⟩, none, .ofList [("v", ⟨⟨1, 4⟩, none⟩)],
    .ofList [("e", ⟨⟨1, 9⟩, none, []⟩), ("f", longVerb)], []⟩

def sharedLine : Environment where
  files := ∅
  tree := ⟨"", ⟨1, 1⟩, none, ∅, .ofList [("g", ⟨⟨1, 4⟩, none, []⟩)],
    [classOfVerb, ⟨"/b", ⟨1, 4⟩, none, ∅, ∅, []⟩]⟩
  comments := [⟨⟨1, 4⟩, "// f"⟩]

theorem signature_contiguous_sharedLine :
    ∃ listing before after, (collate sharedLine)[(1 : Int)]? = some listing ∧
      listing[(4 : Int)]? = some (before ++
        (["verb f(", "mob::x", ", y", ", a::b::z", ")\x7b\x7d"].map fun text =>
          .definition ⟨"a", text, false⟩) ++ after) ∧
      before.filter (fun fragment => !fragment.isScaffold) =
        [.definition ⟨"", "// f", true⟩, .definition ⟨"", " g(", false⟩,
          .definition ⟨"", ")\x7b\x7d", false⟩, .definition ⟨"a", " v;", false⟩] ∧
      ∃ rest, listing.texts.render =
        listing.textUpTo 4 before ++ "verb f(mob::x, y, a::b::z)\x7b\x7d" ++ rest := by
  have walk : sharedLine.tree.preorder =
      [sharedLine.tree] ++ classOfVerb :: [⟨"/b", ⟨1, 4⟩, none, ∅, ∅, []⟩] := by
    simp [sharedLine, classOfVerb, TypeNode.preorder_eq]
  obtain ⟨listing, before, after, found, here, early, -, rest, rendered⟩ :=
    signature_contiguous sharedLine _ _ classOfVerb walk [("e", ⟨⟨1, 9⟩, none, []⟩)] [] "f"
      longVerb (by decide)
  have pieces : classOfVerb.pieces "f" longVerb =
      ["verb f(", "mob::x", ", y", ", a::b::z", ")\x7b\x7d"].map fun text =>
        ⟨"a", text, false⟩ := by decide +kernel
  have signature : longVerb.signature "f" = "verb f(mob::x, y, a::b::z)\x7b\x7d" := by
    decide +kernel
  rw [pieces, List.map_map] at here
  rw [signature] at rendered
  exact ⟨listing, before, after, found, here, early.trans (by decide +kernel), rest, rendered⟩

end DreamDoc
