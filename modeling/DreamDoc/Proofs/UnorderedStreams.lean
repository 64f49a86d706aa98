import DreamDoc.Proofs.Balance
import DreamDoc.Proofs.ParentClauses
import DreamDoc.Proofs.Stretches

namespace DreamDoc

def Fragment.isOpener : Fragment → Bool
  | opener _ => true
  | _ => false

namespace Reader

/-- The number of openers that wait for their closing brace. -/
def openers : Reader → Nat
  | outside => 0
  | heading _ => 1
  | inside _ => 1

variable {reader last : Reader} {fragments : List Fragment}

theorem Run.countP_isOpener (run : Run reader fragments last) :
    fragments.countP Fragment.isOpener + reader.openers =
      fragments.count .closeBrace + last.openers := by
  induction run with
  | nil => rfl
  | cons step _ ih =>
    rw [List.countP_cons, List.count_cons]
    cases step <;> simp [Fragment.isOpener, openers] at ih ⊢ <;> omega

theorem Run.count_openBrace (run : Run reader fragments last) :
    fragments.count .openBrace + reader.height = fragments.count .closeBrace + last.height := by
  induction run with
  | nil => rfl
  | cons step _ ih =>
    rw [List.count_cons, List.count_cons]
    cases step <;> simp [height] at ih ⊢ <;> omega

end Reader

namespace BlockState

variable {state : BlockState} {file : Int}

theorem run_boundary (location : Location) (owner : String) :
    Reader.Run (state.reader file) (fragmentsIn file (state.boundary location owner))
      ((state.advance location owner).reader file) := by
  unfold boundary
  split
  · rename_i continues
    rw [reader_advance_of_continues continues]
    exact .nil
  · rw [fragmentsIn_append]
    exact run_closing.append (run_opening location owner)

theorem run_scaffold (state : BlockState) (stream : List (Location × Definition)) :
    Reader.Run (state.reader file) (fragmentsIn file (state.scaffold stream)) .outside := by
  induction stream generalizing state with
  | nil => exact run_closing
  | cons item rest ih =>
    obtain ⟨place, d⟩ := item
    cases kind : d.isComment with
    | true =>
      rw [state.scaffold_comment kind, fragmentsIn_cons]
      split
      · exact .cons (step_comment kind) (ih state)
      · exact ih state
    | false =>
      rw [state.scaffold_declaration kind, fragmentsIn_append, fragmentsIn_cons]
      refine (run_boundary place d.owner).append ?_
      split
      · rename_i here
        exact .cons (step_declaration here) (ih _)
      · exact ih _

end BlockState

def Declares (stream : List (Location × Definition)) (owner : String) : Prop :=
  ∃ item ∈ stream, item.2.isComment = false ∧ item.2.owner = owner

instance (stream : List (Location × Definition)) (owner : String) :
    Decidable (Declares stream owner) :=
  inferInstanceAs (Decidable (∃ item ∈ stream, _))

theorem declares_cons {location : Location} {d : Definition}
    {rest : List (Location × Definition)} {owner : String} :
    Declares ((location, d) :: rest) owner ↔
      (d.isComment = false ∧ d.owner = owner) ∨ Declares rest owner := by
  simp [Declares]

namespace BlockState

variable {state : BlockState} {owner : String}

theorem clauses_opening (location : Location) (other : String) :
    (state.opening location other).countP (fun item => item.2.isParentClauseOf owner) =
      if other = owner ∧ owner ≠ "" then state.parents[owner]?.toList.length else 0 := by
  rw [opening_eq]
  by_cases global : other = ""
  · simp +contextual [global, eq_comm]
  · rw [if_neg global, List.countP_map, heading]
    by_cases own : other = owner
    · subst own
      cases state.parents[other]? <;> simp [global, Fragment.isParentClauseOf]
    · cases state.parents[other]? <;> simp [own, Fragment.isParentClauseOf]

theorem clauses_closing (state : BlockState) (owner : String) :
    state.closing.countP (fun item => item.2.isParentClauseOf owner) = 0 := by
  rw [List.countP_eq_zero]
  intro item member
  simp [(state.of_mem_closing member).2, Fragment.isParentClauseOf]

theorem Spent.clauses_boundary (spent : state.Spent) (location : Location) (other : String) :
    (state.boundary location other).countP (fun item => item.2.isParentClauseOf owner) =
      if other = owner ∧ owner ≠ "" then state.parents[owner]?.toList.length else 0 := by
  unfold boundary
  split
  · -- A block of the class is open, so its parent has been used up.
    rename_i continues
    symm
    rw [List.countP_nil, ite_eq_right_iff]
    rintro ⟨rfl, -⟩
    rw [spent.of_continues continues]
    rfl
  · rw [List.countP_append, clauses_closing, clauses_opening, Nat.zero_add]

theorem Spent.clauses_scaffold (spent : state.Spent) (stream : List (Location × Definition)) :
    (state.scaffold stream).countP (fun item => item.2.isParentClauseOf owner) =
      if owner ≠ "" ∧ Declares stream owner then state.parents[owner]?.toList.length else 0 := by
  induction stream generalizing state with
  | nil => simpa [scaffold, Declares] using clauses_closing state owner
  | cons item rest ih =>
    obtain ⟨place, d⟩ := item
    cases kind : d.isComment with
    | true =>
      rw [state.scaffold_comment kind, List.countP_cons, ih spent]
      simp [declares_cons, kind, Fragment.isParentClauseOf]
    | false =>
      rw [state.scaffold_declaration kind, List.countP_append, List.countP_cons,
        spent.clauses_boundary, ih (spent.advance place d.owner), spent.parents_advance]
      by_cases own : d.owner = owner <;>
        simp [declares_cons, own, kind, Fragment.isParentClauseOf]

/-- The fragments of the front of a stream and the state in which the rest is read. -/
structure Reaches (state : BlockState) (early : List (Location × Definition))
    (front : List (Location × Fragment)) (later : BlockState) : Prop where
  scaffold : ∀ rest, state.scaffold (early ++ rest) = front ++ later.scaffold rest
  definitions : definitionsOf front = early
  last : ∀ last owner, later.last = some (last, owner) →
    state.last = some (last, owner) ∨ Declares early owner
  parents : ∀ owner, ¬Declares early owner → later.parents[owner]? = state.parents[owner]?
  headless : ∀ owner, ¬Declares early owner → ∀ item ∈ front, item.2.heads owner = false

namespace Reaches

variable {early : List (Location × Definition)} {front : List (Location × Fragment)}
  {later : BlockState} {place : Location} {d : Definition}

theorem refl (state : BlockState) : Reaches state [] [] state where
  scaffold _ := rfl
  definitions := rfl
  last _ _ found := .inl found
  parents _ _ := rfl
  headless _ _ _ member := nomatch member

theorem comment (reaches : Reaches state early front later) (kind : d.isComment = true) :
    Reaches state ((place, d) :: early) ((place, .definition d) :: front) later where
  scaffold rest := by
    rw [List.cons_append, state.scaffold_comment kind, reaches.scaffold, List.cons_append]
  definitions := by rw [definitionsOf_definition, reaches.definitions]
  last last owner found := (reaches.last last owner found).imp_right (declares_cons.mpr <| .inr ·)
  parents owner fresh :=
    reaches.parents owner fun declared => fresh (declares_cons.mpr (.inr declared))
  headless owner fresh item member := by
    rcases List.mem_cons.mp member with rfl | member
    · rfl
    · exact reaches.headless owner (fun declared => fresh (declares_cons.mpr (.inr declared))) item
        member

theorem declaration (reaches : Reaches (state.advance place d.owner) early front later)
    (kind : d.isComment = false) :
    Reaches state ((place, d) :: early)
      (state.boundary place d.owner ++ (place, .definition d) :: front) later where
  scaffold rest := by
    rw [List.cons_append, state.scaffold_declaration kind, reaches.scaffold]
    simp
  definitions := by
    rw [definitionsOf_append, definitionsOf_definition, reaches.definitions,
      definitionsOf_eq_nil fun _ member => state.isScaffold_of_mem_boundary member,
      List.nil_append]
  last last owner found := by
    right
    rw [declares_cons]
    rcases reaches.last last owner found with here | declared
    · cases here
      exact .inl ⟨kind, rfl⟩
    · exact .inr declared
  parents owner fresh := by
    rw [declares_cons, not_or] at fresh
    rw [reaches.parents owner fresh.2]
    have other : d.owner ≠ owner := fun same => fresh.1 ⟨kind, same⟩
    unfold advance
    split
    · rfl
    · simp [Std.ExtTreeMap.getElem?_erase, other]
  headless owner fresh item member := by
    rw [declares_cons, not_or] at fresh
    have other : d.owner ≠ owner := fun same => fresh.1 ⟨kind, same⟩
    rcases List.mem_append.mp member with added | member
    · unfold boundary at added
      split at added
      · cases added
      · rcases List.mem_append.mp added with closes | opens
        · rw [(state.of_mem_closing closes).2]
          rfl
        · exact heads_of_mem_opening other opens
    · rcases List.mem_cons.mp member with rfl | member
      · rfl
      · exact reaches.headless owner fresh.2 item member

end Reaches

theorem exists_reaches (state : BlockState) (early : List (Location × Definition)) :
    ∃ front later, Reaches state early front later := by
  induction early generalizing state with
  | nil => exact ⟨[], state, .refl state⟩
  | cons item early ih =>
    obtain ⟨place, d⟩ := item
    cases kind : d.isComment with
    | true =>
      obtain ⟨front, later, reaches⟩ := ih state
      exact ⟨_, later, reaches.comment kind⟩
    | false =>
      obtain ⟨front, later, reaches⟩ := ih (state.advance place d.owner)
      exact ⟨_, later, reaches.declaration kind⟩

theorem exists_first_opening (parents : Std.ExtTreeMap String String)
    {early : List (Location × Definition)} (location : Location) {d : Definition}
    (late : List (Location × Definition))
    (declares : d.isComment = false) (named : d.owner ≠ "") (fresh : ¬Declares early d.owner) :
    ∃ front back, BlockState.scaffold ⟨none, parents⟩ (early ++ (location, d) :: late) =
        front ++ (heading d.owner parents[d.owner]?).map (fun fragment => (location, fragment)) ++
          (location, .definition d) :: back ∧
      definitionsOf front = early ∧ ∀ item ∈ front, item.2.heads d.owner = false := by
  obtain ⟨front, later, reaches⟩ := exists_reaches ⟨none, parents⟩ early
  -- The last declaration so far belongs to a class that has been declared, so to another one.
  have opens : ¬later.continues location d.owner = true := by
    intro continues
    cases found : later.last with
    | none => simp [BlockState.continues, found] at continues
    | some pair =>
      rw [later.continues_of_last found] at continues
      rcases reaches.last pair.1 pair.2 found with start | declared
      · cases start
      · exact fresh ((of_decide_eq_true continues).1 ▸ declared)
  refine ⟨front ++ later.closing, (later.advance location d.owner).scaffold late, ?_, ?_, ?_⟩
  · rw [reaches.scaffold, later.scaffold_declaration declares, boundary, if_neg opens, opening_eq,
      if_neg named, reaches.parents d.owner fresh]
    simp
  · rw [definitionsOf_append, reaches.definitions, definitionsOf_closing, List.append_nil]
  · intro item member
    rcases List.mem_append.mp member with member | closes
    · exact reaches.headless d.owner fresh item member
    · rw [(later.of_mem_closing closes).2]
      rfl

end BlockState

theorem itemsAt_flattenGroups (groups : List Group) (location : Location) :
    itemsAt (flattenGroups groups) location =
      (groups.filter (·.1 = location)).flatMap Prod.snd :=
  itemsAt_flatMap_place Prod.fst Prod.snd groups location

section Tree

variable {groups : List Group} {parents : Std.ExtTreeMap String String}

theorem line?_scaffoldTree_eq_none {location : Location} :
    (scaffoldTree groups parents).line? location = none ↔
      itemsAt (flattenGroups groups) location = [] := by
  rw [scaffoldTree, Tree.line?_ofStream, ← BlockState.itemsAt_scaffold_start_eq_nil_iff parents]
  split <;> simp_all

theorem blocks_match_scaffoldTree {file : Int} {listing : Listing Fragment}
    (found : (scaffoldTree groups parents)[file]? = some listing) :
    let fragments := listing.toList.flatMap Prod.snd
    fragments.count .openBrace = fragments.countP Fragment.isOpener ∧
      fragments.count .openBrace = fragments.count .closeBrace := by
  intro fragments
  have run : Reader.Run .outside
      (fragmentsIn file (BlockState.scaffold ⟨none, parents⟩ (flattenGroups groups))) .outside :=
    BlockState.run_scaffold ⟨none, parents⟩ (flattenGroups groups)
  -- The lines of the file are out of order, which no count can tell.
  have held : fragments.Perm
      (fragmentsIn file (BlockState.scaffold ⟨none, parents⟩ (flattenGroups groups))) := by
    have spread := (Tree.perm_spread_ofStream found).map Prod.snd
    rwa [map_snd_spread] at spread
  rw [held.count_eq, held.countP_eq, held.count_eq]
  have opened := run.countP_isOpener
  have matched := run.count_openBrace
  simp only [Reader.openers, Reader.height] at opened matched
  omega

theorem clauses_scaffoldTree (owner : String) :
    (scaffoldTree groups parents).reading.countP (fun item => item.2.isParentClauseOf owner) =
      if owner ≠ "" ∧ Declares (flattenGroups groups) owner then parents[owner]?.toList.length
      else 0 := by
  rw [scaffoldTree, (Tree.perm_reading_ofStream _).countP_eq,
    (BlockState.Spent.start parents).clauses_scaffold]

theorem line?_scaffoldTree_first {early late : List (Location × Definition)} {location : Location}
    {d : Definition} (split : flattenGroups groups = early ++ (location, d) :: late)
    (declares : d.isComment = false) (named : d.owner ≠ "") (fresh : ¬Declares early d.owner) :
    ∃ front back, (scaffoldTree groups parents).line? location =
        some (front ++ heading d.owner parents[d.owner]? ++ .definition d :: back) ∧
      front.filter (fun fragment => !fragment.isScaffold) =
        (itemsAt early location).map .definition ∧
      ∀ fragment ∈ front, fragment.heads d.owner = false := by
  obtain ⟨front, back, written, before, headless⟩ :=
    BlockState.exists_first_opening parents location late declares named fresh
  rw [← split] at written
  refine ⟨itemsAt front location, itemsAt back location, ?_, ?_, ?_⟩
  · have line : itemsAt (BlockState.scaffold ⟨none, parents⟩ (flattenGroups groups)) location =
        itemsAt front location ++ heading d.owner parents[d.owner]? ++
          .definition d :: itemsAt back location := by
      rw [written, itemsAt_append, itemsAt_append, itemsAt_const, if_pos rfl, itemsAt_cons,
        if_pos rfl]
    rw [← line]
    exact (Tree.line?_ofStream _ location).trans (if_neg (by simp [line]))
  · rw [filter_itemsAt, before]
  · exact fun fragment member => headless _ (mem_itemsAt.mp member)

end Tree

/-- Whatever the order of the groups, there is a line where there are definitions, and without its
scaffolding it holds them in the order of the stream. In every file the parts of the blocks match.
The parent of a class is named once at most, in the block that its first declaration opens. -/
theorem scaffoldTree_any_order (groups : List Group) (parents : Std.ExtTreeMap String String) :
    let tree := scaffoldTree groups parents
    (∀ location, tree.line? location ≠ none ↔
      ∃ group ∈ groups, group.1 = location ∧ group.2 ≠ []) ∧
    (∀ location, ((tree.line? location).getD []).filter (fun fragment => !fragment.isScaffold) =
      ((groups.filter (·.1 = location)).flatMap Prod.snd).map .definition) ∧
    (∀ file : Int, ∀ listing ∈ tree[file]?,
      let fragments := listing.toList.flatMap Prod.snd
      fragments.count .openBrace = fragments.countP Fragment.isOpener ∧
        fragments.count .openBrace = fragments.count .closeBrace) ∧
    (∀ owner, tree.reading.countP (fun item => item.2.isParentClauseOf owner) =
      if owner ≠ "" ∧ owner ∈ parents ∧ Declares (flattenGroups groups) owner then 1 else 0) ∧
    ∀ early location d late, flattenGroups groups = early ++ (location, d) :: late →
      d.isComment = false → d.owner ≠ "" → ¬Declares early d.owner →
      ∃ front back, tree.line? location =
          some (front ++ heading d.owner parents[d.owner]? ++ .definition d :: back) ∧
        front.filter (fun fragment => !fragment.isScaffold) =
          (itemsAt early location).map .definition ∧
        ∀ fragment ∈ front, fragment.heads d.owner = false := by
  intro tree
  refine ⟨?_, ?_, ?_, ?_, ?_⟩
  · intro location
    rw [Ne, line?_scaffoldTree_eq_none, itemsAt_flattenGroups]
    simp
  · intro location
    rw [getD_line?_scaffoldTree, BlockState.filter_itemsAt_scaffold, itemsAt_flattenGroups]
  · exact fun file listing found => blocks_match_scaffoldTree found
  · intro owner
    rw [clauses_scaffoldTree]
    cases known : parents[owner]? with
    | none =>
      have absent : owner ∉ parents := by simpa using known
      simp [absent]
    | some parent =>
      have present : owner ∈ parents := by simp [Std.ExtTreeMap.mem_iff_isSome_getElem?, known]
      simp [present]
  · exact fun early location d late split => line?_scaffoldTree_first split

theorem scaffoldTree_any_order_revisited :
    let groups : List Group :=
      [(⟨1, 5⟩, [⟨"a", " x;", false⟩, ⟨"", "// b", true⟩]), (⟨1, 1⟩, []),
        (⟨1, 2⟩, [⟨"b", "", false⟩]), (⟨2, 1⟩, [⟨"b", " y;", false⟩]),
        (⟨1, 5⟩, [⟨"b", " z;", false⟩, ⟨"a", " w;", false⟩])]
    let parents := Std.ExtTreeMap.ofList [("a", "p"), ("b", "a"), ("c", "a")]
    let tree := scaffoldTree groups parents
    tree.line? ⟨1, 1⟩ = none ∧
      tree.line? ⟨1, 5⟩ = some
        [.opener "a", .parentClause "a" "p", .openBrace, .definition ⟨"a", " x;", false⟩,
          .definition ⟨"", "// b", true⟩, .closeBrace, .opener "b", .openBrace,
          .definition ⟨"b", " z;", false⟩, .closeBrace, .opener "a", .openBrace,
          .definition ⟨"a", " w;", false⟩, .closeBrace] ∧
      (∀ listing ∈ tree[(1 : Int)]?,
        (listing.toList.flatMap Prod.snd).count .openBrace =
          (listing.toList.flatMap Prod.snd).count .closeBrace) ∧
      tree.reading.countP (fun item => item.2.isParentClauseOf "b") = 1 ∧
      tree.reading.countP (fun item => item.2.isParentClauseOf "c") = 0 ∧
      ∃ front back, tree.line? ⟨1, 2⟩ =
          some (front ++ [.opener "b", .parentClause "b" "a", .openBrace] ++
            .definition ⟨"b", "", false⟩ :: back) ∧
        front.filter (fun fragment => !fragment.isScaffold) = [] := by
  intro groups parents tree
  obtain ⟨lines, -, matched, clauses, first⟩ := scaffoldTree_any_order groups parents
  have absent : tree.line? ⟨1, 1⟩ = none :=
    Decidable.not_not.mp (mt (lines ⟨1, 1⟩).mp (by decide))
  obtain ⟨front, back, line, early, -⟩ := first
    [(⟨1, 5⟩, ⟨"a", " x;", false⟩), (⟨1, 5⟩, ⟨"", "// b", true⟩)] ⟨1, 2⟩ ⟨"b", "", false⟩ _ rfl rfl
    (by decide) (by decide)
  refine ⟨absent, by decide +kernel, fun listing found => (matched 1 listing found).2, ?_, ?_,
    front, back, ?_, ?_⟩
  · exact (clauses "b").trans (by decide +kernel)
  · exact (clauses "c").trans (by decide +kernel)
  · rw [line]
    rfl
  · rw [early]
    rfl

end DreamDoc
