import DreamDoc.Collation
import DreamDoc.Proofs.Scaffolding

/-!
# The order in which a file is read

A closing brace comes late in the stream of fragments, behind the comments on the lines after it.
`settled` writes the same fragments in the order of their locations: it holds such comments back
until the next declaration shows whether the block goes on.
-/

namespace DreamDoc

def placeDefinition (item : Location × Definition) : Location × Fragment :=
  (item.1, .definition item.2)

theorem itemsAt_placeDefinition (stream : List (Location × Definition)) (location : Location) :
    itemsAt (stream.map placeDefinition) location = (itemsAt stream location).map .definition :=
  itemsAt_map Fragment.definition stream location

namespace BlockState

/-- The fragments of a stream in the order of their locations, after comments that were held
back. -/
def settled (state : BlockState) (held : List (Location × Definition)) :
    List (Location × Definition) → List (Location × Fragment)
  | [] => state.closing ++ held.map placeDefinition
  | (location, d) :: rest =>
    if d.isComment then
      if state.last.map Prod.fst = some location then
        (location, .definition d) :: state.settled held rest
      else state.settled (held ++ [(location, d)]) rest
    else
      let front :=
        if state.continues location d.owner then held.map placeDefinition
        else state.closing ++ held.map placeDefinition ++ state.opening location d.owner
      front ++ (location, .definition d) :: (state.advance location d.owner).settled [] rest

/-- What is held back lies behind the last declaration and before the rest of the stream. -/
structure Tidy (state : BlockState) (held stream : List (Location × Definition)) : Prop where
  inOrder : InOrder (held ++ stream)
  behind : ∀ last owner, state.last = some (last, owner) → ∀ item ∈ held, last < item.1
  ahead : ∀ last owner, state.last = some (last, owner) → ∀ item ∈ stream, last ≤ item.1

namespace Tidy

variable {state : BlockState} {held rest : List (Location × Definition)} {location : Location}
  {d : Definition}

theorem start {stream : List (Location × Definition)} (inOrder : InOrder stream)
    (parents : Std.ExtTreeMap String String) : Tidy ⟨none, parents⟩ [] stream where
  inOrder := inOrder
  behind := by simp
  ahead := by simp

theorem held_le (tidy : Tidy state held ((location, d) :: rest)) :
    ∀ item ∈ held, item.1 ≤ location := by
  intro item member
  have order := (List.pairwise_append.mp tidy.inOrder).2.2 item member _ List.mem_cons_self
  exact Location.isLE_compare.mp order

theorem le_rest (tidy : Tidy state held ((location, d) :: rest)) :
    ∀ item ∈ rest, location ≤ item.1 := by
  intro item member
  have order := (List.pairwise_cons.mp (List.pairwise_append.mp tidy.inOrder).2.1).1 item member
  exact Location.isLE_compare.mp order

theorem held_eq_nil (tidy : Tidy state held ((location, d) :: rest))
    (here : state.last.map Prod.fst = some location) : held = [] := by
  obtain ⟨⟨last, owner⟩, found, same⟩ := Option.map_eq_some_iff.mp here
  obtain rfl : last = location := same
  apply List.eq_nil_iff_forall_not_mem.mpr
  intro item member
  have less := tidy.behind last owner found item member
  exact Location.ne_of_lt (Location.lt_of_lt_of_le less (tidy.held_le item member)) rfl

theorem keep (tidy : Tidy state held ((location, d) :: rest)) : Tidy state [] rest where
  inOrder := (List.pairwise_append.mp tidy.inOrder).2.1.tail
  behind := by simp
  ahead last owner found item member :=
    tidy.ahead last owner found item (List.mem_cons_of_mem _ member)

theorem hold (tidy : Tidy state held ((location, d) :: rest))
    (elsewhere : state.last.map Prod.fst ≠ some location) :
    Tidy state (held ++ [(location, d)]) rest where
  inOrder := by simpa using tidy.inOrder
  behind last owner found item member := by
    rcases List.mem_append.mp member with member | member
    · exact tidy.behind last owner found item member
    · obtain rfl := List.mem_singleton.mp member
      refine Location.lt_of_le_of_ne (tidy.ahead last owner found _ List.mem_cons_self) ?_
      rintro rfl
      exact elsewhere (by simp [found])
  ahead last owner found item member :=
    tidy.ahead last owner found item (List.mem_cons_of_mem _ member)

theorem advance (tidy : Tidy state held ((location, d) :: rest)) (owner : String) :
    Tidy (state.advance location owner) [] rest where
  inOrder := (List.pairwise_append.mp tidy.inOrder).2.1.tail
  behind := by simp
  ahead last owner found := by
    cases found
    exact tidy.le_rest

theorem itemsAt_closing_held (tidy : Tidy state held rest) (location : Location) :
    itemsAt (state.closing ++ held.map placeDefinition) location =
      itemsAt (held.map placeDefinition ++ state.closing) location := by
  apply itemsAt_append_comm
  cases found : state.last with
  | none => simp [closing, found]
  | some pair =>
    by_cases here : pair.1 = location
    · right
      rw [itemsAt_placeDefinition, itemsAt_eq_nil.mpr, List.map_nil]
      intro item member same
      have less := tidy.behind pair.1 pair.2 found item member
      exact Location.ne_of_lt less (here.trans same.symm)
    · left
      apply itemsAt_closing_eq_nil
      intro last owner again
      rw [found] at again
      cases again
      exact here

end Tidy

theorem itemsAt_settled {state : BlockState} {held stream : List (Location × Definition)}
    (tidy : Tidy state held stream) (location : Location) :
    itemsAt (state.settled held stream) location =
      itemsAt (held.map placeDefinition ++ state.scaffold stream) location := by
  fun_induction settled state held stream with
  | case1 state held => exact tidy.itemsAt_closing_held location
  | case2 state held place d rest comment here ih =>
    obtain rfl := tidy.held_eq_nil here
    rw [itemsAt_cons, ih (tidy.keep), state.scaffold_comment comment]
    simp [itemsAt_cons]
  | case3 state held place d rest comment elsewhere ih =>
    rw [ih (tidy.hold elsewhere), state.scaffold_comment comment]
    simp [placeDefinition, itemsAt_cons]
  | case4 state held place d rest declares front ih =>
    have kind : d.isComment = false := by simpa using declares
    rw [itemsAt_append, itemsAt_cons, ih (tidy.advance d.owner), state.scaffold_declaration kind,
      boundary]
    by_cases continues : state.continues place d.owner = true
    · simp [front, continues, itemsAt_cons]
    · have turned : itemsAt front location = itemsAt (held.map placeDefinition) location ++
          itemsAt (state.closing ++ state.opening place d.owner) location := by
        have split : front = _ := if_neg continues
        rw [split, itemsAt_append, tidy.itemsAt_closing_held]
        simp
      rw [turned, if_neg continues]
      simp [itemsAt_cons]

theorem le_of_mem_settled {state : BlockState} {held stream : List (Location × Definition)}
    (tidy : Tidy state held stream) {bound : Location}
    (last : ∀ last owner, state.last = some (last, owner) → bound ≤ last)
    (below : ∀ item ∈ held ++ stream, bound ≤ item.1) {item : Location × Fragment}
    (member : item ∈ state.settled held stream) : bound ≤ item.1 := by
  by_cases atLast : ∃ owner, state.last = some (item.1, owner)
  · obtain ⟨owner, found⟩ := atLast
    exact last item.1 owner found
  by_cases source : ∃ source ∈ held ++ stream, source.1 = item.1
  · obtain ⟨source, inside, same⟩ := source
    exact same ▸ below source inside
  · -- Nothing else has a location to stand at.
    have absent : ∀ source ∈ held ++ stream, source.1 ≠ item.1 :=
      fun other inside same => source ⟨other, inside, same⟩
    have nowhere : itemsAt (state.settled held stream) item.1 = [] := by
      rw [itemsAt_settled tidy, itemsAt_append, itemsAt_placeDefinition, itemsAt_eq_nil.mpr fun
        source inside => absent source (List.mem_append_left _ inside), List.map_nil,
        List.nil_append]
      apply itemsAt_scaffold_eq_nil
      · rintro last owner found rfl
        exact atLast ⟨owner, found⟩
      · exact fun source inside => absent source (List.mem_append_right _ inside)
    have present : item.2 ∈ itemsAt (state.settled held stream) item.1 := mem_itemsAt.mpr member
    rw [nowhere] at present
    cases present

theorem inOrder_closing_held {state : BlockState} {held stream : List (Location × Definition)}
    (tidy : Tidy state held stream) : InOrder (state.closing ++ held.map placeDefinition) := by
  rw [InOrder, List.pairwise_append]
  refine ⟨?_, ?_, ?_⟩
  · unfold closing
    split
    · split <;> simp
    · exact List.Pairwise.nil
  · exact List.pairwise_map.mpr (List.pairwise_append.mp tidy.inOrder).1
  · intro first closes second member
    obtain ⟨source, inside, rfl⟩ := List.mem_map.mp member
    obtain ⟨⟨owner, found⟩, -⟩ := state.of_mem_closing closes
    have less := tidy.behind first.1 owner found source inside
    exact Location.isLE_compare.mpr (Location.le_of_lt less)

theorem le_of_mem_closing_held {state : BlockState} {held rest : List (Location × Definition)}
    {location : Location} {d : Definition} (tidy : Tidy state held ((location, d) :: rest))
    {item : Location × Fragment} (member : item ∈ state.closing ++ held.map placeDefinition) :
    item.1 ≤ location := by
  rcases List.mem_append.mp member with closes | held
  · obtain ⟨⟨owner, found⟩, -⟩ := state.of_mem_closing closes
    exact tidy.ahead item.1 owner found _ List.mem_cons_self
  · obtain ⟨source, inside, rfl⟩ := List.mem_map.mp held
    exact tidy.held_le source inside

theorem inOrder_settled {state : BlockState} {held stream : List (Location × Definition)}
    (tidy : Tidy state held stream) : InOrder (state.settled held stream) := by
  fun_induction settled state held stream with
  | case1 state held => exact inOrder_closing_held tidy
  | case2 state held place d rest comment here ih =>
    obtain rfl := tidy.held_eq_nil here
    refine List.pairwise_cons.mpr ⟨?_, ih tidy.keep⟩
    intro item member
    refine Location.isLE_compare.mpr (le_of_mem_settled tidy.keep ?_ tidy.le_rest member)
    intro last owner found
    rw [found] at here
    cases here
    exact Location.le_refl _
  | case3 state held place d rest comment elsewhere ih => exact ih (tidy.hold elsewhere)
  | case4 state held place d rest declares front ih =>
    have fronts : InOrder front ∧ ∀ item ∈ front, item.1 ≤ place := by
      have ends := inOrder_closing_held tidy
      have before : ∀ item ∈ state.closing ++ held.map placeDefinition, item.1 ≤ place :=
        fun _ member => le_of_mem_closing_held tidy member
      have opens : ∀ item ∈ state.opening place d.owner, item.1 = place := by
        rw [opening_eq]
        grind
      by_cases continues : state.continues place d.owner = true
      · rw [show front = held.map placeDefinition from if_pos continues]
        exact ⟨(List.pairwise_append.mp ends).2.1,
          fun item member => before item (List.mem_append_right _ member)⟩
      · rw [show front = _ from if_neg continues, InOrder, List.pairwise_append]
        refine ⟨⟨ends, ?_, ?_⟩, ?_⟩
        · refine List.pairwise_of_forall_mem_list fun first opened second again => ?_
          rw [opens first opened, opens second again]
          exact Std.ReflOrd.isLE_rfl
        · intro first member second opened
          rw [opens second opened]
          exact Location.isLE_compare.mpr (before first member)
        · intro item member
          rcases List.mem_append.mp member with member | opened
          · exact before item member
          · exact opens item opened ▸ Location.le_refl _
    have later : ∀ item ∈ (state.advance place d.owner).settled [] rest, place ≤ item.1 := by
      intro item member
      refine le_of_mem_settled (tidy.advance d.owner) ?_ tidy.le_rest member
      rintro last owner ⟨⟩
      exact Location.le_refl _
    rw [InOrder, List.pairwise_append, List.pairwise_cons]
    refine ⟨fronts.1, ⟨?_, ih (tidy.advance d.owner)⟩, ?_⟩
    · exact fun item member => Location.isLE_compare.mpr (later item member)
    · intro first before second member
      refine Location.isLE_compare.mpr (Location.le_trans (fronts.2 first before) ?_)
      rcases List.mem_cons.mp member with rfl | member
      · exact Location.le_refl _
      · exact later second member

end BlockState

namespace Environment

variable (env : Environment)

def stream : List (Location × Definition) := flattenGroups (indexDefinitions env.definitions)

theorem inOrder_stream : InOrder env.stream := inOrder_spread (ascending_gather env.definitions)

theorem itemsAt_stream (location : Location) :
    itemsAt env.stream location = itemsAt env.definitions location :=
  itemsAt_spread_gather env.definitions location

theorem mem_stream {location : Location} {d : Definition} :
    (location, d) ∈ env.stream ↔ (location, d) ∈ env.definitions := by
  rw [← mem_itemsAt, itemsAt_stream, mem_itemsAt]

def settled : List (Location × Fragment) := BlockState.settled ⟨none, env.parents⟩ [] env.stream

theorem itemsAt_settled (location : Location) :
    itemsAt env.settled location =
      itemsAt (BlockState.scaffold ⟨none, env.parents⟩ env.stream) location :=
  BlockState.itemsAt_settled (.start env.inOrder_stream env.parents) location

theorem collate_eq : collate env = Tree.ofStream env.settled :=
  Tree.ofStream_congr fun location => (env.itemsAt_settled location).symm

theorem spread_collate {file : Int} {listing : Listing Fragment}
    (found : (collate env)[file]? = some listing) :
    spread listing.toList = inFile env.settled file := by
  rw [collate_eq] at found
  exact Tree.spread_ofStream
    (BlockState.inOrder_settled (.start env.inOrder_stream env.parents)) found

end Environment

theorem Tree.line?_collate (env : Environment) (location : Location) :
    (collate env).line? location =
      if itemsAt env.definitions location = [] then none
      else some (itemsAt (BlockState.scaffold ⟨none, env.parents⟩ env.stream) location) := by
  rw [collate, scaffoldTree, line?_ofStream]
  simp only [← env.itemsAt_stream, ← BlockState.itemsAt_scaffold_start_eq_nil_iff env.parents]
  rfl

end DreamDoc
