import DreamDoc.Proofs.Placement
import DreamDoc.Scaffold

namespace DreamDoc

def heading (owner : String) (parent : Option String) : List Fragment :=
  .opener owner :: parent.toList.map (.parentClause owner) ++ [.openBrace]

/-- What the scaffolding of a stream can hold, given the parents of the classes. -/
inductive MadeFrom (parents : Std.ExtTreeMap String String)
    (stream : List (Location × Definition)) : Fragment → Prop where
  | openBrace : MadeFrom parents stream .openBrace
  | closeBrace : MadeFrom parents stream .closeBrace
  | opener {source : Location × Definition} (member : source ∈ stream) :
    MadeFrom parents stream (.opener source.2.owner)
  | parentClause {name parent : String} (known : parents[name]? = some parent) :
    MadeFrom parents stream (.parentClause name parent)
  | definition {source : Location × Definition} (member : source ∈ stream) :
    MadeFrom parents stream (.definition source.2)

theorem MadeFrom.mono {parents more : Std.ExtTreeMap String String}
    {stream longer : List (Location × Definition)} {fragment : Fragment}
    (made : MadeFrom parents stream fragment)
    (known : ∀ name parent : String, parents[name]? = some parent → more[name]? = some parent)
    (inside : stream ⊆ longer) : MadeFrom more longer fragment := by
  cases made with
  | openBrace => exact .openBrace
  | closeBrace => exact .closeBrace
  | opener member => exact .opener (inside member)
  | parentClause found => exact .parentClause (known _ _ found)
  | definition member => exact .definition (inside member)

theorem madeFrom_of_mem_heading {parents : Std.ExtTreeMap String String}
    {stream : List (Location × Definition)} {source : Location × Definition}
    (present : source ∈ stream) {parent : Option String}
    (known : ∀ name, parent = some name → parents[source.2.owner]? = some name)
    {fragment : Fragment} (member : fragment ∈ heading source.2.owner parent) :
    MadeFrom parents stream fragment := by
  simp only [heading, List.cons_append, List.mem_cons, List.mem_append, List.mem_map,
    Option.mem_toList, List.not_mem_nil, or_false] at member
  rcases member with rfl | ⟨name, found, rfl⟩ | rfl
  · exact .opener present
  · exact .parentClause (known name found)
  · exact .openBrace

@[simp]
theorem Fragment.isScaffold_definition (d : Definition) :
    (Fragment.definition d).isScaffold = false := rfl

namespace BlockState

variable (state : BlockState)

theorem continues_of_last {last : Location} {current : String}
    (found : state.last = some (last, current)) (location : Location) (owner : String) :
    state.continues location owner = decide (owner = current ∧ location.file = last.file) := by
  simp [continues, found]

theorem continues_eq_false {location : Location}
    (apart : ∀ last owner, state.last = some (last, owner) → last.file ≠ location.file)
    (owner : String) : state.continues location owner = false := by
  cases found : state.last with
  | none => simp [continues, found]
  | some pair =>
    have away := apart pair.1 pair.2 found
    rw [state.continues_of_last found]
    simp [Ne.symm away]

theorem closing_of_last {last : Location} {owner : String}
    (found : state.last = some (last, owner)) :
    state.closing = if owner = "" then [] else [(last, .closeBrace)] := by
  simp [closing, found]

theorem itemsAt_closing_eq_nil {location : Location}
    (apart : ∀ last owner, state.last = some (last, owner) → last ≠ location) :
    itemsAt state.closing location = [] := by
  cases found : state.last with
  | none => simp [closing, found]
  | some pair =>
    rw [state.closing_of_last found]
    split
    · rfl
    · simp [itemsAt_cons, apart pair.1 pair.2 found]

theorem opening_eq (location : Location) (owner : String) :
    state.opening location owner =
      if owner = "" then []
      else (heading owner state.parents[owner]?).map fun fragment => (location, fragment) := by
  unfold opening heading
  split
  · rfl
  · simp

theorem itemsAt_opening (place : Location) (owner : String) (location : Location) :
    itemsAt (state.opening place owner) location =
      if owner ≠ "" ∧ place = location then heading owner state.parents[owner]? else [] := by
  rw [opening_eq]
  by_cases global : owner = ""
  · simp [global]
  · simp [global, itemsAt_const]

theorem itemsAt_boundary_eq_nil {place location : Location} (owner : String)
    (elsewhere : place ≠ location)
    (apart : ∀ last owner, state.last = some (last, owner) → last ≠ location) :
    itemsAt (state.boundary place owner) location = [] := by
  unfold boundary
  split
  · rfl
  · rw [itemsAt_append, itemsAt_closing_eq_nil state apart, itemsAt_opening]
    simp [elsewhere]

theorem scaffold_comment {d : Definition} (comment : d.isComment = true) (location : Location)
    (rest : List (Location × Definition)) :
    state.scaffold ((location, d) :: rest) = (location, .definition d) :: state.scaffold rest := by
  rw [scaffold, if_pos comment]

theorem scaffold_declaration {d : Definition} (declares : d.isComment = false)
    (location : Location) (rest : List (Location × Definition)) :
    state.scaffold ((location, d) :: rest) =
      state.boundary location d.owner ++ (location, .definition d) ::
        (state.advance location d.owner).scaffold rest := by
  rw [scaffold, if_neg (by simp [declares])]

theorem itemsAt_scaffold_eq_nil {stream : List (Location × Definition)} {location : Location}
    (apart : ∀ last owner, state.last = some (last, owner) → last ≠ location)
    (absent : ∀ item ∈ stream, item.1 ≠ location) :
    itemsAt (state.scaffold stream) location = [] := by
  induction stream generalizing state with
  | nil => exact itemsAt_closing_eq_nil state apart
  | cons item rest ih =>
    obtain ⟨place, d⟩ := item
    have elsewhere : place ≠ location := absent _ List.mem_cons_self
    have later : ∀ item ∈ rest, item.1 ≠ location :=
      fun item member => absent item (List.mem_cons_of_mem _ member)
    cases kind : d.isComment with
    | true =>
      rw [scaffold_comment state kind, itemsAt_cons, if_neg elsewhere]
      exact ih state apart later
    | false =>
      rw [scaffold_declaration state kind, itemsAt_append,
        itemsAt_boundary_eq_nil state d.owner elsewhere apart, itemsAt_cons, if_neg elsewhere]
      refine ih _ ?_ later
      intro last owner found
      cases found
      exact elsewhere

theorem itemsAt_scaffold_other_files {stream : List (Location × Definition)} {location : Location}
    (elsewhere : ∀ item ∈ stream, item.1.file ≠ location.file) :
    itemsAt (state.scaffold stream) location = itemsAt state.closing location := by
  induction stream with
  | nil => rfl
  | cons item rest ih =>
    obtain ⟨place, d⟩ := item
    have away : place ≠ location := fun same => elsewhere _ List.mem_cons_self (congrArg _ same)
    have later : ∀ item ∈ rest, item.1.file ≠ location.file :=
      fun item member => elsewhere item (List.mem_cons_of_mem _ member)
    cases kind : d.isComment with
    | true => rw [scaffold_comment state kind, itemsAt_cons, if_neg away, ih later]
    | false =>
      have finished : itemsAt ((state.advance place d.owner).scaffold rest) location = [] := by
        apply itemsAt_scaffold_eq_nil
        · intro last owner found
          cases found
          exact away
        · exact fun item member same => later item member (congrArg _ same)
      rw [scaffold_declaration state kind, itemsAt_append, itemsAt_cons, if_neg away, finished,
        List.append_nil, boundary]
      split
      · rename_i continues
        symm
        apply itemsAt_closing_eq_nil
        rintro last owner found rfl
        rw [state.continues_of_last found] at continues
        exact elsewhere _ List.mem_cons_self (of_decide_eq_true continues).2
      · simp [itemsAt_opening, away]

theorem of_mem_closing {item : Location × Fragment} (member : item ∈ state.closing) :
    (∃ owner, state.last = some (item.1, owner)) ∧ item.2 = .closeBrace := by
  cases found : state.last with
  | none => simp [closing, found] at member
  | some pair =>
    rw [state.closing_of_last found] at member
    split at member
    · cases member
    · obtain rfl := List.mem_singleton.mp member
      exact ⟨⟨pair.2, rfl⟩, rfl⟩

theorem isScaffold_of_mem_closing {item : Location × Fragment} (member : item ∈ state.closing) :
    item.2.isScaffold = true := by
  rw [(state.of_mem_closing member).2]
  rfl

theorem isScaffold_of_mem_boundary {place : Location} {owner : String}
    {item : Location × Fragment} (member : item ∈ state.boundary place owner) :
    item.2.isScaffold = true := by
  unfold boundary at member
  split at member
  · cases member
  · rcases List.mem_append.mp member with closes | opens
    · exact state.isScaffold_of_mem_closing closes
    · rw [opening_eq] at opens
      grind [heading, Fragment.isScaffold]

theorem getElem?_parents_of_advance {location : Location} {owner name parent : String}
    (known : (state.advance location owner).parents[name]? = some parent) :
    state.parents[name]? = some parent := by
  unfold advance at known
  simp only at known
  split at known
  · exact known
  · rw [Std.ExtTreeMap.getElem?_erase] at known
    split at known
    · cases known
    · exact known

/-- The class of the last declaration has been opened, so its parent is used up. -/
def Spent : Prop :=
  ∀ location owner, state.last = some (location, owner) → state.parents[owner]? = none

theorem Spent.start (parents : Std.ExtTreeMap String String) : Spent ⟨none, parents⟩ := by
  intro location owner found
  cases found

theorem Spent.of_continues {state : BlockState} (spent : state.Spent) {location : Location}
    {owner : String} (continues : state.continues location owner = true) :
    state.parents[owner]? = none := by
  cases found : state.last with
  | none => simp [BlockState.continues, found] at continues
  | some pair =>
    rw [state.continues_of_last found] at continues
    obtain ⟨rfl, -⟩ := of_decide_eq_true continues
    exact spent pair.1 pair.2 found

theorem Spent.parents_advance {state : BlockState} (spent : state.Spent) (location : Location)
    (owner name : String) :
    (state.advance location owner).parents[name]? =
      if owner = name then none else state.parents[name]? := by
  unfold advance
  cases continues : state.continues location owner with
  | true =>
    simp only [if_true]
    by_cases same : owner = name
    · rw [if_pos same, ← same]
      exact spent.of_continues continues
    · rw [if_neg same]
  | false => simp [Std.ExtTreeMap.getElem?_erase]

theorem Spent.advance {state : BlockState} (spent : state.Spent) (location : Location)
    (owner : String) : (state.advance location owner).Spent := by
  intro last current found
  cases found
  rw [spent.parents_advance, if_pos rfl]

theorem madeFrom_of_mem_scaffold {stream : List (Location × Definition)}
    {item : Location × Fragment} (member : item ∈ state.scaffold stream) :
    MadeFrom state.parents stream item.2 := by
  have closes (state : BlockState) (stream : List (Location × Definition)) :
      ∀ item ∈ state.closing, MadeFrom state.parents stream item.2 := by
    intro item member
    rw [(state.of_mem_closing member).2]
    exact .closeBrace
  induction stream generalizing state with
  | nil => exact closes state [] item member
  | cons head rest ih =>
    obtain ⟨place, d⟩ := head
    cases kind : d.isComment with
    | true =>
      rw [state.scaffold_comment kind] at member
      rcases List.mem_cons.mp member with rfl | later
      · exact .definition List.mem_cons_self
      · exact (ih state later).mono (fun _ _ known => known) (List.subset_cons_self _ _)
    | false =>
      rw [state.scaffold_declaration kind] at member
      rcases List.mem_append.mp member with added | member
      · unfold boundary at added
        split at added
        · cases added
        · rcases List.mem_append.mp added with closing | opening
          · exact closes state _ item closing
          · rw [opening_eq] at opening
            split at opening
            · cases opening
            · obtain ⟨fragment, inside, rfl⟩ := List.mem_map.mp opening
              exact madeFrom_of_mem_heading List.mem_cons_self (fun _ known => known) inside
      · rcases List.mem_cons.mp member with rfl | later
        · exact .definition List.mem_cons_self
        · exact (ih _ later).mono (fun _ _ known => state.getElem?_parents_of_advance known)
            (List.subset_cons_self _ _)

theorem filter_itemsAt_scaffold (stream : List (Location × Definition)) (location : Location) :
    (itemsAt (state.scaffold stream) location).filter (fun fragment => !fragment.isScaffold) =
      (itemsAt stream location).map .definition := by
  induction stream generalizing state with
  | nil =>
    rw [scaffold, itemsAt_nil, List.map_nil, List.filter_eq_nil_iff]
    intro fragment member
    simp [state.isScaffold_of_mem_closing (mem_itemsAt.mp member)]
  | cons item rest ih =>
    obtain ⟨place, d⟩ := item
    have kept (state : BlockState) :
        (itemsAt ((place, .definition d) :: state.scaffold rest) location).filter
            (fun fragment => !fragment.isScaffold) =
          (itemsAt ((place, d) :: rest) location).map .definition := by
      rw [itemsAt_cons, itemsAt_cons]
      by_cases here : place = location <;> simp [here, ih state]
    cases kind : d.isComment with
    | true =>
      rw [state.scaffold_comment kind]
      exact kept state
    | false =>
      have added : (itemsAt (state.boundary place d.owner) location).filter
          (fun fragment => !fragment.isScaffold) = [] := by
        rw [List.filter_eq_nil_iff]
        intro fragment member
        simp [state.isScaffold_of_mem_boundary (mem_itemsAt.mp member)]
      rw [state.scaffold_declaration kind, itemsAt_append, List.filter_append, added,
        List.nil_append]
      exact kept _

theorem itemsAt_scaffold_start_eq_nil_iff (parents : Std.ExtTreeMap String String)
    {stream : List (Location × Definition)} {location : Location} :
    itemsAt (scaffold ⟨none, parents⟩ stream) location = [] ↔ itemsAt stream location = [] := by
  constructor
  · intro none
    have kept := filter_itemsAt_scaffold ⟨.none, parents⟩ stream location
    rw [none, List.filter_nil] at kept
    exact List.map_eq_nil_iff.mp kept.symm
  · intro none
    exact itemsAt_scaffold_eq_nil _ (by simp) (itemsAt_eq_nil.mp none)

end BlockState

theorem getD_line?_scaffoldTree (groups : List Group) (parents : Std.ExtTreeMap String String)
    (location : Location) :
    ((scaffoldTree groups parents).line? location).getD [] =
      itemsAt (BlockState.scaffold ⟨none, parents⟩ (flattenGroups groups)) location := by
  rw [scaffoldTree, Tree.line?_ofStream]
  split
  · rename_i absent
    exact absent.symm
  · rfl

end DreamDoc
