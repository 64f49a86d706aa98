import DreamDoc.Proofs.ReadingOrder

namespace DreamDoc

def Fragment.definition? : Fragment → Option Definition
  | definition d => some d
  | _ => none

def definitionsOf (fragments : List (Location × Fragment)) : List (Location × Definition) :=
  fragments.filterMap fun item => item.2.definition?.map fun d => (item.1, d)

@[simp]
theorem definitionsOf_append (fragments others : List (Location × Fragment)) :
    definitionsOf (fragments ++ others) = definitionsOf fragments ++ definitionsOf others :=
  List.filterMap_append

@[simp]
theorem definitionsOf_definition (location : Location) (d : Definition)
    (rest : List (Location × Fragment)) :
    definitionsOf ((location, .definition d) :: rest) = (location, d) :: definitionsOf rest := rfl

@[simp]
theorem definitionsOf_placeDefinition (stream : List (Location × Definition)) :
    definitionsOf (stream.map placeDefinition) = stream := by
  induction stream with
  | nil => rfl
  | cons item rest ih => rw [List.map_cons, placeDefinition, definitionsOf_definition, ih]

theorem definitionsOf_scaffold {fragment : Fragment} (scaffold : fragment.isScaffold = true)
    (location : Location) (rest : List (Location × Fragment)) :
    definitionsOf ((location, fragment) :: rest) = definitionsOf rest := by
  cases fragment with
  | definition d => simp at scaffold
  | _ => rfl

theorem definitionsOf_eq_nil {fragments : List (Location × Fragment)}
    (scaffold : ∀ item ∈ fragments, item.2.isScaffold = true) : definitionsOf fragments = [] := by
  induction fragments with
  | nil => rfl
  | cons item rest ih =>
    rw [definitionsOf_scaffold (scaffold item List.mem_cons_self)]
    exact ih fun item member => scaffold item (List.mem_cons_of_mem _ member)

theorem mem_definitionsOf {fragments : List (Location × Fragment)} {location : Location}
    {d : Definition} :
    (location, d) ∈ definitionsOf fragments ↔ (location, .definition d) ∈ fragments := by
  rw [definitionsOf, List.mem_filterMap]
  constructor
  · rintro ⟨⟨place, fragment⟩, member, found⟩
    cases fragment with
    | definition other =>
      cases found
      exact member
    | _ => cases found
  · intro member
    exact ⟨_, member, rfl⟩

theorem filter_itemsAt (fragments : List (Location × Fragment)) (location : Location) :
    (itemsAt fragments location).filter (fun fragment => !fragment.isScaffold) =
      (itemsAt (definitionsOf fragments) location).map .definition := by
  induction fragments with
  | nil => rfl
  | cons item rest ih =>
    obtain ⟨place, fragment⟩ := item
    rw [itemsAt_cons]
    cases fragment with
    | definition d =>
      rw [definitionsOf_definition, itemsAt_cons]
      by_cases here : place = location <;> simp [here, ih]
    | _ =>
      change _ = (itemsAt (definitionsOf rest) location).map Fragment.definition
      rw [← ih]
      split <;> rfl

def lastDeclared (stream : List (Location × Definition)) : Option (Location × String) :=
  (stream.filter fun item => !item.2.isComment).getLast?.map fun item => (item.1, item.2.owner)

theorem lastDeclared_comment {d : Definition} (comment : d.isComment = true) (location : Location)
    (rest : List (Location × Definition)) :
    lastDeclared ((location, d) :: rest) = lastDeclared rest := by
  simp [lastDeclared, comment]

theorem lastDeclared_declaration {d : Definition} (declares : d.isComment = false)
    (location : Location) (rest : List (Location × Definition)) :
    lastDeclared ((location, d) :: rest) =
      (lastDeclared rest).or (some (location, d.owner)) := by
  rw [lastDeclared, lastDeclared, List.filter_cons_of_pos (by simpa using declares),
    List.getLast?_cons]
  cases (rest.filter fun item => !item.2.isComment).getLast? <;> rfl

namespace BlockState

/-- What comes before a declaration: the comments that were held back, with the end of the block
before them and the start of the next one behind them if the class changes. -/
def leading (state : BlockState) (held : List (Location × Definition)) (location : Location)
    (owner : String) : List (Location × Fragment) :=
  if state.continues location owner then held.map placeDefinition
  else state.closing ++ held.map placeDefinition ++ state.opening location owner

theorem settled_declaration (state : BlockState) {d : Definition} (declares : d.isComment = false)
    (held : List (Location × Definition)) (location : Location)
    (rest : List (Location × Definition)) :
    state.settled held ((location, d) :: rest) =
      state.leading held location d.owner ++ (location, .definition d) ::
        (state.advance location d.owner).settled [] rest := by
  rw [settled, if_neg (by simp [declares])]
  rfl

theorem definitionsOf_closing (state : BlockState) : definitionsOf state.closing = [] :=
  definitionsOf_eq_nil fun _ member => state.isScaffold_of_mem_closing member

theorem definitionsOf_opening (state : BlockState) (location : Location) (owner : String) :
    definitionsOf (state.opening location owner) = [] := by
  apply definitionsOf_eq_nil
  intro item member
  rw [opening_eq] at member
  grind [heading, Fragment.isScaffold]

theorem definitionsOf_leading (state : BlockState) (held : List (Location × Definition))
    (location : Location) (owner : String) :
    definitionsOf (state.leading held location owner) = held := by
  unfold leading
  split <;> simp [definitionsOf_closing, definitionsOf_opening]

variable {state : BlockState} {held front rest : List (Location × Definition)}

theorem exists_settled_append (tidy : Tidy state held (front ++ rest)) :
    ∃ read next kept, state.settled held (front ++ rest) = read ++ next.settled kept rest ∧
      definitionsOf read ++ kept = held ++ front ∧ Tidy next kept rest ∧
      next.last = (lastDeclared front).or state.last := by
  induction front generalizing state held with
  | nil => exact ⟨[], state, held, rfl, (List.append_nil held).symm, tidy, rfl⟩
  | cons item front ih =>
    obtain ⟨location, d⟩ := item
    rw [List.cons_append] at tidy ⊢
    cases kind : d.isComment with
    | true =>
      rw [settled, if_pos kind, lastDeclared_comment kind]
      by_cases here : state.last.map Prod.fst = some location
      · obtain rfl := tidy.held_eq_nil here
        obtain ⟨read, next, kept, split, definitions, tidy, last⟩ := ih tidy.keep
        refine ⟨(location, .definition d) :: read, next, kept, ?_, ?_, tidy, last⟩
        · rw [if_pos here, split, List.cons_append]
        · rw [definitionsOf_definition, List.cons_append, definitions, List.nil_append,
            List.nil_append]
      · obtain ⟨read, next, kept, split, definitions, tidy, last⟩ := ih (tidy.hold here)
        refine ⟨read, next, kept, ?_, ?_, tidy, last⟩
        · rw [if_neg here, split]
        · rw [definitions, List.append_assoc, List.singleton_append]
    | false =>
      obtain ⟨read, next, kept, split, definitions, tidy, last⟩ := ih (tidy.advance d.owner)
      refine ⟨state.leading held location d.owner ++ (location, .definition d) :: read, next, kept,
        ?_, ?_, tidy, ?_⟩
      · rw [settled_declaration state kind, split, List.append_assoc, List.cons_append]
      · rw [definitionsOf_append, definitionsOf_leading, definitionsOf_definition,
          List.append_assoc, List.cons_append, definitions, List.nil_append]
      · rw [last, lastDeclared_declaration kind]
        cases lastDeclared front <;> rfl

theorem definitionsOf_settled {stream : List (Location × Definition)}
    (tidy : Tidy state held stream) : definitionsOf (state.settled held stream) = held ++ stream := by
  rw [← List.append_nil stream] at tidy ⊢
  obtain ⟨read, next, kept, split, definitions, -⟩ := exists_settled_append tidy
  rw [split, settled, definitionsOf_append, definitionsOf_append, definitionsOf_closing,
    definitionsOf_placeDefinition, List.nil_append, definitions, List.append_nil]

theorem continues_of_same {place location : Location} {owner : String}
    (found : state.last = some (place, owner)) (same : location.file = place.file) :
    state.continues location owner = true := by
  rw [state.continues_of_last found]
  simpa using same

theorem exists_settled_run {last : Location × Definition} {place : Location} {file : Int}
    {owner : String} (tidy : Tidy state held (front ++ last :: rest))
    (found : state.last = some (place, owner)) (here : place.file = file)
    (own : ∀ item ∈ front ++ [last], item.2.isComment = false →
      item.2.owner = owner ∧ item.1.file = file)
    (declares : last.2.isComment = false) :
    ∃ next, state.settled held (front ++ last :: rest) =
        (held ++ front ++ [last]).map placeDefinition ++ next.settled [] rest ∧
      Tidy next [] rest ∧ next.last = some (last.1, owner) := by
  induction front generalizing state held place with
  | nil =>
    obtain ⟨location, d⟩ := last
    obtain ⟨rfl, same⟩ := own _ List.mem_cons_self declares
    have goesOn := continues_of_same found (same.trans here.symm)
    refine ⟨state.advance location d.owner, ?_, tidy.advance d.owner, rfl⟩
    rw [List.nil_append, settled_declaration state declares, leading, if_pos goesOn]
    simp [placeDefinition]
  | cons item front ih =>
    obtain ⟨location, d⟩ := item
    have later : ∀ item ∈ front ++ [last], item.2.isComment = false →
        item.2.owner = owner ∧ item.1.file = file :=
      fun item member => own item (List.mem_cons_of_mem _ member)
    rw [List.cons_append] at tidy ⊢
    cases kind : d.isComment with
    | true =>
      rw [settled, if_pos kind]
      by_cases shared : state.last.map Prod.fst = some location
      · obtain rfl := tidy.held_eq_nil shared
        obtain ⟨next, split, tidy, last⟩ := ih tidy.keep found here later
        refine ⟨next, ?_, tidy, last⟩
        rw [if_pos shared, split]
        rfl
      · obtain ⟨next, split, tidy, last⟩ := ih (tidy.hold shared) found here later
        refine ⟨next, ?_, tidy, last⟩
        rw [if_neg shared, split]
        simp
    | false =>
      obtain ⟨rfl, same⟩ := own _ List.mem_cons_self kind
      have goesOn := continues_of_same found (same.trans here.symm)
      obtain ⟨next, split, tidy, last⟩ := ih (tidy.advance d.owner) rfl same later
      refine ⟨next, ?_, tidy, last⟩
      rw [settled_declaration state kind, leading, if_pos goesOn, split]
      simp [placeDefinition]

theorem exists_settled_stretch {stretch : List (Location × Definition)} {place : Location}
    {owner : String} (tidy : Tidy state [] (stretch ++ rest))
    (found : state.last = some (place, owner))
    (own : ∀ item ∈ stretch, item.2.isComment = false →
      item.2.owner = owner ∧ item.1.file = place.file)
    (ends : ∀ last ∈ stretch.getLast?, last.2.isComment = false) :
    ∃ next, state.settled [] (stretch ++ rest) =
        stretch.map placeDefinition ++ next.settled [] rest ∧
      Tidy next [] rest ∧ next.last = some ((stretch.getLast?.map Prod.fst).getD place, owner) := by
  cases final : stretch.getLast? with
  | none =>
    obtain rfl := List.getLast?_eq_none_iff.mp final
    exact ⟨state, rfl, tidy, found⟩
  | some last =>
    have declares := ends last final
    obtain ⟨front, rfl⟩ := List.getLast?_eq_some_iff.mp final
    rw [List.append_assoc, List.singleton_append] at tidy ⊢
    exact exists_settled_run tidy found rfl own declares

theorem exists_settled_together {location : Location} {d : Definition}
    {others : List Definition} (declares : ∀ e ∈ d :: others, e.isComment = false)
    (owned : ∀ e ∈ others, e.owner = d.owner)
    (tidy : Tidy state held (front ++ ((d :: others).map fun e => (location, e)) ++ rest)) :
    ∃ before after, state.settled held
        (front ++ ((d :: others).map fun e => (location, e)) ++ rest) =
      before ++ ((d :: others).map fun e => (location, .definition e)) ++ after ∧
      definitionsOf before = held ++ front := by
  rw [List.append_assoc] at tidy ⊢
  obtain ⟨read, next, kept, split, definitions, tidy, -⟩ := exists_settled_append tidy
  have start := next.settled_declaration (declares d List.mem_cons_self) kept location
    ((others.map fun e => (location, e)) ++ rest)
  obtain ⟨reached, goesOn, -⟩ := exists_settled_stretch (tidy.advance d.owner) rfl (by
    intro item member _
    obtain ⟨e, among, rfl⟩ := List.mem_map.mp member
    exact ⟨owned e among, rfl⟩) (by
    intro item final
    obtain ⟨e, among, rfl⟩ := List.mem_map.mp (List.mem_of_getLast? final)
    exact declares e (List.mem_cons_of_mem _ among))
  refine ⟨read ++ next.leading kept location d.owner, reached.settled [] rest, ?_, ?_⟩
  · rw [split, List.map_cons, List.cons_append, start, goesOn]
    simp [placeDefinition]
  · rw [definitionsOf_append, definitionsOf_leading, definitions]

theorem settled_ended {stream : List (Location × Definition)}
    (ended : ∀ item ∈ (stream.filter fun item => !item.2.isComment).head?,
      state.continues item.1 item.2.owner = false)
    (behind : ∀ item ∈ stream, item.2.isComment = true →
      state.last.map Prod.fst ≠ some item.1) :
    state.settled held stream =
      state.closing ++ settled ⟨none, state.parents⟩ held stream := by
  induction stream generalizing held with
  | nil => rfl
  | cons item rest ih =>
    obtain ⟨location, d⟩ := item
    cases kind : d.isComment with
    | true =>
      have apart := behind _ List.mem_cons_self kind
      rw [settled, settled, if_pos kind, if_pos kind, if_neg apart, if_neg (by simp)]
      refine ih ?_ fun item member => behind item (List.mem_cons_of_mem _ member)
      simpa [kind] using ended
    | false =>
      have finished : state.continues location d.owner = false := by
        simpa [kind] using ended
      have fresh : continues ⟨none, state.parents⟩ location d.owner = false := rfl
      have reached : state.advance location d.owner =
          advance ⟨none, state.parents⟩ location d.owner := by
        rw [advance, advance, finished, fresh]
      rw [settled_declaration _ kind, settled_declaration _ kind, leading, leading, finished, fresh,
        reached]
      simp only [Bool.false_eq_true, if_false, List.append_assoc]
      rfl

end BlockState

end DreamDoc
