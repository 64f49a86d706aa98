import DreamDoc.Proofs.Scaffolding

/-!
# Files do not depend on each other

What the scaffolding puts into a file follows from the definitions of that file alone, but for the
clauses that name parents: a class that was opened in an earlier file has used up its parent. The
states of a pass over all files and of a pass over one of them are compared along the stream.
-/

namespace DreamDoc

/-- The class has a declaration in a file before the given one. -/
def DeclaredBefore (file : Int) (stream : List (Location × Definition)) (owner : String) : Prop :=
  ∃ item ∈ stream, item.1.file < file ∧ item.2.isComment = false ∧ item.2.owner = owner

instance (file : Int) (stream : List (Location × Definition)) (owner : String) :
    Decidable (DeclaredBefore file stream owner) :=
  inferInstanceAs (Decidable (∃ item ∈ stream, _))

theorem declaredBefore_cons {file : Int} {place : Location} {d : Definition}
    {rest : List (Location × Definition)} {owner : String} :
    DeclaredBefore file ((place, d) :: rest) owner ↔
      (place.file < file ∧ d.isComment = false ∧ d.owner = owner) ∨
        DeclaredBefore file rest owner := by
  simp [DeclaredBefore]

theorem not_declaredBefore {file : Int} {stream : List (Location × Definition)}
    (reached : ∀ item ∈ stream, file ≤ item.1.file) (owner : String) :
    ¬DeclaredBefore file stream owner := by
  rintro ⟨item, member, before, -⟩
  have atLeast := reached item member
  omega

namespace BlockState

/-- A pass over all files and a pass over one file stand before the same rest of the stream. The
second pass does not know the parents that the first one uses up on its way to the file. -/
structure Agrees (file : Int) (stream : List (Location × Definition)) (whole own : BlockState) :
    Prop where
  spent : whole.Spent
  ahead : ∀ last owner, whole.last = some (last, owner) → ∀ item ∈ stream, last ≤ item.1
  last : own.last = whole.last.filter fun last => last.1.file = file
  parents : ∀ owner, own.parents[owner]? =
    if DeclaredBefore file stream owner then none else whole.parents[owner]?

namespace Agrees

variable {file : Int} {whole own : BlockState} {place location : Location} {d : Definition}
  {stream rest : List (Location × Definition)}

theorem last_eq (agrees : Agrees file stream whole own) {last : Location} {owner : String}
    (found : whole.last = some (last, owner)) :
    own.last = if last.file = file then some (last, owner) else none := by
  rw [agrees.last, found]
  by_cases here : last.file = file <;> simp [here]

theorem itemsAt_closing (agrees : Agrees file stream whole own) (here : location.file = file) :
    itemsAt whole.closing location = itemsAt own.closing location := by
  cases found : whole.last with
  | none => simp [closing, found, agrees.last]
  | some pair =>
    have same := agrees.last_eq found
    by_cases inside : pair.1.file = file
    · rw [if_pos inside] at same
      rw [whole.closing_of_last found, own.closing_of_last same]
    · rw [if_neg inside] at same
      have away : pair.1 ≠ location := by
        rintro rfl
        exact inside here
      rw [whole.itemsAt_closing_eq_nil, own.itemsAt_closing_eq_nil]
      · simp [same]
      · intro last owner again
        rw [found] at again
        cases again
        exact away

theorem continues_eq (agrees : Agrees file stream whole own) (here : place.file = file)
    (owner : String) : whole.continues place owner = own.continues place owner := by
  cases found : whole.last with
  | none => simp [continues, found, agrees.last]
  | some pair =>
    have same := agrees.last_eq found
    by_cases inside : pair.1.file = file
    · rw [if_pos inside] at same
      rw [whole.continues_of_last found, own.continues_of_last same]
    · rw [if_neg inside] at same
      have away : place.file ≠ pair.1.file := fun equal => inside (equal ▸ here)
      rw [whole.continues_of_last found]
      simp [away, continues, same]

theorem itemsAt_boundary (agrees : Agrees file stream whole own) {owner : String}
    (known : own.parents[owner]? = whole.parents[owner]?) (placed : place.file = file)
    (here : location.file = file) :
    itemsAt (whole.boundary place owner) location =
      itemsAt (own.boundary place owner) location := by
  unfold boundary
  rw [agrees.continues_eq placed]
  split
  · rfl
  · rw [itemsAt_append, itemsAt_append, agrees.itemsAt_closing here, itemsAt_opening,
      itemsAt_opening, known]

theorem skip (agrees : Agrees file ((place, d) :: rest) whole own) (comment : d.isComment = true) :
    Agrees file rest whole own where
  spent := agrees.spent
  ahead last owner found item member :=
    agrees.ahead last owner found item (List.mem_cons_of_mem _ member)
  last := agrees.last
  parents owner := by
    rw [agrees.parents owner]
    simp [declaredBefore_cons, comment]

theorem pass (agrees : Agrees file ((place, d) :: rest) whole own)
    (inOrder : InOrder ((place, d) :: rest)) (declares : d.isComment = false)
    (before : place.file < file) :
    Agrees file rest (whole.advance place d.owner) own where
  spent := agrees.spent.advance place d.owner
  ahead last owner found item member := by
    cases found
    exact Location.isLE_compare.mp ((List.pairwise_cons.mp inOrder).1 item member)
  last := by
    have unopened : own.last = none := by
      cases found : whole.last with
      | none => simp [agrees.last, found]
      | some pair =>
        have atMost := Location.file_le (agrees.ahead _ _ found _ List.mem_cons_self)
        have away : pair.1.file ≠ file := by
          simp only at atMost
          omega
        rw [agrees.last_eq found, if_neg away]
    have away : place.file ≠ file := by omega
    rw [unopened]
    simp [BlockState.advance, Option.filter_some, away]
  parents owner := by
    rw [agrees.parents owner, agrees.spent.parents_advance]
    by_cases own : d.owner = owner
    · simp [declaredBefore_cons, before, declares, own]
    · simp [declaredBefore_cons, own]

theorem own_spent (agrees : Agrees file stream whole own) : own.Spent := by
  intro location owner found
  rw [agrees.last, Option.filter_eq_some_iff] at found
  rw [agrees.parents, agrees.spent location owner found.1, ite_self]

theorem advance (agrees : Agrees file ((place, d) :: rest) whole own)
    (inOrder : InOrder ((place, d) :: rest)) (here : place.file = file) :
    Agrees file rest (whole.advance place d.owner) (own.advance place d.owner) where
  spent := agrees.spent.advance place d.owner
  ahead last owner found item member := by
    cases found
    exact Location.isLE_compare.mp ((List.pairwise_cons.mp inOrder).1 item member)
  last := by simp [BlockState.advance, Option.filter_some, here]
  parents owner := by
    rw [agrees.own_spent.parents_advance, agrees.parents owner, agrees.spent.parents_advance]
    by_cases own : d.owner = owner
    · simp [own]
    · simp [declaredBefore_cons, own]

end Agrees

theorem itemsAt_scaffold_own_file {file : Int} {whole own : BlockState}
    {stream : List (Location × Definition)} (agrees : Agrees file stream whole own)
    (inOrder : InOrder stream) {location : Location} (here : location.file = file) :
    itemsAt (whole.scaffold stream) location =
      itemsAt (own.scaffold (stream.filter fun item => item.1.file = file)) location := by
  induction stream generalizing whole own with
  | nil => exact agrees.itemsAt_closing here
  | cons item rest ih =>
    obtain ⟨place, d⟩ := item
    obtain ⟨below, ordered⟩ := List.pairwise_cons.mp inOrder
    have later : ∀ item ∈ rest, place.file ≤ item.1.file :=
      fun item member => Location.file_le (Location.isLE_compare.mp (below item member))
    rcases Int.lt_trichotomy place.file file with before | inside | behind
    · -- A definition of an earlier file only moves the pass over all files.
      have away : place ≠ location := by
        rintro rfl
        omega
      rw [List.filter_cons_of_neg (by simpa using Int.ne_of_lt before)]
      cases kind : d.isComment with
      | true =>
        rw [whole.scaffold_comment kind, itemsAt_cons, if_neg away]
        exact ih (agrees.skip kind) ordered
      | false =>
        have apart : ∀ last owner, whole.last = some (last, owner) → last ≠ location := by
          rintro last owner found rfl
          have atMost := Location.file_le (agrees.ahead _ _ found _ List.mem_cons_self)
          simp only at atMost
          omega
        rw [whole.scaffold_declaration kind, itemsAt_append, itemsAt_cons, if_neg away,
          whole.itemsAt_boundary_eq_nil d.owner away apart, List.nil_append]
        exact ih (agrees.pass inOrder kind before) ordered
    · rw [List.filter_cons_of_pos (by simpa using inside)]
      cases kind : d.isComment with
      | true =>
        rw [whole.scaffold_comment kind, own.scaffold_comment kind, itemsAt_cons, itemsAt_cons,
          ih (agrees.skip kind) ordered]
      | false =>
        have known : own.parents[d.owner]? = whole.parents[d.owner]? := by
          rw [agrees.parents, if_neg (not_declaredBefore _ d.owner)]
          intro item member
          rcases List.mem_cons.mp member with rfl | member
          · exact Int.le_of_eq inside.symm
          · exact inside ▸ later item member
        rw [whole.scaffold_declaration kind, own.scaffold_declaration kind, itemsAt_append,
          itemsAt_append, itemsAt_cons, itemsAt_cons, agrees.itemsAt_boundary known inside here,
          ih (agrees.advance inOrder inside) ordered]
    · -- The file is finished, and with it the block that is open.
      have elsewhere : ∀ item ∈ (place, d) :: rest, item.1.file ≠ file := by
        intro item member
        rcases List.mem_cons.mp member with rfl | member
        · exact Int.ne_of_gt behind
        · have atLeast := later item member
          omega
      have finished : ((place, d) :: rest).filter (fun item => item.1.file = file) = [] := by
        rw [List.filter_eq_nil_iff]
        simpa using elsewhere
      rw [finished, whole.itemsAt_scaffold_other_files (by rwa [here])]
      exact agrees.itemsAt_closing here

end BlockState

theorem flattenGroups_filter (groups : List Group) (file : Int) :
    flattenGroups (groups.filter fun group => group.1.file = file) =
      (flattenGroups groups).filter fun item => item.1.file = file := by
  induction groups with
  | nil => rfl
  | cons group groups ih =>
    have step (group : Group) (groups : List Group) : flattenGroups (group :: groups) =
        (group.2.map fun d => (group.1, d)) ++ flattenGroups groups := rfl
    rw [step, List.filter_append, ← ih]
    by_cases here : group.1.file = file
    · have all : (group.2.map fun d => (group.1, d)).filter (fun item => item.1.file = file) =
          group.2.map fun d => (group.1, d) := List.filter_eq_self.mpr (by simp [here])
      rw [all, List.filter_cons_of_pos (by simpa using here), step]
    · have none : (group.2.map fun d => (group.1, d)).filter (fun item => item.1.file = file) =
          [] := List.filter_eq_nil_iff.mpr (by simp [here])
      rw [none, List.filter_cons_of_neg (by simpa using here), List.nil_append]

theorem scaffoldTree_own_file {groups : List Group}
    (ascending : groups.Pairwise fun a b => a.1 < b.1) (parents : Std.ExtTreeMap String String)
    (file : Int) :
    (scaffoldTree groups parents)[file]? =
      (scaffoldTree (groups.filter fun group => group.1.file = file)
        (parents.filter fun owner _ =>
          ¬DeclaredBefore file (flattenGroups groups) owner))[file]? := by
  have inOrder : InOrder (flattenGroups groups) :=
    inOrder_spread (ascending.imp Location.compare_eq_lt.mpr)
  apply Tree.getElem?_ofStream_congr
  intro line
  rw [flattenGroups_filter]
  refine BlockState.itemsAt_scaffold_own_file ?_ inOrder rfl
  constructor
  · exact .start parents
  · simp
  · rfl
  · intro owner
    rw [Std.ExtTreeMap.getElem?_filter']
    by_cases declared : DeclaredBefore file (flattenGroups groups) owner
    · simp [declared]
    · cases parents[owner]? <;> simp [declared, Option.filter_some]

theorem scaffoldTree_eq_none_iff {groups : List Group} {parents : Std.ExtTreeMap String String}
    {file : Int} :
    (scaffoldTree groups parents)[file]? = none ↔
      ∀ group ∈ groups, group.1.file = file → group.2 = [] := by
  simp only [scaffoldTree, Tree.getElem?_ofStream_eq_none,
    BlockState.itemsAt_scaffold_start_eq_nil_iff]
  constructor
  · intro absent group member here
    rw [List.eq_nil_iff_forall_not_mem]
    intro d inside
    have placed : (group.1, d) ∈ flattenGroups groups := mem_spread.mpr ⟨group.2, member, inside⟩
    have same : group.1 = ⟨file, group.1.line⟩ := Location.ext here rfl
    exact itemsAt_eq_nil.mp (absent group.1.line) _ placed same
  · intro empty line
    rw [itemsAt_eq_nil]
    rintro ⟨place, d⟩ member rfl
    obtain ⟨definitions, present, inside⟩ := mem_spread.mp member
    have none : definitions = [] := empty _ present rfl
    rw [none] at inside
    cases inside

/-- What stands in a file follows from the definitions of that file and from the parents of the
classes that no earlier file declares; if no parents are known, from the definitions alone. -/
theorem files_independent (groups : List Group) (parents : Std.ExtTreeMap String String)
    (file : Int) (ascending : groups.Pairwise fun a b => a.1 < b.1) :
    (scaffoldTree groups parents)[file]? =
        (scaffoldTree (groups.filter fun group => group.1.file = file)
          (parents.filter fun owner _ =>
            ¬DeclaredBefore file (flattenGroups groups) owner))[file]? ∧
      ((scaffoldTree groups parents)[file]? = none ↔
        ∀ group ∈ groups, group.1.file = file → group.2 = []) ∧
      ∀ others : List Group, others.Pairwise (fun a b => a.1 < b.1) →
        inFile (flattenGroups others) file = inFile (flattenGroups groups) file →
        (scaffoldTree others ∅)[file]? = (scaffoldTree groups ∅)[file]? := by
  refine ⟨scaffoldTree_own_file ascending parents file, scaffoldTree_eq_none_iff, ?_⟩
  intro others ordered same
  have orphaned (keep : String → String → Bool) :
      (∅ : Std.ExtTreeMap String String).filter keep = ∅ := by
    apply Std.ExtTreeMap.ext_getElem?
    intro owner
    simp
  have definitions : flattenGroups (others.filter fun group => group.1.file = file) =
      flattenGroups (groups.filter fun group => group.1.file = file) := by
    rw [flattenGroups_filter, flattenGroups_filter, filter_file_eq, filter_file_eq, same]
  rw [scaffoldTree_own_file ordered, scaffoldTree_own_file ascending, orphaned, orphaned,
    scaffoldTree, definitions, scaffoldTree]

theorem files_independent_middle_file :
    let middle : List Definition := [⟨"a", " x;", false⟩, ⟨"", "// c", true⟩, ⟨"b", "", false⟩]
    let groups : List Group :=
      [(⟨1, 1⟩, [⟨"a", "", false⟩]), (⟨2, 1⟩, middle), (⟨2, 2⟩, []),
        (⟨3, 1⟩, [⟨"b", " y;", false⟩])]
    let others : List Group := [(⟨2, 1⟩, middle), (⟨4, 1⟩, [⟨"c", "", false⟩])]
    let parents := Std.ExtTreeMap.ofList [("a", "p"), ("b", "a")]
    groups.Pairwise (fun a b => a.1 < b.1) ∧ others.Pairwise (fun a b => a.1 < b.1) ∧
      inFile (flattenGroups others) 2 = inFile (flattenGroups groups) 2 ∧
      (scaffoldTree groups parents)[(2 : Int)]? =
        (scaffoldTree (groups.filter fun group => group.1.file = 2)
          (parents.filter fun owner _ =>
            ¬DeclaredBefore 2 (flattenGroups groups) owner))[(2 : Int)]? ∧
      (scaffoldTree groups parents).line? ⟨2, 1⟩ = some
        [.opener "a", .openBrace, .definition ⟨"a", " x;", false⟩,
          .definition ⟨"", "// c", true⟩, .closeBrace, .opener "b", .parentClause "b" "a",
          .openBrace, .definition ⟨"b", "", false⟩, .closeBrace] ∧
      (scaffoldTree others ∅)[(2 : Int)]? = (scaffoldTree groups ∅)[(2 : Int)]? := by
  intro middle groups others parents
  have ascending : groups.Pairwise fun a b => a.1 < b.1 := by decide
  have ordered : others.Pairwise fun a b => a.1 < b.1 := by decide
  have same : inFile (flattenGroups others) 2 = inFile (flattenGroups groups) 2 := by decide
  obtain ⟨own, -, alone⟩ := files_independent groups parents 2 ascending
  exact ⟨ascending, ordered, same, own, by decide +kernel, alone others ordered same⟩

end DreamDoc
