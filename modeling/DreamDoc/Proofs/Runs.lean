import DreamDoc.Proofs.Scaffolding
import Mathlib.Data.List.SplitBy

/-!
# Scaffolding by runs

The declarations of a file fall into maximal runs of one class. Every run of a named class is a
block: its heading stands right before its first declaration, and its closing brace stands right
before the next run if that starts at the same location, and else at the end of the line of its
last declaration. `runTree` writes this down without a state that moves along the stream, and
`scaffoldTree_eq_runTree` says that it is what the scaffolding does.
-/

namespace DreamDoc

structure Placed where
  place : Nat
  location : Location
  definition : Definition

namespace Placed

def owner (entry : Placed) : String := entry.definition.owner

def declares (entry : Placed) : Bool := !entry.definition.isComment

def item (entry : Placed) : Location × Definition := (entry.location, entry.definition)

end Placed

def numbered (stream : List (Location × Definition)) : List Placed :=
  stream.zipIdx.map fun (item, place) => ⟨place, item.1, item.2⟩

def declarationsIn (file : Int) (entries : List Placed) : List Placed :=
  entries.filter fun entry => entry.declares && entry.location.file == file

/-- A maximal run of declarations of one class, given by its first and its last one. -/
structure Run where
  first : Placed
  last : Placed

namespace Run

def ofList? : List Placed → Option Run
  | [] => none
  | first :: rest => some ⟨first, rest.getLastD first⟩

def split (declarations : List Placed) : List Run :=
  (declarations.splitBy fun entry next => entry.owner == next.owner).filterMap ofList?

end Run

/-- Where a piece of scaffolding goes: right before a definition of the stream, or last in a
line. -/
inductive Anchor where
  | before (place : Nat)
  | lineEnd (location : Location)
deriving DecidableEq

/-- The end of a run. The next run of the file, if there is one, may start at the same location. -/
def closingMarks (last : Placed) (next : Option Placed) : List (Anchor × Fragment) :=
  if last.owner = "" then []
  else match next with
    | some first =>
      if first.location = last.location then [(.before first.place, .closeBrace)]
      else [(.lineEnd last.location, .closeBrace)]
    | none => [(.lineEnd last.location, .closeBrace)]

section Reference

variable (entries : List Placed) (parents : Std.ExtTreeMap String String)

def parentNamed (first : Placed) : Option String :=
  if ∃ entry ∈ entries, entry.place < first.place ∧ entry.declares ∧ entry.owner = first.owner
  then none else parents[first.owner]?

def openingMarks (first : Placed) : List (Anchor × Fragment) :=
  if first.owner = "" then []
  else (heading first.owner (parentNamed entries parents first)).map fun fragment =>
    (.before first.place, fragment)

def runMarks : List Run → List (Anchor × Fragment)
  | [] => []
  | run :: later =>
    openingMarks entries parents run.first ++
      closingMarks run.last (later.head?.map Run.first) ++ runMarks later

end Reference

def lineOf (marks : List (Anchor × Fragment)) (location : Location) (entries : List Placed) :
    List Fragment :=
  (entries.filter fun entry => entry.location == location).flatMap (fun entry =>
    itemsAt marks (.before entry.place) ++ [.definition entry.definition]) ++
  itemsAt marks (.lineEnd location)

def runLine (entries : List Placed) (parents : Std.ExtTreeMap String String)
    (location : Location) : List Fragment :=
  let runs := Run.split (declarationsIn location.file entries)
  lineOf (runMarks entries parents runs) location entries

/-- The lines of the groups, each with the scaffolding of the runs of its file. -/
def runTree (groups : List Group) (parents : Std.ExtTreeMap String String) : Tree Fragment :=
  let entries := numbered (flattenGroups groups)
  Tree.ofStream (spread (groups.map fun group => (group.1, runLine entries parents group.1)))

namespace Run

theorem splitBy_cons {α : Type} (r : α → α → Bool) (a : α) (l : List α) :
    ∃ run runs, (a :: l).splitBy r = (a :: run) :: runs := by
  have joined := List.flatten_splitBy r (a :: l)
  cases split : (a :: l).splitBy r with
  | nil => simp at split
  | cons run runs =>
    have nonempty : run ≠ [] := List.ne_nil_of_mem_splitBy (split ▸ List.mem_cons_self)
    cases run with
    | nil => exact absurd rfl nonempty
    | cons c run =>
      rw [split] at joined
      obtain ⟨rfl, -⟩ : c = a ∧ run ++ runs.flatten = l := by simpa using joined
      exact ⟨run, runs, rfl⟩

theorem splitBy_cons_of_rel {α : Type} {r : α → α → Bool} {a b : α} {l : List α}
    {run : List α} {runs : List (List α)} (split : (b :: l).splitBy r = (b :: run) :: runs)
    (related : r a b = true) : (a :: b :: l).splitBy r = (a :: b :: run) :: runs := by
  obtain ⟨joined, nonempty, chains, breaks⟩ := List.splitBy_eq_iff.mp split
  refine List.splitBy_eq_iff.mpr ⟨?_, ?_, ?_, ?_⟩
  · rw [joined]
    rfl
  · simpa using nonempty
  · intro m member
    rcases List.mem_cons.mp member with rfl | member
    · exact List.isChain_cons_cons.mpr ⟨related, chains _ List.mem_cons_self⟩
    · exact chains m (List.mem_cons_of_mem _ member)
  · rw [List.isChain_cons] at breaks ⊢
    refine ⟨?_, breaks.2⟩
    intro next found
    obtain ⟨_, held, apart⟩ := breaks.1 next found
    exact ⟨by simp, held, by simpa using apart⟩

theorem split_cons_same {entry next : Placed} (same : next.owner = entry.owner)
    (later : List Placed) :
    ∃ last runs, split (next :: later) = ⟨next, last⟩ :: runs ∧
      split (entry :: next :: later) = ⟨entry, last⟩ :: runs := by
  obtain ⟨run, runs, found⟩ := splitBy_cons (fun a b : Placed => a.owner == b.owner) next later
  have longer := splitBy_cons_of_rel found (a := entry) (by simp [same])
  refine ⟨run.getLastD next, runs.filterMap ofList?, ?_, ?_⟩
  · rw [split, found]
    rfl
  · rw [split, longer]
    simp [ofList?, List.getLast?_cons]

theorem split_cons_ne {entry next : Placed} (differ : next.owner ≠ entry.owner)
    (later : List Placed) :
    split (entry :: next :: later) = ⟨entry, entry⟩ :: split (next :: later) := by
  have cut := List.splitBy_append_cons (r := fun a b : Placed => a.owner == b.owner)
    (l := [entry]) (a := next) later (by simpa using Ne.symm differ)
  rw [split, ← List.singleton_append, cut]
  rfl

theorem head?_split (first : Placed) (later : List Placed) :
    (split (first :: later)).head?.map Run.first = some first := by
  obtain ⟨run, runs, found⟩ := splitBy_cons (fun a b : Placed => a.owner == b.owner) first later
  rw [split, found]
  rfl

end Run

section Marks

variable (entries : List Placed) (parents : Std.ExtTreeMap String String)

def marksAfter (last : Placed) : List Placed → List (Anchor × Fragment)
  | [] => closingMarks last none
  | next :: later =>
    if next.owner = last.owner then marksAfter next later
    else closingMarks last (some next) ++ (openingMarks entries parents next ++
      marksAfter next later)

theorem runMarks_split (first : Placed) (later : List Placed) :
    runMarks entries parents (Run.split (first :: later)) =
      openingMarks entries parents first ++ marksAfter entries parents first later := by
  induction later generalizing first with
  | nil =>
    have single : Run.split [first] = [⟨first, first⟩] := rfl
    simp [single, runMarks, marksAfter]
  | cons next later ih =>
    by_cases same : next.owner = first.owner
    · obtain ⟨last, runs, shorter, longer⟩ := Run.split_cons_same same later
      have rest := ih next
      rw [shorter, runMarks, List.append_assoc] at rest
      rw [longer, runMarks, List.append_assoc, List.append_cancel_left rest, marksAfter,
        if_pos same]
    · rw [Run.split_cons_ne same, runMarks, Run.head?_split, ih next, marksAfter, if_neg same,
        List.append_assoc]

theorem before_marksAfter {last : Placed} {later : List Placed} {place : Nat}
    (absent : ∀ entry ∈ later, entry.place ≠ place) :
    itemsAt (marksAfter entries parents last later) (.before place) = [] := by
  induction later generalizing last with
  | nil =>
    unfold marksAfter closingMarks
    split <;> simp [itemsAt_cons]
  | cons next later ih =>
    have here : next.place ≠ place := absent next List.mem_cons_self
    have rest : itemsAt (marksAfter entries parents next later) (.before place) = [] :=
      ih fun entry member => absent entry (List.mem_cons_of_mem _ member)
    rw [marksAfter]
    split
    · exact rest
    · rw [itemsAt_append, itemsAt_append, rest]
      unfold closingMarks openingMarks
      grind [itemsAt_cons, itemsAt_const, itemsAt_nil]

theorem before_runMarks {declarations : List Placed} {place : Nat}
    (absent : ∀ entry ∈ declarations, entry.place ≠ place) :
    itemsAt (runMarks entries parents (Run.split declarations)) (.before place) = [] := by
  cases declarations with
  | nil => rfl
  | cons first later =>
    have here : first.place ≠ place := absent first List.mem_cons_self
    rw [runMarks_split, itemsAt_append, before_marksAfter entries parents fun entry member =>
      absent entry (List.mem_cons_of_mem _ member)]
    unfold openingMarks
    split
    · rfl
    · simp [itemsAt_const, here]

end Marks

section Line

variable {marks others : List (Anchor × Fragment)} {location : Location}

theorem lineOf_cons (entry : Placed) (rest : List Placed) :
    lineOf marks location (entry :: rest) =
      if entry.location = location then
        itemsAt marks (.before entry.place) ++ .definition entry.definition ::
          lineOf marks location rest
      else lineOf marks location rest := by
  by_cases here : entry.location = location <;> simp [lineOf, here]

theorem lineOf_congr {rest : List Placed}
    (before : ∀ entry ∈ rest, itemsAt marks (.before entry.place) =
      itemsAt others (.before entry.place))
    (lineEnd : itemsAt marks (.lineEnd location) = itemsAt others (.lineEnd location)) :
    lineOf marks location rest = lineOf others location rest := by
  induction rest with
  | nil => simpa [lineOf] using lineEnd
  | cons entry rest ih =>
    rw [lineOf_cons, lineOf_cons, before entry List.mem_cons_self,
      ih fun entry member => before entry (List.mem_cons_of_mem _ member)]

theorem lineOf_absent {rest : List Placed} (absent : ∀ entry ∈ rest, entry.location ≠ location) :
    lineOf marks location rest = itemsAt marks (.lineEnd location) := by
  induction rest with
  | nil => simp [lineOf]
  | cons entry rest ih =>
    rw [lineOf_cons, if_neg (absent entry List.mem_cons_self)]
    exact ih fun entry member => absent entry (List.mem_cons_of_mem _ member)

theorem lineOf_closingMarks {last entry : Placed} {rest : List Placed}
    (order : last.location ≤ entry.location)
    (places : ∀ later ∈ rest, entry.place < later.place)
    (locations : ∀ later ∈ rest, entry.location ≤ later.location)
    {state : BlockState} (found : state.last = some (last.location, last.owner)) :
    lineOf (closingMarks last (some entry) ++ marks) location (entry :: rest) =
      itemsAt state.closing location ++ lineOf marks location (entry :: rest) := by
  rw [state.closing_of_last found]
  unfold closingMarks
  by_cases global : last.owner = ""
  · simp [global]
  · simp only [global, if_false]
    have elsewhere : ∀ later ∈ rest, itemsAt
        ([(Anchor.before entry.place, Fragment.closeBrace)] ++ marks) (.before later.place) =
        itemsAt marks (.before later.place) := by
      intro later member
      have apart := places later member
      have differ : entry.place ≠ later.place := by omega
      simp [itemsAt_cons, differ]
    by_cases shared : entry.location = last.location
    · rw [if_pos shared, lineOf_cons, lineOf_cons,
        lineOf_congr elsewhere (by simp [itemsAt_cons])]
      by_cases here : entry.location = location
      · simp [here, itemsAt_cons, ← shared]
      · simp [here, itemsAt_cons, ← shared]
    · rw [if_neg shared]
      by_cases here : last.location = location
      · -- Everything from the next run on lies behind the line of the brace.
        have behind : ∀ later ∈ entry :: rest, later.location ≠ location := by
          intro later member
          have less := Location.lt_of_le_of_ne order (Ne.symm shared)
          rw [← here]
          rcases List.mem_cons.mp member with rfl | member
          · exact shared
          · exact (Location.ne_of_lt (Location.lt_of_lt_of_le less (locations later member))).symm
        rw [lineOf_absent behind, lineOf_absent behind]
        simp [itemsAt_cons, here]
      · have unmarked : lineOf ([(Anchor.lineEnd last.location, Fragment.closeBrace)] ++ marks)
            location (entry :: rest) = lineOf marks location (entry :: rest) := by
          apply lineOf_congr
          · intro later member
            simp [itemsAt_cons]
          · simp [itemsAt_cons, here]
        rw [unmarked]
        simp [itemsAt_cons, here]

theorem lineOf_openingMarks {entries : List Placed} {parents : Std.ExtTreeMap String String}
    {entry : Placed} {rest : List Placed} (places : ∀ later ∈ rest, entry.place < later.place)
    (absent : itemsAt marks (.before entry.place) = []) {state : BlockState}
    (named : parentNamed entries parents entry = state.parents[entry.owner]?) :
    lineOf (openingMarks entries parents entry ++ marks) location (entry :: rest) =
      itemsAt (state.opening entry.location entry.owner ++
        [(entry.location, .definition entry.definition)]) location ++
      lineOf marks location rest := by
  have later : lineOf (openingMarks entries parents entry ++ marks) location rest =
      lineOf marks location rest := by
    apply lineOf_congr
    · intro later member
      have apart := places later member
      have differ : entry.place ≠ later.place := by omega
      unfold openingMarks
      split <;> simp [itemsAt_const, differ]
    · unfold openingMarks
      split <;> simp [itemsAt_const]
  rw [lineOf_cons, later, itemsAt_append, itemsAt_append, absent, state.itemsAt_opening]
  unfold openingMarks
  rw [named]
  by_cases global : entry.owner = ""
  · by_cases here : entry.location = location <;> simp [global, here, itemsAt_cons]
  · by_cases here : entry.location = location <;>
      simp [global, here, itemsAt_cons, itemsAt_const]

end Line

structure Ordered (entries : List Placed) : Prop where
  places : entries.Pairwise fun a b => a.place < b.place
  locations : entries.Pairwise fun a b => a.location ≤ b.location

/-- The state after the entries so far: the last declaration is one of them, and the parents of
the classes that have no declaration among them are known. -/
structure Follows (parents : Std.ExtTreeMap String String) (past : List Placed)
    (state : BlockState) : Prop where
  last : ∀ location owner, state.last = some (location, owner) →
    ∃ entry ∈ past, entry.declares ∧ entry.location = location ∧ entry.owner = owner
  parents : ∀ owner, state.parents[owner]? =
    if ∃ entry ∈ past, entry.declares ∧ entry.owner = owner then none else parents[owner]?

namespace Follows

variable {parents : Std.ExtTreeMap String String} {past : List Placed} {state : BlockState}

theorem start (parents : Std.ExtTreeMap String String) : Follows parents [] ⟨none, parents⟩ where
  last := by simp
  parents := by simp

theorem skip (follows : Follows parents past state) {entry : Placed}
    (comment : entry.declares = false) : Follows parents (past ++ [entry]) state where
  last location owner found := by
    obtain ⟨earlier, member, rest⟩ := follows.last location owner found
    exact ⟨earlier, List.mem_append_left _ member, rest⟩
  parents owner := by
    rw [follows.parents owner]
    simp [comment, or_and_right, exists_or]

theorem advance (follows : Follows parents past state) {entry : Placed}
    (declares : entry.declares = true) :
    Follows parents (past ++ [entry]) (state.advance entry.location entry.owner) where
  last location owner found := by
    cases found
    exact ⟨entry, by simp, declares, rfl, rfl⟩
  parents owner := by
    unfold BlockState.advance
    by_cases here : entry.owner = owner
    · subst here
      have known : ∃ earlier ∈ past ++ [entry], earlier.declares ∧ earlier.owner = entry.owner :=
        ⟨entry, by simp, declares, rfl⟩
      rw [if_pos known]
      by_cases continues : state.continues entry.location entry.owner = true
      · have before : ∃ earlier ∈ past, earlier.declares ∧ earlier.owner = entry.owner := by
          cases found : state.last with
          | none => simp [BlockState.continues, found] at continues
          | some pair =>
            rw [state.continues_of_last found] at continues
            obtain ⟨earlier, member, kind, -, same⟩ := follows.last pair.1 pair.2 found
            exact ⟨earlier, member, kind, same.trans (of_decide_eq_true continues).1.symm⟩
        simp only [continues, if_true]
        rw [follows.parents, if_pos before]
      · simp [continues]
    · have kept : (if state.continues entry.location entry.owner = true then state.parents
          else state.parents.erase entry.owner)[owner]? = state.parents[owner]? := by
        split
        · rfl
        · simp [Std.ExtTreeMap.getElem?_erase, here]
      rw [kept, follows.parents owner]
      simp [here, or_and_right, exists_or]

theorem parentNamed_eq {entry : Placed} {rest : List Placed}
    (follows : Follows parents past state) (ordered : Ordered (past ++ entry :: rest)) :
    parentNamed (past ++ entry :: rest) parents entry = state.parents[entry.owner]? := by
  obtain ⟨-, later, earlier⟩ := List.pairwise_append.mp ordered.places
  rw [follows.parents, parentNamed]
  congr 1
  refine propext ⟨?_, ?_⟩
  · rintro ⟨other, member, less, declares, same⟩
    rcases List.mem_append.mp member with member | member
    · exact ⟨other, member, declares, same⟩
    · have atLeast : entry.place ≤ other.place := by
        rcases List.mem_cons.mp member with rfl | member
        · exact Nat.le_refl _
        · exact Nat.le_of_lt ((List.pairwise_cons.mp later).1 other member)
      omega
  · rintro ⟨other, member, declares, same⟩
    exact ⟨other, List.mem_append_left _ member, earlier other member entry List.mem_cons_self,
      declares, same⟩

end Follows

theorem declarationsIn_cons (file : Int) (entry : Placed) (rest : List Placed) :
    declarationsIn file (entry :: rest) =
      if entry.declares = true ∧ entry.location.file = file then
        entry :: declarationsIn file rest
      else declarationsIn file rest := by
  simp [declarationsIn, List.filter_cons]

theorem Ordered.around {past rest : List Placed} {entry : Placed}
    (ordered : Ordered (past ++ entry :: rest)) :
    (∀ earlier ∈ past, earlier.location ≤ entry.location) ∧
      (∀ later ∈ rest, entry.place < later.place) ∧
      ∀ later ∈ rest, entry.location ≤ later.location := by
  obtain ⟨-, places, -⟩ := List.pairwise_append.mp ordered.places
  obtain ⟨-, locations, before⟩ := List.pairwise_append.mp ordered.locations
  exact ⟨fun earlier member => before earlier member entry List.mem_cons_self,
    (List.pairwise_cons.mp places).1, (List.pairwise_cons.mp locations).1⟩

namespace BlockState

variable (state : BlockState)

theorem scaffold_item_comment {entry : Placed} (comment : entry.declares = false)
    (rest : List (Location × Definition)) :
    state.scaffold (entry.item :: rest) =
      (entry.location, .definition entry.definition) :: state.scaffold rest :=
  state.scaffold_comment (by simpa [Placed.declares] using comment) _ _

theorem scaffold_item_declaration {entry : Placed} (declares : entry.declares = true)
    (rest : List (Location × Definition)) :
    state.scaffold (entry.item :: rest) =
      state.boundary entry.location entry.owner ++
        (entry.location, .definition entry.definition) ::
          (state.advance entry.location entry.owner).scaffold rest :=
  state.scaffold_declaration (by simpa [Placed.declares] using declares) _ _

end BlockState

section Correspondence

variable {entries past rest : List Placed} {parents : Std.ExtTreeMap String String}
  {state : BlockState} {location : Location}

theorem itemsAt_scaffold_after (ordered : Ordered entries) (split : past ++ rest = entries)
    (follows : Follows parents past state) {last : Placed}
    (found : state.last = some (last.location, last.owner))
    (file : last.location.file = location.file) :
    itemsAt (state.scaffold (rest.map Placed.item)) location =
      lineOf (marksAfter entries parents last (declarationsIn location.file rest)) location
        rest := by
  induction rest generalizing past last state with
  | nil =>
    change itemsAt state.closing location = lineOf (closingMarks last none) location []
    rw [state.closing_of_last found, closingMarks]
    by_cases global : last.owner = "" <;> simp [global, lineOf, itemsAt_cons]
  | cons entry rest ih =>
    have onward : (past ++ [entry]) ++ rest = entries := by simpa using split
    have whole : Ordered (past ++ entry :: rest) := split ▸ ordered
    obtain ⟨earlier, places, locations⟩ := whole.around
    have order : last.location ≤ entry.location := by
      obtain ⟨other, member, -, same, -⟩ := follows.last _ _ found
      exact same ▸ earlier other member
    have later : ∀ other ∈ declarationsIn location.file rest, other.place ≠ entry.place :=
      fun other inside => Nat.ne_of_gt (places other (List.mem_of_mem_filter inside))
    by_cases sameFile : entry.location.file = location.file
    · cases kind : entry.declares with
      | false =>
        rw [declarationsIn_cons, if_neg (by simp [kind]), lineOf_cons,
          before_marksAfter entries parents later, List.map_cons,
          state.scaffold_item_comment kind, itemsAt_cons,
          ih onward (follows.skip kind) found file]
        rfl
      | true =>
        have agree : itemsAt ((state.advance entry.location entry.owner).scaffold
            (rest.map Placed.item)) location =
            lineOf (marksAfter entries parents entry (declarationsIn location.file rest)) location
              rest := ih onward (follows.advance kind) rfl sameFile
        rw [declarationsIn_cons, if_pos ⟨kind, sameFile⟩, marksAfter, List.map_cons,
          state.scaffold_item_declaration kind, BlockState.boundary,
          state.continues_of_last found]
        by_cases same : entry.owner = last.owner
        · -- The run goes on.
          rw [if_pos (by simp [same, sameFile, file]), if_pos same, lineOf_cons,
            before_marksAfter entries parents later, List.nil_append, itemsAt_cons, agree]
          rfl
        · -- The run ends and the next one starts.
          have named : parentNamed entries parents entry = state.parents[entry.owner]? :=
            split ▸ follows.parentNamed_eq whole
          rw [if_neg (by simp [same]), if_neg same,
            lineOf_closingMarks order places locations found,
            lineOf_openingMarks places (before_marksAfter entries parents later) named, ← agree]
          by_cases here : entry.location = location <;> simp [itemsAt_cons, here]
    · -- The file ends, and with it the run.
      have behind : ∀ other ∈ entry :: rest, other.location.file ≠ location.file := by
        have atMost := Location.file_le order
        intro other inside
        rcases List.mem_cons.mp inside with rfl | inside
        · exact sameFile
        · have beyond := Location.file_le (locations other inside)
          omega
      have none : declarationsIn location.file (entry :: rest) = [] := by
        rw [declarationsIn, List.filter_eq_nil_iff]
        intro other inside
        simp [behind other inside]
      rw [state.itemsAt_scaffold_other_files (List.forall_mem_map.mpr behind), none,
        lineOf_absent fun other inside same => behind other inside (congrArg _ same),
        state.closing_of_last found, marksAfter, closingMarks]
      by_cases global : last.owner = "" <;> simp [global, itemsAt_cons]

theorem itemsAt_scaffold_before (ordered : Ordered entries) (split : past ++ rest = entries)
    (follows : Follows parents past state)
    (apart : ∀ last owner, state.last = some (last, owner) → last.file ≠ location.file) :
    itemsAt (state.scaffold (rest.map Placed.item)) location =
      lineOf (runMarks entries parents (Run.split (declarationsIn location.file rest))) location
        rest := by
  have elsewhere : ∀ last owner, state.last = some (last, owner) → last ≠ location :=
    fun last owner found same => apart last owner found (congrArg _ same)
  induction rest generalizing past state with
  | nil => exact state.itemsAt_closing_eq_nil elsewhere
  | cons entry rest ih =>
    have onward : (past ++ [entry]) ++ rest = entries := by simpa using split
    have whole : Ordered (past ++ entry :: rest) := split ▸ ordered
    obtain ⟨-, places, -⟩ := whole.around
    have later : ∀ other ∈ declarationsIn location.file rest, other.place ≠ entry.place :=
      fun other inside => Nat.ne_of_gt (places other (List.mem_of_mem_filter inside))
    rw [List.map_cons, declarationsIn_cons]
    cases kind : entry.declares with
    | false =>
      rw [if_neg (by simp), lineOf_cons, before_runMarks entries parents later,
        state.scaffold_item_comment kind, itemsAt_cons,
        ih onward (follows.skip kind) apart elsewhere]
      rfl
    | true =>
      rw [state.scaffold_item_declaration kind]
      by_cases sameFile : entry.location.file = location.file
      · have starts : state.continues entry.location entry.owner = false :=
          state.continues_eq_false (fun last owner found => sameFile ▸ apart last owner found) _
        have closed : itemsAt state.closing location = [] := state.itemsAt_closing_eq_nil elsewhere
        have named : parentNamed entries parents entry = state.parents[entry.owner]? :=
          split ▸ follows.parentNamed_eq whole
        have agree : itemsAt ((state.advance entry.location entry.owner).scaffold
            (rest.map Placed.item)) location =
            lineOf (marksAfter entries parents entry (declarationsIn location.file rest)) location
              rest :=
          itemsAt_scaffold_after ordered onward (follows.advance kind) rfl sameFile
        rw [if_pos ⟨rfl, sameFile⟩, runMarks_split,
          lineOf_openingMarks places (before_marksAfter entries parents later) named, ← agree,
          BlockState.boundary, starts]
        by_cases here : entry.location = location <;> simp [itemsAt_cons, here, closed]
      · have away : entry.location ≠ location := fun same => sameFile (congrArg _ same)
        rw [if_neg (by simp [sameFile]), itemsAt_append,
          state.itemsAt_boundary_eq_nil entry.owner away elsewhere, itemsAt_cons, if_neg away,
          lineOf_cons, if_neg away]
        refine ih onward (follows.advance kind) ?_ ?_
        · rintro last owner ⟨⟩
          exact sameFile
        · rintro last owner ⟨⟩
          exact away

end Correspondence

theorem map_item_numbered (stream : List (Location × Definition)) :
    (numbered stream).map Placed.item = stream := by
  rw [numbered, List.map_map]
  exact List.zipIdx_map_fst 0 stream

theorem ordered_numbered {stream : List (Location × Definition)} (inOrder : InOrder stream) :
    Ordered (numbered stream) where
  places := by
    rw [numbered, List.pairwise_map, ← List.pairwise_map (f := Prod.snd) (R := (· < ·)),
      List.zipIdx_map_snd]
    exact List.pairwise_lt_range'
  locations := by
    have locations : (numbered stream).Pairwise fun a b => (compare a.item.1 b.item.1).isLE := by
      rw [← List.pairwise_map (f := Placed.item) (R := fun a b => (compare a.1 b.1).isLE),
        map_item_numbered]
      exact inOrder
    exact locations.imp fun atMost => Location.isLE_compare.mp atMost

theorem itemsAt_scaffold_eq_runLine {stream : List (Location × Definition)}
    (inOrder : InOrder stream) (parents : Std.ExtTreeMap String String) (location : Location) :
    itemsAt (BlockState.scaffold ⟨none, parents⟩ stream) location =
      runLine (numbered stream) parents location := by
  have agree : itemsAt (BlockState.scaffold ⟨none, parents⟩ ((numbered stream).map Placed.item))
      location = runLine (numbered stream) parents location :=
    itemsAt_scaffold_before (ordered_numbered inOrder) (List.nil_append _) (.start parents)
      (by simp)
  rwa [map_item_numbered] at agree

theorem scaffoldTree_eq_runTree (groups : List Group) (parents : Std.ExtTreeMap String String)
    (ascending : groups.Pairwise fun a b => a.1 < b.1) :
    scaffoldTree groups parents = runTree groups parents := by
  have strict : Ascending groups := ascending.imp Location.compare_eq_lt.mpr
  have inOrder : InOrder (flattenGroups groups) := inOrder_spread strict
  apply Tree.ofStream_congr
  intro location
  rw [itemsAt_scaffold_eq_runLine inOrder]
  by_cases present : ∃ definitions, (location, definitions) ∈ groups
  · obtain ⟨definitions, member⟩ := present
    symm
    apply itemsAt_spread
    · exact List.pairwise_map.mpr strict
    · exact List.mem_map.mpr ⟨_, member, rfl⟩
  · have absent : ∀ item ∈ flattenGroups groups, item.1 ≠ location := by
      rintro ⟨place, d⟩ member rfl
      obtain ⟨definitions, member, -⟩ := mem_spread.mp member
      exact present ⟨definitions, member⟩
    rw [← itemsAt_scaffold_eq_runLine inOrder,
      BlockState.itemsAt_scaffold_eq_nil _ (by simp) absent]
    symm
    rw [itemsAt_eq_nil]
    rintro ⟨place, fragment⟩ member rfl
    obtain ⟨fragments, member, -⟩ := mem_spread.mp member
    obtain ⟨group, inside, equal⟩ := List.mem_map.mp member
    cases equal
    exact present ⟨group.2, inside⟩

theorem scaffoldTree_eq_runTree_shared_line :
    let groups : List Group :=
      [(⟨1, 1⟩, [⟨"", "// a", true⟩, ⟨"a", "", false⟩, ⟨"b", "", false⟩, ⟨"", "// b", true⟩]),
        (⟨1, 2⟩, [⟨"", "// c", true⟩]), (⟨2, 1⟩, [⟨"b", " x;", false⟩, ⟨"", " y;", false⟩])]
    let parents := Std.ExtTreeMap.ofList [("b", "a")]
    groups.Pairwise (fun a b => a.1 < b.1) ∧
      scaffoldTree groups parents = runTree groups parents ∧
      (runTree groups parents).line? ⟨1, 1⟩ = some
        [.definition ⟨"", "// a", true⟩, .opener "a", .openBrace, .definition ⟨"a", "", false⟩,
          .closeBrace, .opener "b", .parentClause "b" "a", .openBrace,
          .definition ⟨"b", "", false⟩, .definition ⟨"", "// b", true⟩, .closeBrace] := by
  intro groups parents
  have ascending : groups.Pairwise fun a b => a.1 < b.1 := by decide
  refine ⟨ascending, scaffoldTree_eq_runTree groups parents ascending, ?_⟩
  decide +kernel

end DreamDoc
