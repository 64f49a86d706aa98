import DreamDoc.Proofs.ReadingOrder

/-!
# Blocks of a file

Read in order, a file of the collation is a sequence of blocks, with comments and global
declarations between them. `Reader.Step` is what a reader of blocks accepts, and every file takes
it from outside all blocks to outside all blocks (`run_collate`).
-/

namespace DreamDoc

inductive Reader where
  | outside
  | heading (owner : String)
  | inside (owner : String)

namespace Reader

inductive Step : Reader → Fragment → Reader → Prop where
  | loose {d : Definition} (free : d.isComment = true ∨ d.owner = "") :
    Step outside (.definition d) outside
  | opener {owner : String} (named : owner ≠ "") : Step outside (.opener owner) (heading owner)
  | clause {owner parent : String} :
    Step (heading owner) (.parentClause owner parent) (heading owner)
  | brace {owner : String} : Step (heading owner) .openBrace (inside owner)
  | member {owner : String} {d : Definition}
    (belongs : d.isComment = true ∨ (d.owner = owner ∧ d.owner ≠ "")) :
    Step (inside owner) (.definition d) (inside owner)
  | close {owner : String} : Step (inside owner) .closeBrace outside

inductive Run : Reader → List Fragment → Reader → Prop where
  | nil {reader : Reader} : Run reader [] reader
  | cons {reader next last : Reader} {fragment : Fragment} {rest : List Fragment}
    (step : Step reader fragment next) (run : Run next rest last) :
    Run reader (fragment :: rest) last

theorem Run.append {reader middle last : Reader} {first second : List Fragment}
    (before : Run reader first middle) (after : Run middle second last) :
    Run reader (first ++ second) last := by
  induction before with
  | nil => exact after
  | cons step _ ih => exact .cons step (ih after)

theorem Run.at {reader last : Reader} {first second : List Fragment} {fragment : Fragment}
    (run : Run reader (first ++ fragment :: second) last) :
    ∃ here next, Run reader first here ∧ Step here fragment next := by
  induction first generalizing reader with
  | nil =>
    cases run with
    | cons step _ => exact ⟨reader, _, .nil, step⟩
  | cons head first ih =>
    cases run with
    | cons step run =>
      obtain ⟨here, next, before, at_⟩ := ih run
      exact ⟨here, next, .cons step before, at_⟩

end Reader

/-- The last block that was opened is one of the class, and it has not been closed. -/
def InBlock (owner : String) (before : List Fragment) : Prop :=
  ∃ outer inner, before = outer ++ .opener owner :: inner ∧ .openBrace ∈ inner ∧
    .closeBrace ∉ inner ∧ ∀ name, .opener name ∉ inner

namespace Reader

def Reached (before : List Fragment) : Reader → Prop
  | outside => True
  | heading owner => ∃ outer inner, before = outer ++ .opener owner :: inner ∧
      .closeBrace ∉ inner ∧ ∀ name, .opener name ∉ inner
  | inside owner => InBlock owner before

theorem Step.reached {before : List Fragment} {reader next : Reader} {fragment : Fragment}
    (step : Step reader fragment next) (reached : reader.Reached before) :
    next.Reached (before ++ [fragment]) := by
  cases step with
  | loose _ => trivial
  | opener _ => exact ⟨before, [], rfl, by simp, by simp⟩
  | @clause owner parent =>
    obtain ⟨outer, inner, rfl, unclosed, alone⟩ := reached
    exact ⟨outer, inner ++ [.parentClause owner parent], by simp, by simp [unclosed],
      by simp [alone]⟩
  | brace =>
    obtain ⟨outer, inner, rfl, unclosed, alone⟩ := reached
    exact ⟨outer, inner ++ [.openBrace], by simp, by simp, by simp [unclosed], by simp [alone]⟩
  | @member owner d _ =>
    obtain ⟨outer, inner, rfl, opened, unclosed, alone⟩ := reached
    exact ⟨outer, inner ++ [.definition d], by simp, by simp [opened], by simp [unclosed],
      by simp [alone]⟩
  | close => trivial

theorem Run.reached {before : List Fragment} {reader last : Reader} {fragments : List Fragment}
    (run : Run reader fragments last) (reached : reader.Reached before) :
    last.Reached (before ++ fragments) := by
  induction run generalizing before with
  | nil => simpa using reached
  | cons step _ ih => simpa using ih (step.reached reached)

theorem Run.inBlock {owner : String} {before : List Fragment}
    (run : Run outside before (inside owner)) : InBlock owner before :=
  run.reached (show Reached [] outside from trivial)

end Reader

def fragmentsIn (file : Int) (stream : List (Location × Fragment)) : List Fragment :=
  (inFile stream file).map Prod.snd

@[simp]
theorem fragmentsIn_nil (file : Int) : fragmentsIn file [] = [] := rfl

@[simp]
theorem fragmentsIn_append (file : Int) (stream others : List (Location × Fragment)) :
    fragmentsIn file (stream ++ others) = fragmentsIn file stream ++ fragmentsIn file others := by
  simp [fragmentsIn]

theorem fragmentsIn_cons (file : Int) (location : Location) (fragment : Fragment)
    (rest : List (Location × Fragment)) :
    fragmentsIn file ((location, fragment) :: rest) =
      if location.file = file then fragment :: fragmentsIn file rest
      else fragmentsIn file rest := by
  rw [fragmentsIn, inFile_cons]
  split <;> rfl

theorem fragmentsIn_const (file : Int) (location : Location) (fragments : List Fragment) :
    fragmentsIn file (fragments.map fun fragment => (location, fragment)) =
      if location.file = file then fragments else [] := by
  rw [fragmentsIn, inFile_const]
  split <;> simp [Function.comp_def]

namespace BlockState

/-- Where a reader of one file stands when the declarations so far have been read. -/
def reader (file : Int) (state : BlockState) : Reader :=
  match state.last with
  | some (last, owner) => if last.file = file ∧ owner ≠ "" then .inside owner else .outside
  | none => .outside

variable {file : Int} {state : BlockState}

theorem run_comments {held : List (Location × Definition)}
    (comments : ∀ item ∈ held, item.2.isComment = true) {reader : Reader}
    (rests : ∀ d : Definition, d.isComment = true → Reader.Step reader (.definition d) reader) :
    Reader.Run reader (fragmentsIn file (held.map placeDefinition)) reader := by
  induction held with
  | nil => exact .nil
  | cons item held ih =>
    rw [List.map_cons, placeDefinition, fragmentsIn_cons]
    have rest := ih fun item member => comments item (List.mem_cons_of_mem _ member)
    split
    · exact .cons (rests _ (comments item List.mem_cons_self)) rest
    · exact rest

theorem step_comment {d : Definition} (comment : d.isComment = true) :
    Reader.Step (state.reader file) (.definition d) (state.reader file) := by
  unfold reader
  split
  · split
    · exact .member (.inl comment)
    · exact .loose (.inl comment)
  · exact .loose (.inl comment)

theorem run_closing : Reader.Run (state.reader file) (fragmentsIn file state.closing) .outside := by
  unfold reader
  cases found : state.last with
  | none => simpa [closing, found] using Reader.Run.nil
  | some pair =>
    obtain ⟨last, owner⟩ := pair
    rw [state.closing_of_last found]
    by_cases global : owner = ""
    · simpa [global] using Reader.Run.nil
    · by_cases here : last.file = file
      · simpa [global, here, fragmentsIn_cons] using Reader.Run.cons Reader.Step.close Reader.Run.nil
      · simpa [global, here, fragmentsIn_cons] using Reader.Run.nil

theorem run_heading {owner : String} (named : owner ≠ "") (parent : Option String) :
    Reader.Run .outside (heading owner parent) (.inside owner) := by
  cases parent with
  | none => exact .cons (.opener named) (.cons .brace .nil)
  | some parent => exact .cons (.opener named) (.cons .clause (.cons .brace .nil))

theorem run_opening (location : Location) (owner : String) :
    Reader.Run .outside (fragmentsIn file (state.opening location owner))
      ((state.advance location owner).reader file) := by
  unfold reader advance
  rw [opening_eq]
  by_cases global : owner = ""
  · simpa [global] using Reader.Run.nil
  · by_cases here : location.file = file
    · simpa [global, here, fragmentsIn_const] using run_heading global _
    · simpa [global, here, fragmentsIn_const] using Reader.Run.nil

theorem step_declaration {location : Location} {d : Definition} (here : location.file = file) :
    Reader.Step ((state.advance location d.owner).reader file) (.definition d)
      ((state.advance location d.owner).reader file) := by
  unfold reader advance
  by_cases global : d.owner = ""
  · simpa [global] using Reader.Step.loose (.inr global)
  · simpa [global, here] using Reader.Step.member (.inr ⟨rfl, global⟩)

theorem reader_advance_of_continues {location : Location} {owner : String}
    (continues : state.continues location owner = true) :
    (state.advance location owner).reader file = state.reader file := by
  cases found : state.last with
  | none => simp [BlockState.continues, found] at continues
  | some pair =>
    rw [state.continues_of_last found] at continues
    obtain ⟨same, sameFile⟩ := of_decide_eq_true continues
    simp [reader, advance, found, same, sameFile]

theorem run_settled {held stream : List (Location × Definition)}
    (comments : ∀ item ∈ held, item.2.isComment = true) :
    Reader.Run (state.reader file) (fragmentsIn file (state.settled held stream)) .outside := by
  have rests : ∀ d : Definition, d.isComment = true →
      Reader.Step .outside (.definition d) .outside := fun _ comment => .loose (.inl comment)
  fun_induction settled state held stream with
  | case1 state held =>
    rw [fragmentsIn_append]
    exact run_closing.append (run_comments comments rests)
  | case2 state held location d rest comment here ih =>
    rw [fragmentsIn_cons]
    split
    · exact .cons (step_comment comment) (ih comments)
    · exact ih comments
  | case3 state held location d rest comment elsewhere ih =>
    apply ih
    intro item member
    rcases List.mem_append.mp member with member | member
    · exact comments item member
    · obtain rfl := List.mem_singleton.mp member
      exact comment
  | case4 state held location d rest declares front ih =>
    have fronts : Reader.Run (state.reader file) (fragmentsIn file front)
        ((state.advance location d.owner).reader file) := by
      by_cases continues : state.continues location d.owner = true
      · rw [show front = _ from if_pos continues, reader_advance_of_continues continues]
        exact run_comments comments fun _ comment => step_comment comment
      · rw [show front = _ from if_neg continues, fragmentsIn_append, fragmentsIn_append]
        exact (run_closing.append (run_comments comments rests)).append (run_opening location d.owner)
    rw [fragmentsIn_append, fragmentsIn_cons]
    refine fronts.append ?_
    split
    · rename_i here
      exact .cons (step_declaration here) (ih (by simp))
    · exact ih (by simp)

end BlockState

theorem run_collate (env : Environment) {file : Int} {listing : Listing Fragment}
    (found : (collate env)[file]? = some listing) :
    Reader.Run .outside (listing.toList.flatMap Prod.snd) .outside := by
  rw [← map_snd_spread, env.spread_collate found]
  have run : Reader.Run (BlockState.reader file ⟨none, env.parents⟩)
      (fragmentsIn file env.settled) .outside := by
    apply BlockState.run_settled
    simp
  exact run

end DreamDoc
