import DreamDoc.Proofs.Contents
import DreamDoc.Proofs.Stretches

namespace DreamDoc

def declaredIn (file : Int) (stream : List (Location × Definition)) : List (Int × Definition) :=
  stream.filterMap fun item =>
    if item.1.file = file ∧ item.2.isComment = false then some (item.1.line, item.2) else none

def declaredLines (fragments : List (Int × Fragment)) : List (Int × Definition) :=
  fragments.filterMap fun item =>
    (item.2.definition?.filter fun d => !d.isComment).map fun d => (item.1, d)

/-- A part of the declarations of a file that belongs to one class and cannot be made longer. -/
structure MaximalRun (owner : String) (earlier run later : List (Int × Definition)) : Prop where
  nonempty : run ≠ []
  owned : ∀ item ∈ run, item.2.owner = owner
  starts : ∀ item ∈ earlier.getLast?, item.2.owner ≠ owner
  ends : ∀ item ∈ later.head?, item.2.owner ≠ owner

theorem declaredIn_append (file : Int) (stream others : List (Location × Definition)) :
    declaredIn file (stream ++ others) = declaredIn file stream ++ declaredIn file others :=
  List.filterMap_append

theorem declaredIn_cons (file : Int) (item : Location × Definition)
    (rest : List (Location × Definition)) :
    declaredIn file (item :: rest) =
      if item.1.file = file ∧ item.2.isComment = false then
        (item.1.line, item.2) :: declaredIn file rest
      else declaredIn file rest := by
  by_cases kept : item.1.file = file ∧ item.2.isComment = false <;> simp [declaredIn, kept]

theorem declaredLines_inFile (file : Int) (fragments : List (Location × Fragment)) :
    declaredLines (inFile fragments file) = declaredIn file (definitionsOf fragments) := by
  induction fragments with
  | nil => rfl
  | cons item rest ih =>
    obtain ⟨location, fragment⟩ := item
    rw [inFile_cons]
    cases fragment with
    | definition d =>
      rw [definitionsOf_definition, declaredIn_cons, ← ih]
      by_cases here : location.file = file <;> cases kind : d.isComment <;>
        simp [declaredLines, here, kind, Fragment.definition?, Option.filter_some]
    | _ =>
      change _ = declaredIn file (definitionsOf rest)
      rw [← ih]
      split <;> rfl

theorem declaredIn_eq_filterMap (file : Int) (stream : List (Location × Definition)) :
    declaredIn file stream = (stream.filter fun item => !item.2.isComment).filterMap fun item =>
      if item.1.file = file then some (item.1.line, item.2) else none := by
  rw [declaredIn, List.filterMap_filter]
  congr
  funext item
  by_cases here : item.1.file = file <;> cases item.2.isComment <;> simp [here]

theorem ne_of_lastDeclared {file : Int} {stream : List (Location × Definition)} {owner other : String}
    (starts : ∀ item ∈ (declaredIn file stream).getLast?, item.2.owner ≠ owner) {place : Location}
    (found : lastDeclared stream = some (place, other)) (here : place.file = file) :
    other ≠ owner := by
  obtain ⟨item, last, same⟩ := Option.map_eq_some_iff.mp found
  obtain ⟨earlier, split⟩ := List.getLast?_eq_some_iff.mp last
  cases same
  apply starts (item.1.line, item.2)
  rw [declaredIn_eq_filterMap, split, List.filterMap_append]
  simp [here]

theorem ne_of_head {file : Int} {stream : List (Location × Definition)} {owner : String}
    (ends : ∀ item ∈ (declaredIn file stream).head?, item.2.owner ≠ owner)
    {item : Location × Definition}
    (first : (stream.filter fun item => !item.2.isComment).head? = some item)
    (here : item.1.file = file) : item.2.owner ≠ owner := by
  obtain ⟨later, split⟩ := List.head?_eq_some_iff.mp first
  apply ends (item.1.line, item.2)
  rw [declaredIn_eq_filterMap, split]
  simp [here]

theorem exists_first {file : Int} {stream : List (Location × Definition)}
    {first : Int × Definition} {later : List (Int × Definition)}
    (declared : declaredIn file stream = first :: later) :
    ∃ front item rest, stream = front ++ item :: rest ∧ declaredIn file front = [] ∧
      (item.1.file = file ∧ item.2.isComment = false) ∧ declaredIn file rest = later := by
  obtain ⟨front, item, rest, split, absent, found, remaining⟩ :=
    List.filterMap_eq_cons_iff.mp declared
  refine ⟨front, item, rest, split, List.filterMap_eq_nil_iff.mpr absent, ?_, remaining⟩
  split at found
  · assumption
  · cases found

theorem exists_trim {file : Int} {stream : List (Location × Definition)}
    (nonempty : declaredIn file stream ≠ []) :
    ∃ front first middle back, stream = front ++ first :: (middle ++ back) ∧
      declaredIn file front = [] ∧ declaredIn file back = [] ∧
      (first.1.file = file ∧ first.2.isComment = false) ∧
      ∀ last ∈ middle.getLast?, last.1.file = file ∧ last.2.isComment = false := by
  obtain ⟨head, later, declared⟩ := List.exists_cons_of_ne_nil nonempty
  obtain ⟨front, first, rest, rfl, before, opens, remaining⟩ := exists_first declared
  cases final : later.getLast? with
  | none =>
    obtain rfl := List.getLast?_eq_none_iff.mp final
    exact ⟨front, first, [], rest, rfl, before, remaining, opens, by simp⟩
  | some final =>
    obtain ⟨others, rfl⟩ := List.getLast?_eq_some_iff.mp ‹_›
    obtain ⟨early, late, rfl, -, ending⟩ := List.filterMap_eq_append_iff.mp remaining
    obtain ⟨gap, last, back, rfl, -, closes, behind⟩ := exists_first ending
    refine ⟨front, first, early ++ gap ++ [last], back, by simp, before, behind, opens, ?_⟩
    simpa using closes

/-- No comment stands behind a declaration of its own location. -/
def CommentsLead (stream : List (Location × Definition)) : Prop :=
  stream.Pairwise fun item next =>
    item.2.isComment = false → next.2.isComment = true → item.1 ≠ next.1

/-- A maximal run of a file in the stream of all files, from its first declaration to its last. -/
structure RunIn (file : Int) (owner : String) (front : List (Location × Definition))
    (first : Location × Definition) (middle back : List (Location × Definition)) : Prop where
  inOrder : InOrder (front ++ first :: (middle ++ back))
  lead : CommentsLead (front ++ first :: (middle ++ back))
  opens : first.1.file = file ∧ first.2.isComment = false
  closes : ∀ last ∈ middle.getLast?, last.1.file = file ∧ last.2.isComment = false
  maximal : MaximalRun owner (declaredIn file front) (declaredIn file (first :: middle))
    (declaredIn file back)

namespace RunIn

variable {file : Int} {owner : String} {front middle back : List (Location × Definition)}
  {first : Location × Definition}

theorem owner_first (run : RunIn file owner front first middle back) : first.2.owner = owner := by
  apply run.maximal.owned (first.1.line, first.2)
  rw [declaredIn_cons, if_pos run.opens]
  exact List.mem_cons_self

theorem last_declares (run : RunIn file owner front first middle back) :
    (middle.getLastD first).1.file = file ∧ (middle.getLastD first).2.isComment = false := by
  rw [List.getLastD_eq_getLast?]
  cases final : middle.getLast? with
  | none => exact run.opens
  | some last => exact run.closes last final

theorem le_first (run : RunIn file owner front first middle back) {item : Location × Definition}
    (member : item ∈ front) : item.1 ≤ first.1 :=
  Location.isLE_compare.mp
    ((List.pairwise_append.mp run.inOrder).2.2 item member first List.mem_cons_self)

theorem first_le (run : RunIn file owner front first middle back) {item : Location × Definition}
    (member : item ∈ middle ++ back) : first.1 ≤ item.1 :=
  Location.isLE_compare.mp
    ((List.pairwise_cons.mp (List.pairwise_append.mp run.inOrder).2.1).1 item member)

theorem le_last (run : RunIn file owner front first middle back) {item : Location × Definition}
    (member : item ∈ middle) : item.1 ≤ (middle.getLastD first).1 := by
  have inner := (List.pairwise_cons.mp (List.pairwise_append.mp run.inOrder).2.1).2
  have ordered := (List.pairwise_append.mp inner).1
  rw [List.getLastD_eq_getLast?]
  cases final : middle.getLast? with
  | none =>
    rw [List.getLast?_eq_none_iff.mp final] at member
    cases member
  | some last =>
    obtain ⟨others, rfl⟩ := List.getLast?_eq_some_iff.mp final
    rcases List.mem_append.mp member with among | same
    · exact Location.isLE_compare.mp
        ((List.pairwise_append.mp ordered).2.2 item among last List.mem_cons_self)
    · rw [List.mem_singleton.mp same]
      exact Location.le_refl _

theorem own (run : RunIn file owner front first middle back) {item : Location × Definition}
    (member : item ∈ middle) (declares : item.2.isComment = false) :
    item.2.owner = owner ∧ item.1.file = first.1.file := by
  have low := Location.file_le (run.first_le (List.mem_append_left back member))
  have high := Location.file_le (run.le_last member)
  have here : item.1.file = file := by
    have opens := run.opens.1
    have closes := run.last_declares.1
    omega
  refine ⟨?_, here.trans run.opens.1.symm⟩
  apply run.maximal.owned (item.1.line, item.2)
  exact List.mem_filterMap.mpr ⟨item, List.mem_cons_of_mem _ member, if_pos ⟨here, declares⟩⟩

theorem last_lt (run : RunIn file owner front first middle back) {item : Location × Definition}
    (member : item ∈ back) (comment : item.2.isComment = true) :
    (middle.getLastD first).1 < item.1 := by
  have split : front ++ first :: (middle ++ back) = (front ++ first :: middle) ++ back := by simp
  have last : middle.getLastD first ∈ front ++ first :: middle :=
    List.mem_append_right front List.getLastD_mem_cons
  have order := run.inOrder
  have lead := run.lead
  rw [split] at order lead
  apply Location.lt_of_le_of_ne
  · exact Location.isLE_compare.mp ((List.pairwise_append.mp order).2.2 _ last item member)
  · exact (List.pairwise_append.mp lead).2.2 _ last item member run.last_declares.2 comment

theorem first_lt (run : RunIn file owner front first middle back) {item : Location × Definition}
    (member : item ∈ first :: middle) (comment : item.2.isComment = true) : first.1 < item.1 := by
  rcases List.mem_cons.mp member with rfl | member
  · simp [run.opens.2] at comment
  · have later : item ∈ middle ++ back := List.mem_append_left back member
    have lead := (List.pairwise_cons.mp (List.pairwise_append.mp run.lead).2.1).1
    exact Location.lt_of_le_of_ne (run.first_le later) (lead item later run.opens.2 comment)

theorem starts (run : RunIn file owner front first middle back) {state : BlockState}
    (last : state.last = lastDeclared front) : state.continues first.1 owner = false := by
  cases found : state.last with
  | none => simp [BlockState.continues, found]
  | some pair =>
    rw [state.continues_of_last found, decide_eq_false_iff_not]
    rintro ⟨same, sameFile⟩
    rw [last] at found
    exact ne_of_lastDeclared run.maximal.starts found (sameFile.symm.trans run.opens.1) same.symm

theorem ended (run : RunIn file owner front first middle back) {state : BlockState}
    (last : state.last = some ((middle.getLastD first).1, owner)) :
    ∀ item ∈ (back.filter fun item => !item.2.isComment).head?,
      state.continues item.1 item.2.owner = false := by
  intro item next
  rw [state.continues_of_last last, decide_eq_false_iff_not]
  rintro ⟨same, sameFile⟩
  exact ne_of_head run.maximal.ends next (sameFile.trans run.last_declares.1) same

theorem exists_block (run : RunIn file owner front first middle back) (named : owner ≠ "")
    (parents : Std.ExtTreeMap String String) :
    ∃ before parent after,
      BlockState.settled ⟨none, parents⟩ [] (front ++ first :: (middle ++ back)) =
        before ++ (heading owner parent).map (fun fragment => (first.1, fragment)) ++
          (first :: middle).map placeDefinition ++
          ((middle.getLastD first).1, .closeBrace) :: after ∧
      definitionsOf before = front ∧ definitionsOf after = back := by
  obtain ⟨read, state, kept, split, definitions, tidy, last⟩ :=
    BlockState.exists_settled_append (.start run.inOrder parents)
  rw [Option.or_none] at last
  -- The first declaration opens the block.
  have opens : state.continues first.1 first.2.owner = false := run.owner_first ▸ run.starts last
  have tidy := tidy.advance first.2.owner
  have start := state.settled_declaration run.opens.2 kept first.1 (middle ++ back)
  rw [BlockState.leading, opens] at start
  -- The other declarations of the run and the comments between them go on with it.
  obtain ⟨next, goesOn, tidy, reached⟩ := BlockState.exists_settled_stretch tidy rfl
    (fun item member declares => run.owner_first ▸ run.own member declares)
    (fun final found => (run.closes final found).2)
  have reached : next.last = some ((middle.getLastD first).1, owner) := by
    rw [reached, run.owner_first, List.getLastD_eq_getLast?]
    cases middle.getLast? <;> rfl
  -- Nothing of the run is left, so the block is closed.
  have behind : ∀ item ∈ back, item.2.isComment = true →
      next.last.map Prod.fst ≠ some item.1 := by
    intro item member comment
    rw [reached]
    exact fun same => Location.ne_of_lt (run.last_lt member comment) (Option.some.inj same)
  have closes : next.settled [] back =
      next.closing ++ BlockState.settled ⟨none, next.parents⟩ [] back :=
    BlockState.settled_ended (run.ended reached) behind
  refine ⟨read ++ state.closing ++ kept.map placeDefinition, state.parents[owner]?,
    BlockState.settled ⟨none, next.parents⟩ [] back, ?_, ?_, ?_⟩
  · rw [split, start, goesOn, closes, next.closing_of_last reached, if_neg named, run.owner_first,
      state.opening_eq, if_neg named]
    simp [placeDefinition]
  · rw [definitionsOf_append, definitionsOf_append, state.definitionsOf_closing,
      definitionsOf_placeDefinition, List.append_nil, definitions, List.nil_append]
  · exact BlockState.definitionsOf_settled
      (.start (List.pairwise_append.mp tidy.inOrder).2.1 next.parents)

theorem comment_iff (run : RunIn file owner front first middle back) {line : Int} {d : Definition}
    (comment : d.isComment = true)
    (member : (⟨file, line⟩, d) ∈ front ++ first :: (middle ++ back)) :
    ((⟨file, line⟩, d) ∈ first :: middle ↔
      first.1.line < line ∧ line ≤ (middle.getLastD first).1.line) ∧
    ((⟨file, line⟩, d) ∈ front ++ back ↔
      ¬(first.1.line < line ∧ line ≤ (middle.getLastD first).1.line)) := by
  have opens := run.opens.1
  have closes := run.last_declares.1
  have inside : (⟨file, line⟩, d) ∈ first :: middle →
      first.1.line < line ∧ line ≤ (middle.getLastD first).1.line := by
    intro within
    have less := run.first_lt within comment
    rcases List.mem_cons.mp within with rfl | within
    · exact absurd rfl (Location.ne_of_lt less)
    · have above := Location.lt_iff.mp less
      have below := Location.le_iff.mp (run.le_last within)
      simp only at above below
      omega
  have outside : (⟨file, line⟩, d) ∈ front ++ back →
      ¬(first.1.line < line ∧ line ≤ (middle.getLastD first).1.line) := by
    intro elsewhere
    rcases List.mem_append.mp elsewhere with ahead | behind
    · have before := Location.le_iff.mp (run.le_first ahead)
      simp only at before
      omega
    · have after := Location.lt_iff.mp (run.last_lt behind comment)
      simp only at after
      omega
  have somewhere : (⟨file, line⟩, d) ∈ first :: middle ∨ (⟨file, line⟩, d) ∈ front ++ back := by
    grind
  exact ⟨⟨inside, fun between => somewhere.resolve_right fun away => outside away between⟩,
    ⟨outside, fun apart => somewhere.resolve_left fun within => apart (inside within)⟩⟩

theorem head?_declared (run : RunIn file owner front first middle back) :
    (declaredIn file (first :: middle)).head? = some (first.1.line, first.2) := by
  rw [declaredIn_cons, if_pos run.opens]
  rfl

theorem getLast?_declared (run : RunIn file owner front first middle back) :
    (declaredIn file (first :: middle)).getLast? =
      some ((middle.getLastD first).1.line, (middle.getLastD first).2) := by
  have final : (first :: middle).getLast? = some (middle.getLastD first) := by
    rw [List.getLast?_cons, List.getLastD_eq_getLast?]
  obtain ⟨others, split⟩ := List.getLast?_eq_some_iff.mp final
  rw [split, declaredIn_append, declaredIn_cons, if_pos run.last_declares]
  exact List.getLast?_concat

end RunIn

theorem exists_runIn {file : Int} {owner : String} {stream : List (Location × Definition)}
    (inOrder : InOrder stream) (lead : CommentsLead stream)
    {earlier run later : List (Int × Definition)}
    (declared : declaredIn file stream = earlier ++ run ++ later)
    (maximal : MaximalRun owner earlier run later) :
    ∃ front first middle back, stream = front ++ first :: (middle ++ back) ∧
      RunIn file owner front first middle back ∧ declaredIn file front = earlier ∧
      declaredIn file (first :: middle) = run ∧ declaredIn file back = later := by
  obtain ⟨upTo, behind, rfl, before, rfl⟩ := List.filterMap_eq_append_iff.mp declared
  obtain ⟨early, stretch, rfl, rfl, rfl⟩ := List.filterMap_eq_append_iff.mp before
  change MaximalRun owner (declaredIn file early) (declaredIn file stretch)
    (declaredIn file behind) at maximal
  obtain ⟨gap, first, middle, rest, rfl, noneBefore, noneBehind, opens, closes⟩ :=
    exists_trim maximal.nonempty
  have front : declaredIn file (early ++ gap) = declaredIn file early := by
    rw [declaredIn_append, noneBefore, List.append_nil]
  have inside : declaredIn file (gap ++ first :: (middle ++ rest)) =
      declaredIn file (first :: middle) := by
    rw [← List.cons_append, declaredIn_append, declaredIn_append, noneBefore, noneBehind,
      List.append_nil, List.nil_append]
  have back : declaredIn file (rest ++ behind) = declaredIn file behind := by
    rw [declaredIn_append, noneBehind, List.nil_append]
  have split : early ++ (gap ++ first :: (middle ++ rest)) ++ behind =
      (early ++ gap) ++ first :: (middle ++ (rest ++ behind)) := by simp
  rw [inside, ← front, ← back] at maximal
  exact ⟨early ++ gap, first, middle, rest ++ behind, split,
    ⟨split ▸ inOrder, split ▸ lead, opens, closes, maximal⟩, front, inside.symm, back⟩

theorem Environment.isComment_of_mem_commentsAt {env : Environment} {location : Location}
    {d : Definition} (member : d ∈ env.commentsAt location) : d.isComment = true := by
  obtain ⟨comment, -, rfl⟩ := List.mem_map.mp member
  rfl

theorem Environment.commentsLead_stream (env : Environment) : CommentsLead env.stream := by
  change (spread (gather env.definitions).toList).Pairwise _
  rw [spread, List.pairwise_flatMap]
  refine ⟨?_, (ascending_gather env.definitions).imp ?_⟩
  · rintro ⟨location, held⟩ member
    obtain ⟨-, rfl⟩ := mem_toList_gather.mp member
    rw [List.pairwise_map, env.itemsAt_definitions, List.pairwise_append]
    have lead : ∀ d ∈ env.commentsAt location, ∀ e : Definition,
        d.isComment = false → e.isComment = true → location ≠ location := by
      intro d comment e declares
      rw [isComment_of_mem_commentsAt comment] at declares
      cases declares
    have follow : ∀ d : Definition, ∀ e ∈ env.tree.membersAt location,
        d.isComment = false → e.isComment = true → location ≠ location := by
      intro d e declared _ comment
      rw [TypeNode.isComment_of_mem_membersAt declared] at comment
      cases comment
    exact ⟨List.pairwise_of_forall_mem_list fun d member e _ => lead d member e,
      List.pairwise_of_forall_mem_list fun d _ e member => follow d e member,
      fun d member e _ => lead d member e⟩
  · intro group next less item member other inside _ _
    obtain ⟨d, -, rfl⟩ := List.mem_map.mp member
    obtain ⟨e, -, rfl⟩ := List.mem_map.mp inside
    exact ne_of_compare_lt less

theorem mem_inFile_definition {fragments : List (Location × Fragment)} {file line : Int}
    {d : Definition} :
    (line, .definition d) ∈ inFile fragments file ↔ (⟨file, line⟩, d) ∈ definitionsOf fragments := by
  rw [mem_inFile, mem_definitionsOf]

/-- A comment of a file stands inside the block of a maximal run if and only if it is located behind
the line of the first declaration of the run and not behind the line of the last one. -/
theorem comment_scope (env : Environment) (file : Int) (owner : String) (named : owner ≠ "")
    (earlier run later : List (Int × Definition))
    (declared : declaredIn file env.stream = earlier ++ run ++ later)
    (maximal : MaximalRun owner earlier run later) :
    ∃ listing, (collate env)[file]? = some listing ∧
      ∃ first ∈ run.head?, ∃ last ∈ run.getLast?, ∃ before parent inside after,
        spread listing.toList =
          before ++ (heading owner parent).map (fun fragment => (first.1, fragment)) ++ inside ++
            (last.1, .closeBrace) :: after ∧
        declaredLines before = earlier ∧ declaredLines inside = run ∧
        declaredLines after = later ∧ (∀ item ∈ inside, item.2.isScaffold = false) ∧
        ∀ comment ∈ env.comments, comment.location.file = file →
          let line := comment.location.line
          let item := (line, Fragment.definition ⟨"", comment.text, true⟩)
          (item ∈ inside ↔ first.1 < line ∧ line ≤ last.1) ∧
          (item ∈ before ++ after ↔ ¬(first.1 < line ∧ line ≤ last.1)) := by
  obtain ⟨front, first, middle, back, whole, runIn, rfl, rfl, rfl⟩ :=
    exists_runIn env.inOrder_stream env.commentsLead_stream declared maximal
  obtain ⟨before, parent, after, split, start, rest⟩ := runIn.exists_block named env.parents
  rw [← whole] at split
  have reading : inFile env.settled file = inFile before file ++
      (heading owner parent).map (fun fragment => (first.1.line, fragment)) ++
      inFile ((first :: middle).map placeDefinition) file ++
      ((middle.getLastD first).1.line, .closeBrace) :: inFile after file := by
    rw [Environment.settled, split, inFile_append, inFile_append, inFile_append, inFile_const,
      if_pos runIn.opens.1, inFile_cons, if_pos runIn.last_declares.1]
  have present : inFile env.settled file ≠ [] := by
    rw [reading]
    simp
  have inOrder := BlockState.inOrder_settled (.start env.inOrder_stream env.parents)
  refine ⟨gather (inFile env.settled file), ?_, _, runIn.head?_declared, _,
    runIn.getLast?_declared, inFile before file, parent,
    inFile ((first :: middle).map placeDefinition) file, inFile after file, ?_, ?_, ?_, ?_, ?_, ?_⟩
  · rw [env.collate_eq, Tree.getElem?_ofStream, if_neg present]
  · exact (spread_gather (inOrder_inFile inOrder file)).trans reading
  · rw [declaredLines_inFile, start]
  · rw [declaredLines_inFile, definitionsOf_placeDefinition]
  · rw [declaredLines_inFile, rest]
  · rintro ⟨line, fragment⟩ member
    obtain ⟨source, -, same⟩ := List.mem_map.mp (mem_inFile.mp member)
    obtain rfl : .definition source.2 = fragment := congrArg Prod.snd same
    rfl
  · rintro ⟨⟨_, line⟩, text⟩ member rfl
    have source : (⟨_, line⟩, ⟨"", text, true⟩) ∈ env.stream :=
      env.mem_stream.mpr (List.mem_append_left _ (List.mem_map.mpr ⟨_, member, rfl⟩))
    rw [whole] at source
    have scope := runIn.comment_iff rfl source
    simp only [List.mem_append, mem_inFile_definition, start, rest,
      definitionsOf_placeDefinition] at scope ⊢
    exact scope

def commentedRuns : Environment where
  files := ∅
  tree := ⟨"", ⟨1, 1⟩, none, ∅, ∅,
    [⟨"/a", ⟨1, 1⟩, none, .ofList [("x", ⟨⟨1, 3⟩, none⟩)], ∅, []⟩,
      ⟨"/b", ⟨1, 3⟩, none, ∅, ∅, []⟩]⟩
  comments := [⟨⟨1, 1⟩, "// 1"⟩, ⟨⟨1, 2⟩, "// 2"⟩, ⟨⟨1, 3⟩, "// 3"⟩, ⟨⟨1, 4⟩, "// 4"⟩]

theorem comment_scope_commentedRuns :
    let run : List (Int × Definition) := [(1, ⟨"a", "", false⟩), (3, ⟨"a", " x;", false⟩)]
    let later : List (Int × Definition) := [(3, ⟨"b", "", false⟩)]
    let comment (text : String) : Fragment := .definition ⟨"", text, true⟩
    "a" ≠ "" ∧ declaredIn 1 commentedRuns.stream = [] ++ run ++ later ∧
      MaximalRun "a" [] run later ∧
      ∃ listing, (collate commentedRuns)[(1 : Int)]? = some listing ∧
        ∃ before parent inside after, spread listing.toList =
            before ++ (heading "a" parent).map (fun fragment => (1, fragment)) ++ inside ++
              (3, .closeBrace) :: after ∧
          (1, comment "// 1") ∉ inside ∧ (2, comment "// 2") ∈ inside ∧
          (3, comment "// 3") ∈ inside ∧ (4, comment "// 4") ∉ inside := by
  intro run later comment
  have named : "a" ≠ "" := by decide
  have declared : declaredIn 1 commentedRuns.stream = [] ++ run ++ later := by decide +kernel
  have maximal : MaximalRun "a" [] run later := ⟨by decide, by decide, by decide, by decide⟩
  obtain ⟨listing, found, first, opens, last, closes, before, parent, inside, after, split, -, -, -,
    -, scope⟩ := comment_scope commentedRuns 1 "a" named [] run later declared maximal
  cases opens
  cases closes
  have within (line : Int) (text : String) (member : ⟨⟨1, line⟩, text⟩ ∈ commentedRuns.comments) :
      (line, comment text) ∈ inside ↔ 1 < line ∧ line ≤ 3 := (scope _ member rfl).1
  refine ⟨named, declared, maximal, listing, found, before, parent, inside, after, split, ?_⟩
  rw [within 1 _ (by decide), within 2 _ (by decide), within 3 _ (by decide),
    within 4 _ (by decide)]
  decide

end DreamDoc
