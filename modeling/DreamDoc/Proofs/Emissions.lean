import DreamDoc.Emission
import DreamDoc.Proofs.Streams
import DreamDoc.Proofs.Targets

namespace DreamDoc

/-- Where the listing of a file goes, unless it is built in or the file is not known. -/
def Environment.target? (env : Environment) (base : Path) (id : Int) : Option Path :=
  if id = builtinsFile then none else (env.filePath? id).map (pseudoSourcePath base)

def Environment.summary? (env : Environment) (entry : Int × Listing String) : Option Summary :=
  let label? := if entry.1 = builtinsFile then some (builtinsLabel env) else env.filePath? entry.1
  label?.map fun label =>
    ⟨label, entry.2.toList.length, (entry.2.toList.flatMap Prod.snd).length⟩

def Environment.listings (env : Environment) : Tree String :=
  Tree.mapFragments Fragment.text (collate env)

theorem mem_listings {env : Environment} {file : Int} :
    file ∈ env.listings ↔ file ∈ collate env :=
  Std.ExtTreeMap.mem_map

theorem Summary.ofListing_eq (label : String) (listing : Listing String) :
    ofListing label listing =
      ⟨label, listing.toList.length, (listing.toList.flatMap Prod.snd).length⟩ := by
  rw [ofListing, Listing.fragmentCount, Std.ExtTreeMap.length_toList]

namespace FileSystem

variable {fs later : FileSystem} {target : Path} {contents : ByteArray}

structure Ready (fs : FileSystem) (target : Path) : Prop where
  directory : ∃ place, fs.locate target.parent = .ok (.directory place)
  file : ∃ place contents, fs.locate target = .ok (.file place contents)

theorem Ready.mono (ready : Ready fs target) (grows : Grows fs later) : Ready later target := by
  obtain ⟨⟨place, located⟩, ⟨filed, contents, found⟩⟩ := ready
  obtain ⟨held, found⟩ := grows.locate_file found
  exact ⟨⟨place, grows.locate_directory located⟩, ⟨filed, held, found⟩⟩

theorem place_eq_ok (placed : fs.place target contents = (later, .ok ())) :
    Confined (· = target) target.parent fs later ∧
      (∃ place, later.locate target = .ok (.file place contents)) ∧
      ∃ place, later.locate target.parent = .ok (.directory place) := by
  have prepared := fs.makeDirectories_prepares target.parent
  unfold place at placed
  cases made : fs.makeDirectories target.parent with
  | mk middle outcome =>
    rw [made] at prepared placed
    cases outcome with
    | error failure => simp at placed
    | ok done =>
      cases wrote : middle.writeFile target contents with
      | error failure => simp [wrote] at placed
      | ok written =>
        simp only [wrote, Prod.mk.injEq, and_true] at placed
        subst placed
        obtain ⟨place, -, -, grows, located⟩ := writeFile_eq_ok wrote
        obtain ⟨directory, reached⟩ := prepared.reached rfl
        have directories : Confined (· = target) target.parent fs middle :=
          prepared.confined.mono (by simp) (.refl _)
        exact ⟨directories.trans (writeFile_confined wrote _), ⟨place, located⟩,
          directory, grows.locate_directory reached⟩

theorem place_of_ready {place : List String} {held : ByteArray}
    (ready : Ready fs target) (located : fs.locate target = .ok (.file place held)) :
    fs.place target contents = (fs.set place (.file contents), .ok ()) := by
  obtain ⟨directory, reached⟩ := ready.directory
  simp [FileSystem.place, makeDirectories_of_directory reached, writeFile, located]

end FileSystem

/-- What the emission of one file comes to if it succeeds. -/
structure EmitsFile (env : Environment) (base : Path) (id : Int) (listing : Listing String)
    (world after : World) : Prop where
  output : after.output =
    world.output ++ (if id = builtinsFile then listing.render.toUTF8 else .empty)
  unplaced : env.target? base id = none → after.files = world.files
  placed : ∀ target, env.target? base id = some target →
    world.files.place target listing.render.toUTF8 = (after.files, .ok ())
  renderable : listing.isRenderable = true

theorem emitListing_eq_ok {env : Environment} {base : Path} {id : Int} {listing : Listing String}
    {world after : World} {summary : Option Summary} (renderable : listing.isRenderable = true)
    (emitted : emitListing env base id listing world = (after, .ok summary)) :
    EmitsFile env base id listing world after ∧ summary = env.summary? (id, listing) := by
  unfold emitListing at emitted
  by_cases builtin : id = builtinsFile
  · simp only [builtin, if_true, Prod.mk.injEq, Except.ok.injEq] at emitted
    obtain ⟨rfl, rfl⟩ := emitted
    refine ⟨⟨?_, ?_, ?_, renderable⟩, ?_⟩
    · simp [builtin, World.note, World.put]
    · exact fun _ => rfl
    · simp [Environment.target?, builtin]
    · simp [Environment.summary?, builtin, Summary.ofListing_eq]
  · cases known : env.filePath? id with
    | none =>
      simp only [builtin, if_false, known, Prod.mk.injEq, Except.ok.injEq] at emitted
      obtain ⟨rfl, rfl⟩ := emitted
      refine ⟨⟨?_, ?_, ?_, renderable⟩, ?_⟩
      · simp [builtin, World.note]
      · exact fun _ => rfl
      · simp [Environment.target?, known]
      · simp [Environment.summary?, builtin, known]
    | some source =>
      simp only [builtin, if_false, known] at emitted
      cases placed : world.files.place (pseudoSourcePath base source) listing.render.toUTF8 with
      | mk files outcome =>
        cases outcome with
        | error failure =>
          rw [placed] at emitted
          simp at emitted
        | ok done =>
          simp only [placed, Prod.mk.injEq, Except.ok.injEq] at emitted
          obtain ⟨rfl, rfl⟩ := emitted
          refine ⟨⟨?_, ?_, ?_, renderable⟩, ?_⟩
          · simp [builtin, World.note]
          · simp [Environment.target?, builtin, known]
          · simpa [Environment.target?, builtin, known, World.note] using placed
          · simp [Environment.summary?, builtin, known, Summary.ofListing_eq]

theorem emitFile_eq_ok {env : Environment} {base : Path} {id : Int} {listing : Listing String}
    {world after : World} {summary : Option Summary}
    (emitted : emitFile env base id listing world = (after, .ok summary)) :
    EmitsFile env base id listing world after ∧ summary = env.summary? (id, listing) := by
  unfold emitFile at emitted
  split at emitted
  · rename_i renderable
    exact emitListing_eq_ok renderable emitted
  · cases emitted

theorem emitAll_cons_eq_ok {env : Environment} {base : Path} {id : Int} {listing : Listing String}
    {rest : List (Int × Listing String)} {world after : World} {summaries : List Summary} :
    emitAll env base ((id, listing) :: rest) world = (after, .ok summaries) ↔
      ∃ middle first others, emitFile env base id listing world = (middle, .ok first) ∧
        emitAll env base rest middle = (after, .ok others) ∧
        summaries = first.toList ++ others := by
  rw [emitAll]
  cases emitted : emitFile env base id listing world with
  | mk middle outcome =>
    cases outcome with
    | error failure => simp
    | ok first =>
      constructor
      · intro whole
        cases remaining : emitAll env base rest middle with
        | mk last outcome =>
          cases outcome with
          | error failure => simp [remaining, Except.map] at whole
          | ok others =>
            simp only [remaining, Except.map, Prod.mk.injEq, Except.ok.injEq] at whole
            obtain ⟨rfl, rfl⟩ := whole
            exact ⟨middle, first, others, rfl, remaining, rfl⟩
      · rintro ⟨_, _, others, ⟨⟩, remaining, rfl⟩
        simp [remaining, Except.map]

section Agreement

variable {env : Environment} {base : Path} {world other : World}

/-- Two attempts have the same outcome and leave the same files. -/
def Attempt.Agrees {α : Type} (attempt other : Attempt α) : Prop :=
  attempt.1.files = other.1.files ∧ attempt.2 = other.2

theorem emitListing_agrees (same : world.files = other.files) (id : Int)
    (listing : Listing String) :
    (emitListing env base id listing world).Agrees (emitListing env base id listing other) := by
  unfold emitListing Attempt.Agrees
  by_cases builtin : id = builtinsFile
  · simp [builtin, World.note, World.put, same]
  · cases env.filePath? id with
    | none => simp [builtin, World.note, same]
    | some source =>
      simp only [builtin, if_false, same]
      split <;> simp [World.note]

theorem emitFile_agrees (same : world.files = other.files) (id : Int) (listing : Listing String) :
    (emitFile env base id listing world).Agrees (emitFile env base id listing other) := by
  unfold emitFile
  split
  · exact emitListing_agrees same id listing
  · exact ⟨same, rfl⟩

theorem emitAll_agrees (same : world.files = other.files) (files : List (Int × Listing String)) :
    (emitAll env base files world).Agrees (emitAll env base files other) := by
  induction files generalizing world other with
  | nil => exact ⟨same, rfl⟩
  | cons entry files ih =>
    obtain ⟨id, listing⟩ := entry
    have first : (emitFile env base id listing world).Agrees
        (emitFile env base id listing other) := emitFile_agrees same id listing
    rw [emitAll, emitAll]
    cases emitted : emitFile env base id listing world with
    | mk middle outcome =>
      cases again : emitFile env base id listing other with
      | mk twin result =>
        rw [emitted, again] at first
        obtain ⟨files, rfl⟩ : middle.files = twin.files ∧ outcome = result := first
        cases outcome with
        | error failure => exact ⟨files, rfl⟩
        | ok summary =>
          obtain ⟨onward, outcomes⟩ := ih files
          exact ⟨onward, congrArg (Except.map (summary.toList ++ ·)) outcomes⟩

end Agreement

section Run

variable {env : Environment} {base : Path} {files : List (Int × Listing String)}
  {world after : World} {summaries : List Summary}

theorem emitAll_split {earlier later : List (Int × Listing String)} {id : Int}
    {listing : Listing String}
    (emitted : emitAll env base (earlier ++ (id, listing) :: later) world =
      (after, .ok summaries)) :
    ∃ middle next first others, emitAll env base earlier world = (middle, .ok first) ∧
      EmitsFile env base id listing middle next ∧
      emitAll env base later next = (after, .ok others) := by
  induction earlier generalizing world summaries with
  | nil =>
    obtain ⟨next, summary, others, here, rest, -⟩ := emitAll_cons_eq_ok.mp emitted
    obtain ⟨emits, -⟩ := emitFile_eq_ok here
    exact ⟨world, next, [], others, rfl, emits, rest⟩
  | cons entry earlier ih =>
    obtain ⟨start, summary, _, here, rest, -⟩ := emitAll_cons_eq_ok.mp emitted
    obtain ⟨middle, next, first, others, reached, emits, remaining⟩ := ih rest
    refine ⟨middle, next, summary.toList ++ first, others, ?_, emits, remaining⟩
    exact emitAll_cons_eq_ok.mpr ⟨start, summary, first, here, reached, rfl⟩

theorem emitAll_summaries (emitted : emitAll env base files world = (after, .ok summaries)) :
    summaries = files.filterMap env.summary? := by
  induction files generalizing world summaries with
  | nil =>
    cases emitted
    rfl
  | cons entry files ih =>
    obtain ⟨next, first, others, here, rest, rfl⟩ := emitAll_cons_eq_ok.mp emitted
    obtain ⟨-, rfl⟩ := emitFile_eq_ok here
    rw [ih rest, List.filterMap_cons]
    cases env.summary? entry <;> rfl

theorem emitAll_output_of_absent (absent : ∀ entry ∈ files, entry.1 ≠ builtinsFile)
    (emitted : emitAll env base files world = (after, .ok summaries)) :
    after.output = world.output := by
  induction files generalizing world summaries with
  | nil =>
    cases emitted
    rfl
  | cons entry files ih =>
    obtain ⟨next, first, others, here, rest, -⟩ := emitAll_cons_eq_ok.mp emitted
    obtain ⟨emits, -⟩ := emitFile_eq_ok here
    rw [ih (fun other member => absent other (List.mem_cons_of_mem _ member)) rest, emits.output,
      if_neg (absent entry List.mem_cons_self), ByteArray.append_empty]

theorem emitAll_output (ascending : Ascending files)
    (emitted : emitAll env base files world = (after, .ok summaries)) {listing : Listing String}
    (member : (builtinsFile, listing) ∈ files) :
    after.output = world.output ++ listing.render.toUTF8 := by
  obtain ⟨earlier, later, rfl⟩ := List.append_of_mem member
  obtain ⟨-, behind, before⟩ := List.pairwise_append.mp ascending
  obtain ⟨middle, next, first, others, reached, emits, rest⟩ := emitAll_split emitted
  have unmentioned : middle.output = world.output := by
    refine emitAll_output_of_absent ?_ reached
    exact fun entry inside => ne_of_compare_lt (before entry inside _ List.mem_cons_self)
  have finished : after.output = next.output := by
    refine emitAll_output_of_absent ?_ rest
    intro entry inside
    exact (ne_of_compare_lt ((List.pairwise_cons.mp behind).1 entry inside)).symm
  rw [finished, emits.output, if_pos rfl, unmentioned]

def IsTarget (env : Environment) (base : Path) (files : List (Int × Listing String))
    (target : Path) : Prop :=
  ∃ entry ∈ files, env.target? base entry.1 = some target

theorem source_of_target {id : Int} {target : Path} (aimed : env.target? base id = some target) :
    ∃ source, pseudoSourcePath base source = target := by
  unfold Environment.target? at aimed
  split at aimed
  · cases aimed
  · obtain ⟨source, -, same⟩ := Option.map_eq_some_iff.mp aimed
    exact ⟨source, same⟩

theorem IsTarget.exists_source {target : Path} (aimed : IsTarget env base files target) :
    ∃ source, pseudoSourcePath base source = target := by
  obtain ⟨entry, -, own⟩ := aimed
  exact source_of_target own

theorem EmitsFile.confined {id : Int} {listing : Listing String}
    (emits : EmitsFile env base id listing world after) :
    FileSystem.Confined (fun target => env.target? base id = some target)
      (base.join outputDirectory) world.files after.files := by
  cases aimed : env.target? base id with
  | none =>
    rw [emits.unplaced aimed]
    exact .refl _ _ _
  | some target =>
    obtain ⟨source, rfl⟩ := source_of_target aimed
    obtain ⟨confined, -⟩ := FileSystem.place_eq_ok (emits.placed _ aimed)
    exact confined.mono (fun _ same => by rw [same]) (parent_pseudoSourcePath_leadsTo base source)

theorem emitAll_confined (emitted : emitAll env base files world = (after, .ok summaries)) :
    FileSystem.Confined (IsTarget env base files) (base.join outputDirectory) world.files
      after.files := by
  induction files generalizing world summaries with
  | nil =>
    cases emitted
    exact .refl _ _ _
  | cons entry files ih =>
    obtain ⟨next, first, others, here, rest, -⟩ := emitAll_cons_eq_ok.mp emitted
    obtain ⟨emits, -⟩ := emitFile_eq_ok here
    refine FileSystem.Confined.trans (emits.confined.mono ?_ (.refl _))
      ((ih rest).mono ?_ (.refl _))
    · intro target aimed
      exact ⟨entry, List.mem_cons_self, aimed⟩
    · rintro target ⟨other, member, aimed⟩
      exact ⟨other, List.mem_cons_of_mem _ member, aimed⟩

theorem emitAll_ready (emitted : emitAll env base files world = (after, .ok summaries))
    {target : Path} (aimed : IsTarget env base files target) : after.files.Ready target := by
  obtain ⟨entry, member, aimed⟩ := aimed
  obtain ⟨earlier, later, rfl⟩ := List.append_of_mem member
  obtain ⟨middle, next, first, others, -, emits, rest⟩ := emitAll_split emitted
  obtain ⟨-, ⟨place, located⟩, directory⟩ := FileSystem.place_eq_ok (emits.placed target aimed)
  have ready : next.files.Ready target := ⟨directory, place, _, located⟩
  exact ready.mono (emitAll_confined rest).grows

theorem emitAll_holds {earlier later : List (Int × Listing String)} {id : Int}
    {listing : Listing String} {target : Path} (aimed : env.target? base id = some target)
    (last : ¬IsTarget env base later target)
    (emitted : emitAll env base (earlier ++ (id, listing) :: later) world =
      (after, .ok summaries)) :
    ∃ place, after.files.locate target = .ok (.file place listing.render.toUTF8) := by
  obtain ⟨middle, next, first, others, -, emits, rest⟩ := emitAll_split emitted
  obtain ⟨-, ⟨place, located⟩, -⟩ := FileSystem.place_eq_ok (emits.placed target aimed)
  obtain ⟨source, rfl⟩ := source_of_target aimed
  exact ⟨place, locate_of_apart (fun _ also => also.exists_source) last (emitAll_confined rest)
    located⟩

theorem emitFile_of_placed {id : Int} {listing : Listing String}
    (renderable : listing.isRenderable = true)
    (placed : ∀ target, env.target? base id = some target →
      ∃ later, world.files.place target listing.render.toUTF8 = (later, .ok ())) :
    ∃ next summary, emitFile env base id listing world = (next, .ok summary) := by
  rw [emitFile, if_pos renderable, emitListing]
  by_cases builtin : id = builtinsFile
  · simp [builtin]
  · cases known : env.filePath? id with
    | none => simp [builtin]
    | some source =>
      obtain ⟨later, placed⟩ := placed (pseudoSourcePath base source) (by
        simp [Environment.target?, builtin, known])
      rw [if_neg builtin]
      simp only [placed]
      exact ⟨_, _, rfl⟩

theorem emitAll_renderable (emitted : emitAll env base files world = (after, .ok summaries)) :
    ∀ entry ∈ files, entry.2.isRenderable = true := by
  intro entry member
  obtain ⟨earlier, later, rfl⟩ := List.append_of_mem member
  obtain ⟨middle, next, first, others, -, emits, -⟩ := emitAll_split emitted
  exact emits.renderable

theorem emitAll_again (renderable : ∀ entry ∈ files, entry.2.isRenderable = true)
    (ready : ∀ target, IsTarget env base files target → world.files.Ready target) :
    ∃ next summaries, emitAll env base files world = (next, .ok summaries) ∧
      FileSystem.SamePlaces world.files next.files := by
  induction files generalizing world with
  | nil => exact ⟨world, [], rfl, .refl _⟩
  | cons entry files ih =>
    obtain ⟨id, listing⟩ := entry
    have own : ∀ target, env.target? base id = some target → world.files.Ready target :=
      fun target aimed => ready target ⟨_, List.mem_cons_self, aimed⟩
    have rewrites : ∀ target, env.target? base id = some target →
        ∃ place old, place ≠ [] ∧ world.files.find? place = some old ∧
          world.files.place target listing.render.toUTF8 =
            (world.files.set place (.file listing.render.toUTF8), .ok ()) := by
      intro target aimed
      obtain ⟨place, held, located⟩ := (own target aimed).file
      obtain ⟨below, found⟩ := FileSystem.holds_of_locate located
      exact ⟨place, _, below, found, FileSystem.place_of_ready (own target aimed) located⟩
    obtain ⟨next, summary, here⟩ : ∃ next summary,
        emitFile env base id listing world = (next, .ok summary) := by
      apply emitFile_of_placed (renderable _ List.mem_cons_self)
      intro target aimed
      obtain ⟨place, old, -, -, placed⟩ := rewrites target aimed
      exact ⟨_, placed⟩
    obtain ⟨emits, -⟩ := emitFile_eq_ok here
    have same : FileSystem.SamePlaces world.files next.files := by
      cases aimed : env.target? base id with
      | none =>
        rw [emits.unplaced aimed]
        exact .refl _
      | some target =>
        obtain ⟨place, old, below, found, placed⟩ := rewrites target aimed
        have files := emits.placed target aimed
        rw [placed] at files
        rw [← (Prod.mk.inj files).1]
        exact .set below found _
    obtain ⟨last, others, rest, onward⟩ := ih
      (fun other member => renderable other (List.mem_cons_of_mem _ member))
      fun target ⟨other, member, aimed⟩ =>
        (ready target ⟨other, List.mem_cons_of_mem _ member, aimed⟩).mono emits.confined.grows
    exact ⟨last, _, emitAll_cons_eq_ok.mpr ⟨next, summary, others, here, rest, rfl⟩,
      same.trans onward⟩

theorem IsTarget.exists_last {target : Path} (aimed : IsTarget env base files target) :
    ∃ earlier id listing later, files = earlier ++ (id, listing) :: later ∧
      env.target? base id = some target ∧ ¬IsTarget env base later target := by
  induction files with
  | nil => simp [IsTarget] at aimed
  | cons entry files ih =>
    by_cases again : IsTarget env base files target
    · obtain ⟨earlier, id, listing, later, rfl, own, last⟩ := ih again
      exact ⟨entry :: earlier, id, listing, later, rfl, own, last⟩
    · obtain ⟨other, member, own⟩ := aimed
      rcases List.mem_cons.mp member with rfl | member
      · exact ⟨[], other.1, other.2, files, rfl, own, again⟩
      · exact absurd ⟨other, member, own⟩ again

theorem emitAll_twice {again final : World} {others : List Summary}
    (emitted : emitAll env base files world = (after, .ok summaries))
    (repeated : emitAll env base files again = (final, .ok others))
    (same : again.files = after.files) (places : FileSystem.SamePlaces after.files final.files) :
    final.files = after.files := by
  have confined := emitAll_confined repeated
  rw [same] at confined
  refine places.eq_of_find? fun place entry found => ?_
  cases entry with
  | directory => exact confined.directories place found
  | file contents =>
    rcases confined.files place contents found with kept | ⟨target, held, aimed, located⟩
    · exact kept
    · -- Both times the last file that goes there decides what it holds.
      obtain ⟨earlier, id, listing, later, rfl, own, last⟩ := aimed.exists_last
      obtain ⟨first, holds⟩ := emitAll_holds own last emitted
      obtain ⟨second, holdsAgain⟩ := emitAll_holds own last repeated
      obtain ⟨-, now⟩ := FileSystem.holds_of_locate located
      obtain ⟨-, before⟩ := FileSystem.holds_of_locate holds
      obtain ⟨stays, there⟩ := confined.grows.locate_file holds
      rw [located] at holdsAgain there
      cases holdsAgain
      cases there
      rw [found] at before
      cases before
      exact now

end Run

section Emission

variable {env : Environment} {base : Path} {tree : Tree String} {world after : World}
  {summaries : List Summary}

theorem isTarget_toList {target : Path} :
    IsTarget env base tree.toList target ↔ ∃ id ∈ tree, env.target? base id = some target := by
  constructor
  · rintro ⟨⟨id, listing⟩, member, aimed⟩
    rw [Std.ExtTreeMap.mem_toList_iff_getElem?_eq_some] at member
    exact ⟨id, Std.ExtTreeMap.mem_iff_isSome_getElem?.mpr (by simp [member]), aimed⟩
  · rintro ⟨id, member, aimed⟩
    refine ⟨(id, tree[id]), ?_, aimed⟩
    rw [Std.ExtTreeMap.mem_toList_iff_getElem?_eq_some]
    exact Std.ExtTreeMap.getElem?_eq_some_getElem member

theorem emit_output (emitted : emit env base tree world = (after, .ok summaries)) :
    after.output = world.output ++
      (tree[builtinsFile]?.map fun listing => listing.render.toUTF8).getD .empty := by
  cases found : tree[builtinsFile]? with
  | none =>
    have absent : ∀ entry ∈ tree.toList, entry.1 ≠ builtinsFile := by
      rintro ⟨id, listing⟩ member rfl
      rw [Std.ExtTreeMap.mem_toList_iff_getElem?_eq_some, found] at member
      cases member
    rw [emitAll_output_of_absent absent emitted]
    exact ByteArray.append_empty.symm
  | some listing =>
    apply emitAll_output Std.ExtTreeMap.ordered_keys_toList emitted
    exact Std.ExtTreeMap.mem_toList_iff_getElem?_eq_some.mpr found

theorem emit_holds (emitted : emit env base tree world = (after, .ok summaries)) {id : Int}
    {listing : Listing String} {target : Path} (found : tree[id]? = some listing)
    (aimed : env.target? base id = some target)
    (last : ∀ other ∈ tree, id < other → env.target? base other ≠ some target) :
    after.files.readFile target = .ok listing.render.toUTF8 := by
  have ascending : Ascending tree.toList := Std.ExtTreeMap.ordered_keys_toList
  obtain ⟨earlier, later, split⟩ :=
    List.append_of_mem (Std.ExtTreeMap.mem_toList_iff_getElem?_eq_some.mpr found)
  rw [emit, split] at emitted
  rw [split] at ascending
  obtain ⟨-, behind, -⟩ := List.pairwise_append.mp ascending
  have unshared : ¬IsTarget env base later target := by
    rintro ⟨other, inside, same⟩
    have larger : id < other.1 :=
      Int.compare_eq_lt.mp ((List.pairwise_cons.mp behind).1 other inside)
    have member : other.1 ∈ tree := by
      rw [← Std.ExtTreeMap.mem_keys, ← Std.ExtTreeMap.map_fst_toList_eq_keys, split]
      exact List.mem_map_of_mem (List.mem_append_right _ (List.mem_cons_of_mem _ inside))
    exact last other.1 member larger same
  obtain ⟨place, located⟩ := emitAll_holds aimed unshared emitted
  exact FileSystem.readFile_of_locate located

theorem emit_again (emitted : emit env base tree world = (after, .ok summaries)) {again : World}
    (same : again.files = after.files) :
    ∃ final, emit env base tree again = (final, .ok summaries) ∧ final.files = after.files := by
  obtain ⟨final, others, repeated, places⟩ :
      ∃ final others, emitAll env base tree.toList again = (final, .ok others) ∧
        FileSystem.SamePlaces again.files final.files := by
    apply emitAll_again (emitAll_renderable emitted)
    intro target aimed
    rw [same]
    exact emitAll_ready emitted aimed
  rw [same] at places
  have equal : others = summaries := by rw [emitAll_summaries repeated, emitAll_summaries emitted]
  exact ⟨final, equal ▸ repeated, emitAll_twice emitted repeated same places⟩

end Emission

/-- What is built in has gone to the standard output, every target holds the listing of the largest
file that goes there, and nothing else has changed but for directories on the way. Emitting the
same tree again says and does the same. -/
theorem emission_effect (env : Environment) (base : Path) (tree : Tree String)
    (world after : World) (summaries : List Summary)
    (emitted : emit env base tree world = (after, .ok summaries)) :
    let written := (tree[builtinsFile]?.map fun listing => listing.render.toUTF8).getD .empty
    after.output = world.output ++ written ∧
      (∀ id listing target, tree[id]? = some listing → env.target? base id = some target →
        (∀ other ∈ tree, id < other → env.target? base other ≠ some target) →
        after.files.readFile target = .ok listing.render.toUTF8) ∧
      FileSystem.Confined (fun target => ∃ id ∈ tree, env.target? base id = some target)
        (base.join outputDirectory) world.files after.files ∧
      summaries = tree.toList.filterMap env.summary? ∧
      ∀ again : World, again.files = after.files →
        ∃ final, emit env base tree again = (final, .ok summaries) ∧
          final.files = after.files ∧ final.output = again.output ++ written := by
  intro written
  refine ⟨emit_output emitted, ?_, ?_, emitAll_summaries emitted, ?_⟩
  · intro id listing target found aimed last
    exact emit_holds emitted found aimed last
  · exact (emitAll_confined emitted).mono (fun _ aimed => isTarget_toList.mp aimed) (.refl _)
  · intro again same
    obtain ⟨final, repeated, unchanged⟩ := emit_again emitted same
    exact ⟨final, repeated, unchanged, emit_output repeated⟩

theorem emission_effect_shared_target :
    let env : Environment :=
      ⟨.ofList [(-1, "x.dm"), (1, "a/b.dm"), (2, "a$b.dm")], ⟨"", ⟨1, 1⟩, none, ∅, ∅, []⟩, []⟩
    let line (fragments : List String) : Listing String := .ofList [((1 : Int), fragments)]
    let tree : Tree String := .ofList
      [(2, line ["new"]), (-1, line ["x"]), (7, ∅), (0, line ["b", "i"]), (1, line ["old"])]
    let world := World.ofFiles
      ⟨.ofList [(["w"], .directory), (["w", "dm2doxy"], .directory),
        (["w", "dm2doxy", "a$b.."], .file "older".toUTF8)], Path.ofString "/w"⟩
    ∃ after summaries, emit env Path.here tree world = (after, .ok summaries) ∧
      summaries.map Summary.label = ["x.dm", "builtins", "a/b.dm", "a$b.dm"] ∧
      after.output = "bi\n".toUTF8 ∧
      after.files.readFile (Path.ofString "dm2doxy/a$b..") = .ok "new\n".toUTF8 ∧
      ∃ final, emit env Path.here tree after = (final, .ok summaries) ∧
        final.files = after.files ∧ final.output = after.output ++ "bi\n".toUTF8 := by
  intro env line tree world
  have labels : (emit env Path.here tree world).2.toOption.map (List.map Summary.label) =
      some ["x.dm", "builtins", "a/b.dm", "a$b.dm"] := by
    decide +kernel
  have builtin : tree[builtinsFile]?.map Listing.render = some "bi\n" := by decide +kernel
  have second : tree[(2 : Int)]?.map Listing.render = some "new\n" := by decide +kernel
  have target : env.target? Path.here 2 = some (Path.ofString "dm2doxy/a$b..") := by decide +kernel
  have last : ∀ other ∈ tree.keys, 2 < other →
      env.target? Path.here other ≠ some (Path.ofString "dm2doxy/a$b..") := by
    decide +kernel
  obtain ⟨listing, found, rendered⟩ := Option.map_eq_some_iff.mp second
  obtain ⟨builtins, present, shown⟩ := Option.map_eq_some_iff.mp builtin
  cases emitted : emit env Path.here tree world with
  | mk after outcome =>
    rw [emitted] at labels
    cases outcome with
    | error failure => cases labels
    | ok summaries =>
      obtain ⟨output, held, -, -, again⟩ :=
        emission_effect env Path.here tree world after summaries emitted
      rw [present] at output again
      refine ⟨after, summaries, rfl, Option.some.inj labels, ?_, ?_, ?_⟩
      · rw [← shown, output]
        exact ByteArray.empty_append
      · rw [← rendered]
        apply held 2 listing _ found target
        exact fun other member => last other (Std.ExtTreeMap.mem_keys.mpr member)
      · rw [← shown]
        exact again after rfl

end DreamDoc
