import DreamDoc.Proofs.Emissions

namespace DreamDoc

namespace FileSystem

variable {fs later : FileSystem} {target toward : Path} {contents : ByteArray} {failure : Failure}

theorem place_eq_error (failed : fs.place target contents = (later, .error failure)) :
    Confined (fun _ => False) target.parent fs later := by
  have prepared := (fs.makeDirectories_prepares target.parent).confined
  unfold place at failed
  cases made : fs.makeDirectories target.parent with
  | mk middle outcome =>
    rw [made] at prepared failed
    cases outcome with
    | error cause =>
      simp only [Prod.mk.injEq] at failed
      rwa [failed.1] at prepared
    | ok done =>
      cases wrote : middle.writeFile target contents with
      | ok written => simp [wrote] at failed
      | error cause =>
        simp only [wrote, Prod.mk.injEq] at failed
        rwa [failed.1] at prepared

theorem Confined.find?_file (confined : Confined (fun _ => False) toward fs later)
    (place : List String) (contents : ByteArray) :
    later.find? place = some (.file contents) ↔ fs.find? place = some (.file contents) := by
  constructor
  · intro found
    cases before : fs.find? place with
    | none => simpa using confined.newFiles place contents before found
    | some entry =>
      cases entry with
      | directory => simp [confined.directories place before] at found
      | file held =>
        have kept : later.find? place = some (.file held) := by
          simpa using confined.files place held before
        rw [← found, kept]
  · intro found
    simpa using confined.files place contents found

end FileSystem

section Run

variable {env : Environment} {base : Path} {files : List (Int × Listing String)}
  {world after : World} {failure : Failure}

theorem emitListing_eq_error {id : Int} {listing : Listing String}
    (failed : emitListing env base id listing world = (after, .error failure)) :
    after.output = world.output ∧
      FileSystem.Confined (fun _ => False) (base.join outputDirectory) world.files
        after.files := by
  unfold emitListing at failed
  by_cases builtin : id = builtinsFile
  · simp [builtin] at failed
  · cases known : env.filePath? id with
    | none => simp [builtin, known] at failed
    | some source =>
      simp only [builtin, if_false, known] at failed
      cases placed : world.files.place (pseudoSourcePath base source) listing.render.toUTF8 with
      | mk files outcome =>
        cases outcome with
        | ok done => simp only [placed, Prod.mk.injEq, reduceCtorEq, and_false] at failed
        | error cause =>
          simp only [placed, Prod.mk.injEq] at failed
          obtain ⟨rfl, -⟩ := failed
          exact ⟨rfl, (FileSystem.place_eq_error placed).mono (fun _ none => none)
            (parent_pseudoSourcePath_leadsTo base source)⟩

theorem emitFile_eq_error {id : Int} {listing : Listing String}
    (failed : emitFile env base id listing world = (after, .error failure)) :
    after.output = world.output ∧
      FileSystem.Confined (fun _ => False) (base.join outputDirectory) world.files
        after.files := by
  unfold emitFile at failed
  split at failed
  · exact emitListing_eq_error failed
  · cases failed
    exact ⟨rfl, .refl _ _ _⟩

theorem emitAll_eq_error (aborted : emitAll env base files world = (after, .error failure)) :
    ∃ earlier id listing later before summaries, files = earlier ++ (id, listing) :: later ∧
      emitAll env base earlier world = (before, .ok summaries) ∧
      emitFile env base id listing before = (after, .error failure) := by
  induction files generalizing world with
  | nil => simp [emitAll] at aborted
  | cons entry files ih =>
    obtain ⟨id, listing⟩ := entry
    rw [emitAll] at aborted
    cases emitted : emitFile env base id listing world with
    | mk middle outcome =>
      cases outcome with
      | error cause =>
        simp only [emitted, Prod.mk.injEq, Except.error.injEq] at aborted
        obtain ⟨rfl, rfl⟩ := aborted
        exact ⟨[], id, listing, files, world, [], rfl, rfl, emitted⟩
      | ok first =>
        have rest : emitAll env base files middle = (after, .error failure) := by
          cases remaining : emitAll env base files middle with
          | mk last outcome =>
            cases outcome <;> simp_all [Except.map]
        obtain ⟨earlier, failing, culprit, later, before, summaries, rfl, reached, failed⟩ := ih rest
        refine ⟨(id, listing) :: earlier, failing, culprit, later, before,
          first.toList ++ summaries, rfl, ?_, failed⟩
        exact emitAll_cons_eq_ok.mpr ⟨middle, first, summaries, emitted, reached, rfl⟩

theorem emitAll_of_error {earlier later : List (Int × Listing String)} {id : Int}
    {listing : Listing String} {before : World} {summaries : List Summary}
    (reached : emitAll env base earlier world = (before, .ok summaries))
    (failed : emitFile env base id listing before = (after, .error failure)) :
    emitAll env base (earlier ++ (id, listing) :: later) world = (after, .error failure) := by
  induction earlier generalizing world summaries with
  | nil =>
    cases reached
    simp [emitAll, failed]
  | cons entry earlier ih =>
    obtain ⟨middle, first, others, here, rest, -⟩ := emitAll_cons_eq_ok.mp reached
    rw [List.cons_append, emitAll, here]
    simp [ih rest, Except.map]

end Run

theorem filter_lt_of_ascending {α : Type} {earlier later : List (Int × α)} {key : Int} {value : α}
    (ascending : Ascending (earlier ++ (key, value) :: later)) :
    (earlier ++ (key, value) :: later).filter (fun entry => entry.1 < key) = earlier := by
  obtain ⟨-, behind, before⟩ := List.pairwise_append.mp ascending
  have kept : earlier.filter (fun entry => entry.1 < key) = earlier := by
    rw [List.filter_eq_self]
    intro entry member
    simpa using Int.compare_eq_lt.mp (before entry member (key, value) List.mem_cons_self)
  have dropped : later.filter (fun entry => entry.1 < key) = [] := by
    rw [List.filter_eq_nil_iff]
    intro entry member
    have above := Int.compare_eq_lt.mp ((List.pairwise_cons.mp behind).1 entry member)
    simpa using Int.le_of_lt above
  simp [kept, dropped]

theorem emit_eq_error_iff {env : Environment} {base : Path} {tree : Tree String}
    {world after : World} {failure : Failure} :
    emit env base tree world = (after, .error failure) ↔
      ∃ file listing before summaries, tree[file]? = some listing ∧
        emit env base (tree.filter fun id _ => id < file) world = (before, .ok summaries) ∧
        emitFile env base file listing before = (after, .error failure) := by
  have ascending : Ascending tree.toList := Std.ExtTreeMap.ordered_keys_toList
  have below {earlier later : List (Int × Listing String)} {file : Int} {listing : Listing String}
      (split : tree.toList = earlier ++ (file, listing) :: later) :
      (tree.filter fun id _ => id < file).toList = earlier := by
    rw [Std.ExtTreeMap.toList_filter, split]
    exact filter_lt_of_ascending (split ▸ ascending)
  constructor
  · intro aborted
    obtain ⟨earlier, file, listing, later, before, summaries, split, reached, failed⟩ :=
      emitAll_eq_error aborted
    refine ⟨file, listing, before, summaries, ?_, ?_, failed⟩
    · rw [← Std.ExtTreeMap.mem_toList_iff_getElem?_eq_some, split]
      simp
    · rw [emit, below split, reached]
  · rintro ⟨file, listing, before, summaries, found, reached, failed⟩
    obtain ⟨earlier, later, split⟩ :=
      List.append_of_mem (Std.ExtTreeMap.mem_toList_iff_getElem?_eq_some.mpr found)
    rw [emit, below split] at reached
    rw [emit, split]
    exact emitAll_of_error reached failed

/-- An emission that fails has emitted the files below the failing one. Where only that one and
larger ones go nothing was written, and nothing else has changed but for directories on the way to
the output directory. -/
theorem emission_aborted (env : Environment) (base : Path) (tree : Tree String)
    (world after : World) (failure : Failure)
    (aborted : emit env base tree world = (after, .error failure)) :
    ∃ file listing before summaries, tree[file]? = some listing ∧
      emit env base (tree.filter fun id _ => id < file) world = (before, .ok summaries) ∧
      emitFile env base file listing before = (after, .error failure) ∧
      after.output = before.output ∧
      (∀ place contents, after.files.find? place = some (.file contents) ↔
        before.files.find? place = some (.file contents)) ∧
      (∀ target, (∃ id ∈ tree, env.target? base id = some target) →
        (∀ id ∈ tree, id < file → env.target? base id ≠ some target) →
        ∀ place contents,
          (after.files.locate target = .ok (.file place contents) →
            world.files.find? place = some (.file contents)) ∧
          (world.files.locate target = .ok (.file place contents) →
            after.files.locate target = .ok (.file place contents))) ∧
      FileSystem.Confined (fun _ => False) (base.join outputDirectory) before.files
        after.files := by
  obtain ⟨earlier, file, listing, later, before, summaries, split, reached, failed⟩ :=
    emitAll_eq_error aborted
  obtain ⟨output, directories⟩ := emitFile_eq_error failed
  have ascending : Ascending tree.toList := Std.ExtTreeMap.ordered_keys_toList
  have below : (tree.filter fun id _ => id < file).toList = earlier := by
    rw [Std.ExtTreeMap.toList_filter, split]
    exact filter_lt_of_ascending (split ▸ ascending)
  have confined : FileSystem.Confined (IsTarget env base earlier) (base.join outputDirectory)
      world.files after.files :=
    (emitAll_confined reached).trans (directories.mono (fun _ none => none.elim) (.refl _))
  have shape : ∀ target, IsTarget env base earlier target →
      ∃ source, pseudoSourcePath base source = target :=
    fun _ aimed => aimed.exists_source
  refine ⟨file, listing, before, summaries, ?_, ?_, failed, output, directories.find?_file, ?_,
    directories⟩
  · rw [← Std.ExtTreeMap.mem_toList_iff_getElem?_eq_some, split]
    simp
  · rw [emit, below, reached]
  · rintro target ⟨id, -, aimed⟩ larger place contents
    obtain ⟨source, rfl⟩ := source_of_target aimed
    have apart : ¬IsTarget env base earlier (pseudoSourcePath base source) := by
      rw [← below, isTarget_toList]
      rintro ⟨smaller, member, shared⟩
      obtain ⟨inside, less⟩ : smaller ∈ tree ∧ smaller < file := by
        simpa [Std.ExtTreeMap.mem_filter] using member
      exact larger smaller inside less shared
    exact ⟨file_before_of_apart shape apart confined, locate_of_apart shape apart confined⟩

theorem emission_aborted_at_directory :
    let env : Environment :=
      ⟨.ofList [((1 : Int), "a.dm"), (2, ".dm"), (3, "c.dm")], ⟨"", ⟨1, 1⟩, none, ∅, ∅, []⟩, []⟩
    let line (fragments : List String) : Listing String := .ofList [((1 : Int), fragments)]
    let tree : Tree String := .ofList
      [(3, line ["c"]), (-7, ∅), (2, line ["b"]), (0, line ["b", "i"]), (1, line ["a"])]
    let world := World.ofFiles
      ⟨.ofList [(["w"], .directory), (["w", "dm2doxy"], .directory),
        (["w", "dm2doxy", "c.."], .file "older".toUTF8)], Path.ofString "/w"⟩
    ∃ after, emit env Path.here tree world =
        (after, .error (.system .isADirectory (Path.ofString "dm2doxy/.."))) ∧
      after.files.find? ["w", "dm2doxy", "a.."] = some (.file "a\n".toUTF8) ∧
      after.files.find? ["w", "dm2doxy", "c.."] = some (.file "older".toUTF8) ∧
      ∃ file before summaries,
        emit env Path.here (tree.filter fun id _ => id < file) world = (before, .ok summaries) ∧
        after.output = before.output ∧
        before.files.find? ["w", "dm2doxy", "a.."] = some (.file "a\n".toUTF8) := by
  intro env line tree world
  have failure : (match (emit env Path.here tree world).2 with
      | .ok _ => none
      | .error failure => some failure) =
        some (.system .isADirectory (Path.ofString "dm2doxy/..")) := by
    decide +kernel
  have written : (emit env Path.here tree world).1.files.find? ["w", "dm2doxy", "a.."] =
      some (.file "a\n".toUTF8) := by
    decide +kernel
  have kept : (emit env Path.here tree world).1.files.find? ["w", "dm2doxy", "c.."] =
      some (.file "older".toUTF8) := by
    decide +kernel
  cases aborted : emit env Path.here tree world with
  | mk after outcome =>
    rw [aborted] at failure written kept
    cases outcome with
    | ok summaries => cases failure
    | error cause =>
      obtain ⟨file, -, before, summaries, -, reached, -, output, same, -⟩ :=
        emission_aborted env Path.here tree world after cause aborted
      exact ⟨after, by rw [Option.some.inj failure], written, kept, file, before, summaries, reached,
        output, (same _ _).mp written⟩

end DreamDoc
