import DreamDoc.Proofs.AbortedEmissions
import DreamDoc.Proofs.Collisions
import DreamDoc.Proofs.Delays
import DreamDoc.Proofs.WorkingDirectories

namespace DreamDoc

theorem Path.null_mem_toString {path : Path} :
    '\x00' ∈ path.toString.toList ↔ ∃ name ∈ path.names, '\x00' ∈ name.toList := by
  have joined (names : List String) : '\x00' ∈ ("/".intercalate names).toList ↔
      ∃ name ∈ names, '\x00' ∈ name.toList := by
    induction names with
    | nil => simp
    | cons name names ih =>
      cases names with
      | nil => simp
      | cons next names =>
        rw [String.intercalate_cons_cons, String.toList_append, List.mem_append, ih]
        simp
  have plain : '\x00' ∉ path.root.text.toList := by cases path.root <;> decide
  unfold toString
  split
  · rename_i nothing
    simp [nothing.2]
  · rw [String.toList_append, List.mem_append, joined]
    simp [plain]

namespace FileSystem

variable {fs : FileSystem} {path : Path} {contents : ByteArray} {failure : Failure}

/-- What an operation on a path fails with. -/
inductive Blames (path : Path) : Failure → Prop
  | null (held : '\x00' ∈ path.toString.toList) : Blames path .nullCharacter
  | system (fault : SystemFault) (plain : '\x00' ∉ path.toString.toList) :
      Blames path (.system fault path)

theorem Blames.unreported (blames : Blames path failure) (unreported : failure.isReported = false) :
    '\x00' ∈ path.toString.toList ∧ failure = .nullCharacter := by
  cases blames with
  | null held => exact ⟨held, rfl⟩
  | system fault plain => cases unreported

theorem Blames.eq_nullCharacter (blames : Blames path failure)
    (null : '\x00' ∈ path.toString.toList) : failure = .nullCharacter := by
  cases blames with
  | null held => rfl
  | system fault plain => exact absurd null plain

theorem locate_of_null (null : '\x00' ∈ path.toString.toList) :
    fs.locate path = .error .nullCharacter :=
  if_pos null

theorem locate_blames (failed : fs.locate path = .error failure) : Blames path failure := by
  unfold locate at failed
  split at failed
  · rename_i held
    cases failed
    exact .null held
  · rename_i plain
    split at failed
    · cases failed
      exact .system _ plain
    · split at failed <;> cases failed
      exact .system _ plain

theorem blames_of_locate {spot : Spot} (located : fs.locate path = .ok spot)
    (fault : SystemFault) : Blames path (.system fault path) :=
  .system fault (locate_eq_ok.mp located).1

theorem readFile_blames (failed : fs.readFile path = .error failure) : Blames path failure := by
  unfold readFile at failed
  split at failed
  · cases failed
  · rename_i located
    exact Except.error.inj failed ▸ blames_of_locate located _
  · rename_i located
    exact Except.error.inj failed ▸ blames_of_locate located _
  · rename_i located
    exact Except.error.inj failed ▸ locate_blames located

theorem writeFile_blames (failed : fs.writeFile path contents = .error failure) :
    Blames path failure := by
  unfold writeFile at failed
  split at failed
  · cases failed
  · cases failed
  · rename_i located
    exact Except.error.inj failed ▸ blames_of_locate located _
  · rename_i located
    exact Except.error.inj failed ▸ locate_blames located

theorem makeDirectory_blames (failed : fs.makeDirectory path = .error failure) :
    Blames path failure := by
  unfold makeDirectory at failed
  split at failed
  · cases failed
  · rename_i spot _ located
    exact Except.error.inj failed ▸ blames_of_locate located _
  · rename_i located
    exact Except.error.inj failed ▸ locate_blames located

theorem ensureDirectory_blames (failed : (fs.ensureDirectory path).2 = .error failure) :
    Blames path failure := by
  unfold ensureDirectory at failed
  split at failed
  · cases failed
  · rename_i cause made
    split at failed
    · cases failed
    · exact Except.error.inj failed ▸ makeDirectory_blames made

theorem makeDirectoriesWithin_blames {depth : Nat}
    (failed : (fs.makeDirectoriesWithin path depth).2 = .error failure) :
    ∃ leading : Path, leading.LeadsTo path ∧ Blames leading failure := by
  induction depth generalizing fs path with
  | zero => exact ⟨path, .refl path, ensureDirectory_blames failed⟩
  | succ depth ih =>
    unfold makeDirectoriesWithin at failed
    split at failed
    · split at failed
      · exact ⟨path, .refl path, ensureDirectory_blames failed⟩
      · rename_i parents cause made
        cases failed
        obtain ⟨leading, way, blames⟩ := ih (congrArg Prod.snd made)
        exact ⟨leading, way.trans path.parent_leadsTo, blames⟩
    · exact ⟨path, .refl path, ensureDirectory_blames failed⟩

theorem isReported_of_makeDirectories (plain : '\x00' ∉ path.toString.toList)
    (failed : (fs.makeDirectories path).2 = .error failure) : failure.isReported = true := by
  obtain ⟨leading, way, blames⟩ := makeDirectoriesWithin_blames failed
  rw [← Bool.not_eq_false]
  intro unreported
  obtain ⟨name, member, null⟩ := Path.null_mem_toString.mp (blames.unreported unreported).1
  exact plain (Path.null_mem_toString.mpr ⟨name, way.2.subset member, null⟩)

theorem place_unreported_iff (fs : FileSystem) (contents : ByteArray) (failure : Failure)
    {target : Path} (plain : '\x00' ∉ target.parent.toString.toList) :
    (fs.place target contents).2 = .error failure ∧ failure.isReported = false ↔
      failure = .nullCharacter ∧ '\x00' ∈ target.toString.toList ∧
        (fs.makeDirectories target.parent).2 = .ok () := by
  unfold place
  cases made : fs.makeDirectories target.parent with
  | mk middle outcome =>
    cases outcome with
    | error cause =>
      have reported := isReported_of_makeDirectories plain (congrArg Prod.snd made)
      simp only [Except.error.injEq, reduceCtorEq, and_false, iff_false, not_and]
      rintro rfl
      simp [reported]
    | ok done =>
      cases wrote : middle.writeFile target contents with
      | ok written =>
        have clean : '\x00' ∉ target.toString.toList := by
          intro null
          simp [writeFile, locate_of_null null] at wrote
        simp [wrote, clean]
      | error cause =>
        have blames := writeFile_blames wrote
        simp only [wrote, Except.error.injEq, and_true]
        constructor
        · rintro ⟨rfl, unreported⟩
          exact (blames.unreported unreported).symm
        · rintro ⟨rfl, null⟩
          exact ⟨blames.eq_nullCharacter null, rfl⟩

end FileSystem

section Targets

variable {source : String}

theorem null_mem_flatName : '\x00' ∈ (flatName source).toList ↔ '\x00' ∈ source.toList := by
  have flat : '\x00' ∈ flattenSeparators source ↔ '\x00' ∈ source.toList := by
    unfold flattenSeparators
    grind
  rw [← flat]
  by_cases ending : ".dm".toList <:+ flattenSeparators source
  · obtain ⟨stem, split⟩ := ending
    rw [flatName_of_suffix split.symm, ← split]
    simp
  · rw [flatName_of_not_suffix ending, String.toList_ofList]

theorem null_mem_pseudoSourcePath :
    '\x00' ∈ (pseudoSourcePath Path.here source).toString.toList ↔ '\x00' ∈ source.toList := by
  rw [Path.null_mem_toString, names_pseudoSourcePath_eq, join_here_outputDirectory,
    names_outputDirectory]
  split
  · rename_i nameless
    rcases nameless with rfl | rfl <;> simp
  · simp [null_mem_flatName]

theorem parent_pseudoSourcePath_of_null (null : '\x00' ∈ source.toList) :
    (pseudoSourcePath Path.here source).parent = outputDirectory := by
  have named : ¬Nameless source := by
    rintro (rfl | rfl) <;> simp at null
  apply Path.ext
  · rw [Path.root_parent, root_pseudoSourcePath, join_here_outputDirectory]
  · rw [Path.names_parent, names_pseudoSourcePath_eq, if_neg named, List.dropLast_concat,
      join_here_outputDirectory]

theorem plain_parent_pseudoSourcePath (source : String) :
    '\x00' ∉ (pseudoSourcePath Path.here source).parent.toString.toList := by
  rw [Path.null_mem_toString]
  rintro ⟨name, member, null⟩
  have inside := (parent_pseudoSourcePath_leadsTo Path.here source).2.subset member
  rw [join_here_outputDirectory, names_outputDirectory, List.mem_singleton] at inside
  simp [inside] at null

end Targets

section Emission

variable {env : Environment} {world : World} {failure : Failure}

theorem emitListing_unreported_iff (id : Int) (listing : Listing String) :
    (emitListing env Path.here id listing world).2 = .error failure ∧ failure.isReported = false ↔
      failure = .nullCharacter ∧ id ≠ builtinsFile ∧
        (∃ source, env.filePath? id = some source ∧ '\x00' ∈ source.toList) ∧
        (world.files.makeDirectories outputDirectory).2 = .ok () := by
  unfold emitListing
  by_cases builtin : id = builtinsFile
  · simp [builtin]
  · cases known : env.filePath? id with
    | none => simp [builtin]
    | some source =>
      have placed := world.files.place_unreported_iff listing.render.toUTF8 failure
        (plain_parent_pseudoSourcePath source)
      rw [null_mem_pseudoSourcePath] at placed
      trans (world.files.place (pseudoSourcePath Path.here source) listing.render.toUTF8).2 =
        .error failure ∧ failure.isReported = false
      · simp only [builtin, if_false]
        split <;> simp_all
      · rw [placed]
        constructor
        · rintro ⟨rfl, null, made⟩
          rw [parent_pseudoSourcePath_of_null null] at made
          exact ⟨rfl, builtin, ⟨source, rfl, null⟩, made⟩
        · rintro ⟨rfl, -, ⟨_, ⟨⟩, null⟩, made⟩
          rw [parent_pseudoSourcePath_of_null null]
          exact ⟨rfl, null, made⟩

/-- What keeps a file from being emitted, without a report, when emission has come to it. -/
inductive Obstructs (env : Environment) (files : FileSystem) (file : Int)
    (listing : Listing String) : Failure → Prop
  | null {path : String} (renderable : listing.isRenderable = true) (foreign : file ≠ builtinsFile)
    (known : env.filePath? file = some path) (held : '\x00' ∈ path.toList)
    (directory : (files.makeDirectories outputDirectory).2 = .ok ()) :
    Obstructs env files file listing .nullCharacter
  | gap {before after : List (Int × List String)} {line : Int} {fragments : List String}
    (split : listing.toList = before ++ (line, fragments) :: after)
    (far : Listing.longestGap < line - Listing.reached 1 before) : Obstructs env files file listing .gapTooLong

theorem emitFile_unreported_iff (id : Int) (listing : Listing String) :
    (emitFile env Path.here id listing world).2 = .error failure ∧ failure.isReported = false ↔
      Obstructs env world.files id listing failure := by
  unfold emitFile
  cases renderable : listing.isRenderable with
  | true =>
    rw [if_pos rfl, emitListing_unreported_iff]
    constructor
    · rintro ⟨rfl, foreign, ⟨path, known, held⟩, directory⟩
      exact .null renderable foreign known held directory
    · intro obstructed
      cases obstructed with
      | null _ foreign known held directory => exact ⟨rfl, foreign, ⟨_, known, held⟩, directory⟩
      | gap split far =>
        rw [Listing.isRenderable_eq_false_iff.mpr ⟨_, _, _, _, split, far⟩] at renderable
        cases renderable
  | false =>
    rw [if_neg Bool.false_ne_true]
    constructor
    · rintro ⟨failed, -⟩
      obtain rfl := Except.error.inj failed
      obtain ⟨before, line, fragments, after, split, far⟩ :=
        Listing.isRenderable_eq_false_iff.mp renderable
      exact .gap split far
    · intro obstructed
      cases obstructed with
      | null also =>
        rw [renderable] at also
        cases also
      | gap => exact ⟨rfl, rfl⟩

/-- Emission gets as far as a file and no further. -/
def HaltsAt (env : Environment) (files : FileSystem) (file : Int) (failure : Failure) : Prop :=
  ∃ listing before summaries, env.listings[file]? = some listing ∧
    emit env Path.here (env.listings.filter fun id _ => id < file) (World.ofFiles files) =
      (before, .ok summaries) ∧
    Obstructs env before.files file listing failure

theorem produce_unreported_iff :
    (produce env Path.here world).2 = .error failure ∧ failure.isReported = false ↔
      ∃ file, HaltsAt env world.files file failure := by
  have emitted : (produce env Path.here world).2 =
      (emit env Path.here env.listings (World.ofFiles world.files)).2 := by
    have same : (world.note (collationRecord env).level (collationRecord env).message).files =
        (World.ofFiles world.files).files := rfl
    exact (emitAll_agrees same env.listings.toList).2
  rw [emitted]
  constructor
  · rintro ⟨failed, unreported⟩
    obtain ⟨file, listing, before, summaries, found, reached, culprit⟩ :=
      emit_eq_error_iff.mp (Prod.ext rfl failed)
    have obstructed := (emitFile_unreported_iff file listing).mp
      ⟨congrArg Prod.snd culprit, unreported⟩
    exact ⟨file, listing, before, summaries, found, reached, obstructed⟩
  · rintro ⟨file, listing, before, summaries, found, reached, obstructed⟩
    obtain ⟨failed, unreported⟩ := (emitFile_unreported_iff file listing).mpr obstructed
    have aborted := emit_eq_error_iff.mpr
      ⟨file, listing, before, summaries, found, reached, Prod.ext rfl failed⟩
    exact ⟨congrArg Prod.snd aborted, unreported⟩

end Emission

theorem readBack_unreported_iff {fs : FileSystem} {source : Path} {failure : Failure} :
    readBack fs none source = .error failure ∧ failure.isReported = false ↔
      failure = .nullCharacter ∧ ∃ relative,
        relativeToWorkdir fs.workdir none source = .ok relative ∧
          '\x00' ∈ relative.toString.toList := by
  constructor
  · rintro ⟨failed, unreported⟩
    unfold readBack at failed
    split at failed
    · rename_i cause outside
      cases failed
      rw [(relativeToWorkdir_eq_error_iff.mp outside).1] at unreported
      cases unreported
    · rename_i relative inside
      simp only [Option.getD_none] at failed
      split at failed
      · cases failed
      · cases failed
        cases unreported
      · rename_i unread
        cases failed
        obtain ⟨null, rfl⟩ := (FileSystem.readFile_blames unread).unreported unreported
        exact ⟨rfl, relative, inside, null_mem_pseudoSourcePath.mp null⟩
  · rintro ⟨rfl, relative, inside, null⟩
    have unread : fs.readFile (pseudoSourcePath Path.here relative.toString) =
        .error .nullCharacter := by
      rw [FileSystem.readFile, FileSystem.locate_of_null (null_mem_pseudoSourcePath.mpr null)]
    exact ⟨by simp [readBack, inside, unread], rfl⟩

end DreamDoc
