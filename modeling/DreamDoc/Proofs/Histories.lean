import DreamDoc.Proofs.Containment
import DreamDoc.Proofs.Spellings

/-!
# Read-back after several runs

Emission writes the files in which something is defined or commented and takes nothing away. So
what is read back for such a file depends on the last run alone, while for any other file it is
what earlier runs have left.
-/

namespace DreamDoc

namespace FileSystem

/-- The working directory is there, and whatever stands somewhere stands in a directory. -/
structure IsTree (fs : FileSystem) : Prop where
  workdir : fs.find? fs.workdir.names = some .directory
  parents : ∀ place entry, fs.find? place = some entry →
    fs.find? place.dropLast = some .directory

variable {fs later : FileSystem} {place names target : List String} {contents held : ByteArray}

theorem isTree_iff : fs.IsTree ↔ fs.find? fs.workdir.names = some .directory ∧
    ∀ place ∈ fs.entries.keys, fs.find? place.dropLast = some .directory := by
  constructor
  · intro tree
    refine ⟨tree.workdir, fun place member => ?_⟩
    by_cases root : place = []
    · rw [root]
      rfl
    · obtain ⟨entry, found⟩ := Option.ne_none_iff_exists'.mp (Table.mem_keys_iff.mp member)
      exact tree.parents place entry (by rw [find?, if_neg root, found])
  · rintro ⟨workdir, inside⟩
    refine ⟨workdir, fun place entry found => ?_⟩
    by_cases root : place = []
    · rw [root]
      rfl
    · rw [find?, if_neg root] at found
      exact inside place (Table.mem_keys_iff.mpr (by simp [found]))

instance : Decidable fs.IsTree := decidable_of_iff _ isTree_iff.symm

namespace IsTree

theorem above (tree : fs.IsTree) {below : List String} {entry : Entry}
    (found : fs.find? (place ++ below) = some entry) (deeper : below ≠ []) :
    fs.find? place = some .directory := by
  induction below using List.reverseRecOn generalizing entry with
  | nil => exact absurd rfl deeper
  | append_singleton below name ih =>
    have parent := tree.parents _ _ found
    rw [← List.append_assoc, List.dropLast_concat] at parent
    cases below with
    | nil => simpa using parent
    | cons first below => exact ih parent (by simp)

theorem start (tree : fs.IsTree) (path : Path) : fs.find? (fs.start path) = some .directory := by
  unfold FileSystem.start
  split
  · rfl
  · exact tree.workdir

theorem follow_parent (tree : fs.IsTree) {spot : Spot} (there : fs.find? place = some .directory)
    (followed : fs.follow place names = .ok spot) :
    fs.find? spot.place.dropLast = some .directory := by
  induction names generalizing place with
  | nil =>
    cases followed
    exact tree.parents place _ there
  | cons name rest ih =>
    rw [follow_cons] at followed
    split at followed
    · exact ih (tree.parents place _ there) followed
    · obtain ⟨-, followed⟩ := followed
      split at followed
      · rename_i found
        exact ih found followed
      · obtain ⟨-, rfl⟩ := followed
        rwa [look_place, List.dropLast_concat]

theorem set (tree : fs.IsTree) {entry : Entry} (below : place ≠ [])
    (parent : fs.find? place.dropLast = some .directory)
    (grows : Grows fs (fs.set place entry)) : (fs.set place entry).IsTree where
  workdir := grows.directories _ tree.workdir
  parents other new found := by
    apply grows.directories
    rw [find?_set fs below] at found
    split at found
    · rename_i same
      exact same ▸ parent
    · exact tree.parents other new found

theorem edits (tree : fs.IsTree) {aims : Path → Prop} (edits : Edits aims fs later) :
    later.IsTree := by
  induction edits with
  | refl => exact tree
  | @fill middle path place _ _ located entry ih =>
    obtain ⟨below, absent⟩ := holds_of_locate located
    have parent := ih.follow_parent (ih.start path) (locate_eq_ok.mp located).2.2
    exact ih.set below parent (grows_set below (by simp [absent]))
  | @overwrite middle path place held _ _ located contents ih =>
    obtain ⟨below, found⟩ := holds_of_locate located
    have parent := ih.follow_parent (ih.start path) (locate_eq_ok.mp located).2.2
    exact ih.set below parent (grows_set below (by simp [found]))

end IsTree

theorem follow_file_cons {name : String} {rest : List String}
    (level : ".." ∉ (name :: rest).dropLast)
    (followed : fs.follow place (name :: rest) = .ok (.file target contents)) :
    name ≠ ".." ∧ name.utf8ByteSize ≤ nameLimit ∧
      (rest = [] ∧ target = place ++ [name] ∨
        rest ≠ [] ∧ ".." ∉ rest.dropLast ∧
          fs.follow (place ++ [name]) rest = .ok (.file target contents)) := by
  rw [follow_cons] at followed
  cases rest with
  | nil =>
    split at followed
    · cases followed
    · rename_i down
      obtain ⟨short, followed⟩ := followed
      split at followed
      · cases followed
      · exact ⟨down, short, .inl ⟨rfl, (place_of_look followed.2).symm⟩⟩
  | cons next rest =>
    rw [List.dropLast_cons_cons, List.mem_cons, not_or] at level
    rw [if_neg (Ne.symm level.1)] at followed
    obtain ⟨short, followed⟩ := followed
    split at followed
    · exact ⟨Ne.symm level.1, short, .inr ⟨by simp, level.2, followed⟩⟩
    · cases followed.1

theorem place_of_follow (level : ".." ∉ names.dropLast)
    (followed : fs.follow place names = .ok (.file target contents)) : target = place ++ names := by
  induction names generalizing place with
  | nil => cases followed
  | cons name rest ih =>
    obtain ⟨-, -, ⟨rfl, ends⟩ | ⟨-, level, followed⟩⟩ := follow_file_cons level followed
    · exact ends
    · rw [ih level followed, List.append_assoc, List.singleton_append]

theorem IsTree.follow_of_found (tree : fs.IsTree) (level : ".." ∉ names.dropLast)
    (followed : later.follow place names = .ok (.file target held))
    (found : fs.find? target = some (.file contents)) :
    fs.follow place names = .ok (.file target contents) := by
  induction names generalizing place with
  | nil => cases followed
  | cons name rest ih =>
    obtain ⟨down, short, ⟨rfl, rfl⟩ | ⟨deeper, level, followed⟩⟩ := follow_file_cons level followed
    · rw [follow_cons, if_neg down, if_neg (by simp [found])]
      exact ⟨short, rfl, look_of_file found⟩
    · have whole : fs.find? (place ++ [name] ++ rest) = some (.file contents) := by
        rwa [← place_of_follow level followed]
      have inside := tree.above whole deeper
      rw [follow_cons, if_neg down, if_pos inside]
      exact ⟨short, ih level followed⟩

theorem readFile_eq_ok_iff {path : Path} :
    fs.readFile path = .ok contents ↔ ∃ place, fs.locate path = .ok (.file place contents) := by
  constructor
  · intro read
    unfold readFile at read
    split at read
    · rename_i place held located
      cases read
      exact ⟨place, located⟩
    · cases read
    · cases read
    · cases read
  · rintro ⟨place, located⟩
    exact readFile_of_locate located

end FileSystem

section Stale

variable {env : Environment} {base : Path} {source : String} {world after : World}
  {summaries : List Summary}

theorem level_pseudoSourcePath (level : ".." ∉ base.names) :
    ".." ∉ (pseudoSourcePath base source).names.dropLast := by
  have directory : ".." ∉ (base.join outputDirectory).names := by
    rw [Path.names_join root_outputDirectory, names_outputDirectory]
    simp [level]
  rw [← Path.names_parent]
  exact fun member => directory ((parent_pseudoSourcePath_leadsTo base source).2.subset member)

theorem produce_confined (produced : produce env base world = (after, .ok summaries)) :
    FileSystem.Confined (IsTarget env base env.listings.toList) (base.join outputDirectory)
      world.files after.files :=
  (emitAll_confined produced :)

theorem readFile_unwritten (tree : world.files.IsTree) (level : ".." ∉ base.names)
    (produced : produce env base world = (after, .ok summaries))
    (unwritten : ¬∃ id ∈ collate env, env.target? base id = some (pseudoSourcePath base source))
    (contents : ByteArray) :
    after.files.readFile (pseudoSourcePath base source) = .ok contents ↔
      world.files.readFile (pseudoSourcePath base source) = .ok contents := by
  have confined := produce_confined produced
  have apart : ¬IsTarget env base env.listings.toList (pseudoSourcePath base source) := by
    rw [isTarget_toList]
    simpa only [mem_listings] using unwritten
  rw [FileSystem.readFile_eq_ok_iff, FileSystem.readFile_eq_ok_iff]
  constructor
  · rintro ⟨place, located⟩
    have found := file_before_of_apart (fun _ aimed => aimed.exists_source) apart confined located
    obtain ⟨null, short, followed⟩ := FileSystem.locate_eq_ok.mp located
    have starts : after.files.start (pseudoSourcePath base source) =
        world.files.start (pseudoSourcePath base source) := by
      rw [FileSystem.start, FileSystem.start, confined.workdir]
    rw [starts] at followed
    refine ⟨place, FileSystem.locate_eq_ok.mpr ⟨null, short, ?_⟩⟩
    exact tree.follow_of_found (level_pseudoSourcePath level) followed found
  · rintro ⟨place, located⟩
    exact ⟨place, locate_of_apart (fun _ aimed => aimed.exists_source) apart confined located⟩

theorem exists_largest {tree : Tree String} {target : Path}
    (written : ∃ id ∈ tree, env.target? base id = some target) :
    ∃ id listing, tree[id]? = some listing ∧ env.target? base id = some target ∧
      ∀ other ∈ tree, id < other → env.target? base other ≠ some target := by
  obtain ⟨earlier, id, listing, later, split, own, last⟩ :=
    (isTarget_toList.mpr written).exists_last
  refine ⟨id, listing, ?_, own, ?_⟩
  · rw [← Std.ExtTreeMap.mem_toList_iff_getElem?_eq_some, split]
    simp
  · intro other member larger shared
    have ascending : Ascending tree.toList := Std.ExtTreeMap.ordered_keys_toList
    have inside := Std.ExtTreeMap.mem_toList_iff_getElem?_eq_some.mpr
      (Std.ExtTreeMap.getElem?_eq_some_getElem member)
    rw [split] at ascending inside
    obtain ⟨-, -, before⟩ := List.pairwise_append.mp ascending
    rcases List.mem_append.mp inside with smaller | rest
    · have less := Int.compare_eq_lt.mp (before _ smaller (id, listing) List.mem_cons_self)
      exact absurd larger (Int.not_lt.mpr (Int.le_of_lt less))
    · rcases List.mem_cons.mp rest with same | behind
      · exact absurd larger (by simp [(Prod.mk.inj same).1])
      · exact last ⟨_, behind, shared⟩

end Stale

/-- The file system after productions, one after the other. -/
def history (fs : FileSystem) (runs : List (Environment × Option Path)) : FileSystem :=
  runs.foldl (fun files run =>
    (produce run.1 (run.2.getD Path.here) (World.ofFiles files)).1.files) fs

theorem history_isTree {fs : FileSystem} (tree : fs.IsTree)
    (runs : List (Environment × Option Path)) : (history fs runs).IsTree := by
  induction runs generalizing fs with
  | nil => exact tree
  | cons run runs ih =>
    exact ih (tree.edits (produce_edits run.1 (run.2.getD Path.here) (World.ofFiles fs)))

theorem toOption_congr {result other : Except Failure ByteArray}
    (same : ∀ contents, result = .ok contents ↔ other = .ok contents) :
    result.toOption = other.toOption := by
  cases result with
  | ok contents => rw [(same contents).mp rfl]
  | error failure =>
    cases other with
    | ok contents => cases (same contents).mpr rfl
    | error cause => rfl

/-- What is read back for a file depends on the last production alone if that has written its target,
and it is then the listing of the largest file that goes there. Otherwise it is what was read back
before, so that two histories agree afterwards exactly if they agreed before. -/
theorem readBack_histories (fs : FileSystem) (tree : fs.IsTree)
    (runs others : List (Environment × Option Path)) (env : Environment) (workdir : Option Path)
    (level : ".." ∉ (workdir.getD Path.here).names) (after final : World)
    (summaries again : List Summary)
    (produced : produce env (workdir.getD Path.here) (World.ofFiles (history fs runs)) =
      (after, .ok summaries))
    (reproduced : produce env (workdir.getD Path.here) (World.ofFiles (history fs others)) =
      (final, .ok again))
    (file : Int) (foreign : file ≠ builtinsFile) (source : String)
    (known : env.filePath? file = some source)
    (relative : (Path.ofString source).isAbsolute = false)
    (normal : (Path.ofString source).toString = source) :
    let goesThere (id : Int) := env.target? (workdir.getD Path.here) id =
      some (pseudoSourcePath (workdir.getD Path.here) source)
    let written := ∃ id ∈ collate env, goesThere id
    let read (files : FileSystem) := readBack files workdir (Path.ofString source)
    (file ∈ collate env → written) ∧
    (written → ∃ id listing, env.listings[id]? = some listing ∧ goesThere id ∧
      (∀ other ∈ collate env, id < other → ¬goesThere other) ∧
      read after.files = .ok listing.render.toUTF8 ∧
      read final.files = .ok listing.render.toUTF8) ∧
    (¬written → ∀ contents,
      (read after.files = .ok contents ↔ read (history fs runs) = .ok contents) ∧
      (read final.files = .ok contents ↔ read (history fs others) = .ok contents)) ∧
    ((read after.files).toOption = (read final.files).toOption ↔
      written ∨ (read (history fs runs)).toOption = (read (history fs others)).toOption) := by
  intro goesThere written read
  have below : (Path.ofString source).root = .relative := by
    simpa [Path.isAbsolute] using relative
  have sought (files : FileSystem) (contents : ByteArray) : read files = .ok contents ↔
      files.readFile (pseudoSourcePath (workdir.getD Path.here) source) = .ok contents := by
    have looks := soughtAt_pseudoSourcePath workdir below files
    rw [normal] at looks
    change readBack files workdir (Path.ofString source) = _ ↔ _
    rw [looks]
    cases files.readFile (pseudoSourcePath (workdir.getD Path.here) source) <;>
      simp [Except.mapError]
  have fresh : written → ∃ id listing, env.listings[id]? = some listing ∧ goesThere id ∧
      (∀ other ∈ collate env, id < other → ¬goesThere other) ∧
      read after.files = .ok listing.render.toUTF8 ∧
      read final.files = .ok listing.render.toUTF8 := by
    rintro ⟨id, member, aimed⟩
    obtain ⟨id, listing, found, own, last⟩ := exists_largest ⟨id, mem_listings.mpr member, aimed⟩
    refine ⟨id, listing, found, own, fun other inside => last other (mem_listings.mpr inside),
      (sought _ _).mpr ?_, (sought _ _).mpr ?_⟩
    · exact emit_holds produced found own last
    · exact emit_holds reproduced found own last
  have stale : ¬written → ∀ contents,
      (read after.files = .ok contents ↔ read (history fs runs) = .ok contents) ∧
      (read final.files = .ok contents ↔ read (history fs others) = .ok contents) := by
    intro unwritten contents
    rw [sought, sought, sought, sought]
    exact ⟨readFile_unwritten (history_isTree tree runs) level produced unwritten contents,
      readFile_unwritten (history_isTree tree others) level reproduced unwritten contents⟩
  refine ⟨?_, fresh, stale, ?_⟩
  · intro member
    exact ⟨file, member, by simp [goesThere, Environment.target?, foreign, known]⟩
  · by_cases aimed : written
    · obtain ⟨id, listing, -, -, -, first, second⟩ := fresh aimed
      simp [first, second, aimed]
    · have first := toOption_congr fun contents => (stale aimed contents).1
      have second := toOption_congr fun contents => (stale aimed contents).2
      rw [first, second]
      simp [aimed]

theorem readBack_histories_lost_comment :
    let fs : FileSystem := ⟨.ofList [(["w"], .directory)], Path.ofString "/w"⟩
    let root : TypeNode := ⟨"", ⟨0, 1⟩, none, ∅, ∅, []⟩
    let older : Environment := ⟨.ofList [((1 : Int), "a.dm")], root, [⟨⟨1, 1⟩, "// old"⟩]⟩
    let env : Environment :=
      ⟨.ofList [((1 : Int), "a.dm"), (2, "b.dm")], root, [⟨⟨2, 1⟩, "// new"⟩]⟩
    let read (files : FileSystem) (source : String) := readBack files none (Path.ofString source)
    ∃ after final summaries again,
      produce env Path.here (World.ofFiles (history fs [(older, none)])) =
        (after, .ok summaries) ∧
      produce env Path.here (World.ofFiles (history fs [])) = (final, .ok again) ∧
      (∃ contents, read after.files "b.dm" = .ok contents ∧ read final.files "b.dm" = .ok contents) ∧
      (read after.files "a.dm").toOption ≠ (read final.files "a.dm").toOption := by
  intro fs root older env read
  have succeeds (runs : List (Environment × Option Path)) (either : runs ∈ [[(older, none)], []]) :
      ∃ after summaries, produce env Path.here (World.ofFiles (history fs runs)) =
        (after, .ok summaries) := by
    have some : ∀ runs ∈ [[(older, none)], []],
        (produce env Path.here (World.ofFiles (history fs runs))).2.toOption.isSome = true := by
      decide +kernel
    have succeeds := some runs either
    cases produced : produce env Path.here (World.ofFiles (history fs runs)) with
    | mk after outcome =>
      rw [produced] at succeeds
      cases outcome with
      | error failure => cases succeeds
      | ok summaries => exact ⟨after, summaries, rfl⟩
  obtain ⟨after, summaries, produced⟩ := succeeds [(older, none)] (by simp)
  obtain ⟨final, again, reproduced⟩ := succeeds [] (by simp)
  have general := readBack_histories fs (by decide +kernel) [(older, none)] [] env none (by decide)
    after final summaries again produced reproduced
  refine ⟨after, final, summaries, again, produced, reproduced, ?_, ?_⟩
  · obtain ⟨own, fresh, -, -⟩ := general 2 (by decide) "b.dm" (by decide +kernel)
      (by decide +kernel) (by decide +kernel)
    have member : (2 : Int) ∈ collate env := Std.ExtTreeMap.mem_keys.mp (by decide +kernel)
    obtain ⟨id, listing, -, -, -, first, second⟩ := fresh (own member)
    exact ⟨_, first, second⟩
  · obtain ⟨-, -, -, agree⟩ := general 1 (by decide) "a.dm" (by decide +kernel)
      (by decide +kernel) (by decide +kernel)
    have unwritten : ∀ id ∈ (collate env).keys,
        env.target? Path.here id ≠ some (pseudoSourcePath Path.here "a.dm") := by
      decide +kernel
    have differ : (read (history fs [(older, none)]) "a.dm").toOption ≠
        (read (history fs []) "a.dm").toOption := by
      decide +kernel
    intro same
    rcases agree.mp same with ⟨id, member, aimed⟩ | before
    · exact unwritten id (Std.ExtTreeMap.mem_keys.mpr member) aimed
    · exact differ before

theorem readBack_stale :
    let fs : FileSystem := ⟨.ofList [(["w"], .directory)], Path.ofString "/w"⟩
    let root : TypeNode := ⟨"", ⟨0, 1⟩, none, ∅, ∅, []⟩
    let files := Std.ExtTreeMap.ofList [((1 : Int), "a.dm")]
    let older : Environment := ⟨files, root, [⟨⟨1, 1⟩, "// old"⟩]⟩
    let env : Environment := ⟨files, root, []⟩
    let after (runs : List (Environment × Option Path)) :=
      produce env Path.here (World.ofFiles (history fs runs))
    (after [(older, none)]).2 = .ok [] ∧ (after []).2 = .ok [] ∧
      readBack (after [(older, none)]).1.files none (Path.ofString "a.dm") =
        .ok "// old\n".toUTF8 ∧
      readBack (after []).1.files none (Path.ofString "a.dm") =
        .error (.noPseudoSource (Path.ofString "a.dm") (Path.ofString "dm2doxy/a..")) := by
  decide +kernel

end DreamDoc
