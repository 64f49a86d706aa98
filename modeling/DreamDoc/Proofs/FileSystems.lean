import DreamDoc.FileSystem

namespace DreamDoc

def Path.LeadsTo (path whole : Path) : Prop :=
  path.root = whole.root ∧ path.names <+: whole.names

theorem Path.LeadsTo.refl (path : Path) : path.LeadsTo path := ⟨rfl, List.prefix_rfl⟩

theorem Path.LeadsTo.trans {first second third : Path} (before : first.LeadsTo second)
    (after : second.LeadsTo third) : first.LeadsTo third :=
  ⟨before.1.trans after.1, before.2.trans after.2⟩

theorem Path.parent_leadsTo (path : Path) : path.parent.LeadsTo path :=
  ⟨rfl, List.dropLast_prefix path.names⟩

namespace FileSystem

def look (fs : FileSystem) (place : List String) : Spot :=
  match fs.find? place with
  | some .directory => .directory place
  | some (.file contents) => .file place contents
  | none => .vacant place

theorem look_of_file {fs : FileSystem} {place : List String} {contents : ByteArray}
    (found : fs.find? place = some (.file contents)) : fs.look place = .file place contents := by
  simp [look, found]

theorem follow_cons {fs : FileSystem} {place : List String} {name : String}
    {rest : List String} {spot : Spot} :
    fs.follow place (name :: rest) = .ok spot ↔
      if name = ".." then fs.follow place.dropLast rest = .ok spot
      else name.utf8ByteSize ≤ nameLimit ∧
        if fs.find? (place ++ [name]) = some .directory then
          fs.follow (place ++ [name]) rest = .ok spot
        else rest = [] ∧ fs.look (place ++ [name]) = spot := by
  rw [follow.eq_def]
  by_cases up : name = ".."
  · simp [up]
  · by_cases long : nameLimit < name.utf8ByteSize
    · simp [up, long, Nat.not_le.mpr long]
    · cases found : fs.find? (place ++ [name]) with
      | none => cases rest <;> simp [up, long, found, look, Nat.not_lt.mp long]
      | some entry =>
        cases entry with
        | directory => simp [up, long, found, Nat.not_lt.mp long]
        | file contents => cases rest <;> simp [up, long, found, look, Nat.not_lt.mp long]

structure Grows (fs later : FileSystem) : Prop where
  workdir : later.workdir = fs.workdir
  directories : ∀ place, fs.find? place = some .directory → later.find? place = some .directory
  files : ∀ place contents, fs.find? place = some (.file contents) →
    ∃ held, later.find? place = some (.file held)

end FileSystem

def Spot.seenIn (later : FileSystem) : Spot → Spot
  | directory place => .directory place
  | file place _ => later.look place
  | vacant place => later.look place

def Spot.Holds (fs : FileSystem) : Spot → Prop
  | directory _ => True
  | file place contents => place ≠ [] ∧ fs.find? place = some (.file contents)
  | vacant place => place ≠ [] ∧ fs.find? place = none

namespace FileSystem

theorem seenIn_look {fs later : FileSystem} {place : List String}
    (apart : fs.find? place ≠ some .directory) :
    (fs.look place).seenIn later = later.look place := by
  unfold look
  cases found : fs.find? place with
  | none => rfl
  | some entry =>
    cases entry with
    | directory => exact absurd found apart
    | file contents => rfl

theorem holds_look {fs : FileSystem} {place : List String} (below : place ≠ []) :
    (fs.look place).Holds fs := by
  unfold look
  cases found : fs.find? place with
  | none => exact ⟨below, found⟩
  | some entry =>
    cases entry with
    | directory => trivial
    | file contents => exact ⟨below, found⟩

theorem holds_of_follow {fs : FileSystem} {place names : List String} {spot : Spot}
    (followed : fs.follow place names = .ok spot) : spot.Holds fs := by
  induction names generalizing place with
  | nil =>
    cases followed
    trivial
  | cons name rest ih =>
    rw [follow_cons] at followed
    split at followed
    · exact ih followed
    · obtain ⟨-, followed⟩ := followed
      split at followed
      · exact ih followed
      · obtain ⟨-, rfl⟩ := followed
        exact holds_look (by simp)

theorem Grows.follow {fs later : FileSystem} (grows : Grows fs later) {place names : List String}
    {spot : Spot} (followed : fs.follow place names = .ok spot) :
    later.follow place names = .ok (spot.seenIn later) := by
  induction names generalizing place with
  | nil =>
    cases followed
    rfl
  | cons name rest ih =>
    rw [follow_cons] at followed ⊢
    split at followed
    · rename_i up
      rw [if_pos up]
      exact ih followed
    · rename_i down
      rw [if_neg down]
      obtain ⟨short, followed⟩ := followed
      refine ⟨short, ?_⟩
      split at followed
      · rename_i found
        rw [if_pos (grows.directories _ found)]
        exact ih followed
      · rename_i apart
        obtain ⟨rfl, rfl⟩ := followed
        rw [seenIn_look apart]
        split
        · rename_i found
          simp [FileSystem.follow, look, found]
        · exact ⟨rfl, rfl⟩

theorem follow_append {fs : FileSystem} {place names more : List String} {name : String}
    {spot : Spot} (followed : fs.follow place (names ++ name :: more) = .ok spot) :
    ∃ directory, fs.follow place names = .ok (.directory directory) ∧
      fs.follow directory (name :: more) = .ok spot := by
  induction names generalizing place with
  | nil => exact ⟨place, rfl, followed⟩
  | cons first names ih =>
    rw [List.cons_append, follow_cons] at followed
    split at followed
    · rename_i up
      obtain ⟨directory, reached, rest⟩ := ih followed
      exact ⟨directory, follow_cons.mpr (by rwa [if_pos up]), rest⟩
    · rename_i down
      obtain ⟨short, followed⟩ := followed
      split at followed
      · rename_i found
        obtain ⟨directory, reached, rest⟩ := ih followed
        refine ⟨directory, follow_cons.mpr ?_, rest⟩
        rw [if_neg down, if_pos found]
        exact ⟨short, reached⟩
      · simp at followed

section Locate

variable {fs later : FileSystem} {path : Path} {spot : Spot} {place : List String}
  {contents : ByteArray}

def start (fs : FileSystem) (path : Path) : List String :=
  if path.isAbsolute then [] else fs.workdir.names

theorem locate_eq_ok :
    fs.locate path = .ok spot ↔
      '\x00' ∉ path.toString.toList ∧ path.toString.utf8ByteSize ≤ pathLimit ∧
        fs.follow (fs.start path) path.names = .ok spot := by
  unfold locate start
  by_cases null : '\x00' ∈ path.toString.toList
  · simp [null]
  · by_cases long : pathLimit < path.toString.utf8ByteSize
    · simp [null, long, Nat.not_le.mpr long]
    · cases fs.follow (if path.isAbsolute then [] else fs.workdir.names) path.names <;>
        simp [null, long, Nat.not_lt.mp long]

theorem holds_of_locate (located : fs.locate path = .ok spot) : spot.Holds fs :=
  holds_of_follow (locate_eq_ok.mp located).2.2

theorem Grows.locate (grows : Grows fs later) (located : fs.locate path = .ok spot) :
    later.locate path = .ok (spot.seenIn later) := by
  obtain ⟨null, short, followed⟩ := locate_eq_ok.mp located
  have same : later.start path = fs.start path := by rw [start, start, grows.workdir]
  exact locate_eq_ok.mpr ⟨null, short, same ▸ grows.follow followed⟩

theorem Grows.locate_directory (grows : Grows fs later)
    (located : fs.locate path = .ok (.directory place)) :
    later.locate path = .ok (.directory place) :=
  grows.locate located

theorem Grows.locate_file (grows : Grows fs later)
    (located : fs.locate path = .ok (.file place contents)) :
    ∃ held, later.locate path = .ok (.file place held) := by
  obtain ⟨-, found⟩ : place ≠ [] ∧ fs.find? place = some (.file contents) :=
    holds_of_locate located
  obtain ⟨held, found⟩ := grows.files place contents found
  refine ⟨held, ?_⟩
  rw [grows.locate located]
  exact congrArg Except.ok (look_of_file found)

theorem grows_set (below : place ≠ []) {entry : Entry}
    (fits : ∀ old, fs.find? place = some old →
      ∃ before after, old = .file before ∧ entry = .file after) :
    Grows fs (fs.set place entry) where
  workdir := rfl
  directories other found := by
    rw [find?_set fs below]
    split
    · rename_i same
      subst same
      obtain ⟨before, after, equal, -⟩ := fits _ found
      cases equal
    · exact found
  files other contents found := by
    rw [find?_set fs below]
    split
    · rename_i same
      subst same
      obtain ⟨before, after, -, equal⟩ := fits _ found
      exact ⟨after, by rw [equal]⟩
    · exact ⟨contents, found⟩

end Locate

/-- Only where one of the targets leads have files changed or been added, and only on the way to
one directory have directories been added. -/
structure Confined (targets : Path → Prop) (toward : Path) (fs later : FileSystem) : Prop where
  workdir : later.workdir = fs.workdir
  directories : ∀ place, fs.find? place = some .directory → later.find? place = some .directory
  files : ∀ place contents, fs.find? place = some (.file contents) →
    later.find? place = some (.file contents) ∨
      ∃ target held, targets target ∧ later.locate target = .ok (.file place held)
  newDirectories : ∀ place, fs.find? place = none → later.find? place = some .directory →
    ∃ path : Path, path.LeadsTo toward ∧ later.locate path = .ok (.directory place)
  newFiles : ∀ place contents, fs.find? place = none →
    later.find? place = some (.file contents) →
    ∃ target, targets target ∧ later.locate target = .ok (.file place contents)

namespace Confined

variable {targets more : Path → Prop} {toward : Path} {fs middle later : FileSystem}

theorem grows (confined : Confined targets toward fs later) : Grows fs later where
  workdir := confined.workdir
  directories := confined.directories
  files place contents found := by
    rcases confined.files place contents found with kept | ⟨target, held, -, located⟩
    · exact ⟨contents, kept⟩
    · exact ⟨held, (holds_of_locate located).2⟩

theorem refl (targets : Path → Prop) (toward : Path) (fs : FileSystem) :
    Confined targets toward fs fs where
  workdir := rfl
  directories place found := found
  files place contents found := .inl found
  newDirectories place absent found := by
    rw [absent] at found
    cases found
  newFiles place contents absent found := by
    rw [absent] at found
    cases found

theorem mono (confined : Confined targets toward fs later)
    (inside : ∀ path, targets path → more path) {farther : Path}
    (leads : toward.LeadsTo farther) : Confined more farther fs later where
  workdir := confined.workdir
  directories := confined.directories
  files place contents found := by
    rcases confined.files place contents found with kept | ⟨target, held, aimed, located⟩
    · exact .inl kept
    · exact .inr ⟨target, held, inside target aimed, located⟩
  newDirectories place absent found := by
    obtain ⟨path, way, located⟩ := confined.newDirectories place absent found
    exact ⟨path, way.trans leads, located⟩
  newFiles place contents absent found := by
    obtain ⟨target, aimed, located⟩ := confined.newFiles place contents absent found
    exact ⟨target, inside target aimed, located⟩

theorem trans (first : Confined targets toward fs middle)
    (second : Confined targets toward middle later) : Confined targets toward fs later where
  workdir := second.workdir.trans first.workdir
  directories place found := second.directories place (first.directories place found)
  files place contents found := by
    rcases first.files place contents found with kept | ⟨target, held, aimed, located⟩
    · exact second.files place contents kept
    · obtain ⟨held, located⟩ := second.grows.locate_file located
      exact .inr ⟨target, held, aimed, located⟩
  newDirectories place absent found := by
    cases between : middle.find? place with
    | none => exact second.newDirectories place between found
    | some entry =>
      cases entry with
      | directory =>
        obtain ⟨path, way, located⟩ := first.newDirectories place absent between
        exact ⟨path, way, second.grows.locate_directory located⟩
      | file contents =>
        obtain ⟨held, kept⟩ := second.grows.files place contents between
        rw [found] at kept
        cases kept
  newFiles place contents absent found := by
    cases between : middle.find? place with
    | none => exact second.newFiles place contents between found
    | some entry =>
      cases entry with
      | directory =>
        rw [second.directories place between] at found
        cases found
      | file before =>
        obtain ⟨target, aimed, located⟩ := first.newFiles place before absent between
        obtain ⟨held, located⟩ := second.grows.locate_file located
        obtain ⟨-, kept⟩ := holds_of_locate located
        rw [found] at kept
        cases kept
        exact ⟨target, aimed, located⟩

end Confined

section Operations

variable {fs later : FileSystem} {path : Path} {contents : ByteArray}

theorem confined_set {targets : Path → Prop} {toward : Path} {place : List String}
    {entry : Entry} (below : place ≠ []) (grows : Grows fs (fs.set place entry))
    (directory : entry = .directory →
      ∃ path : Path, path.LeadsTo toward ∧
        (fs.set place entry).locate path = .ok (.directory place))
    (file : ∀ contents, entry = .file contents →
      ∃ target, targets target ∧ (fs.set place entry).locate target = .ok (.file place contents)) :
    Confined targets toward fs (fs.set place entry) where
  workdir := rfl
  directories := grows.directories
  files other contents found := by
    obtain ⟨held, kept⟩ := grows.files other contents found
    rw [find?_set fs below] at kept ⊢
    split
    · rename_i same
      subst same
      rw [if_pos rfl] at kept
      obtain ⟨target, aimed, located⟩ := file held (Option.some.inj kept)
      exact .inr ⟨target, held, aimed, located⟩
    · exact .inl found
  newDirectories other absent found := by
    rw [find?_set fs below] at found
    split at found
    · rename_i same
      subst same
      exact directory (Option.some.inj found)
    · rw [absent] at found
      cases found
  newFiles other contents absent found := by
    rw [find?_set fs below] at found
    split at found
    · rename_i same
      subst same
      exact file contents (Option.some.inj found)
    · rw [absent] at found
      cases found

theorem writeFile_eq_ok (wrote : fs.writeFile path contents = .ok later) :
    ∃ place, place ≠ [] ∧ later = fs.set place (.file contents) ∧ Grows fs later ∧
      later.locate path = .ok (.file place contents) := by
  have writes {place : List String} {spot : Spot} (located : fs.locate path = .ok spot)
      (below : place ≠ []) (seen : ∀ later : FileSystem, spot.seenIn later = later.look place)
      (fits : ∀ old, fs.find? place = some old → ∃ before, old = .file before) :
      Grows fs (fs.set place (.file contents)) ∧
        (fs.set place (.file contents)).locate path = .ok (.file place contents) := by
    have grows : Grows fs (fs.set place (.file contents)) := by
      refine grows_set below fun old found => ?_
      obtain ⟨before, equal⟩ := fits old found
      exact ⟨before, contents, equal, rfl⟩
    refine ⟨grows, ?_⟩
    rw [grows.locate located, seen, look_of_file]
    rw [find?_set fs below, if_pos rfl]
  unfold writeFile at wrote
  cases located : fs.locate path with
  | error failure => simp [located] at wrote
  | ok spot =>
    have holds := holds_of_locate located
    cases spot with
    | directory place => simp [located] at wrote
    | file place before =>
      simp only [located, Except.ok.injEq] at wrote
      subst wrote
      refine ⟨place, holds.1, rfl, writes located holds.1 (fun _ => rfl) ?_⟩
      intro old found
      rw [holds.2] at found
      exact ⟨before, (Option.some.inj found).symm⟩
    | vacant place =>
      simp only [located, Except.ok.injEq] at wrote
      subst wrote
      refine ⟨place, holds.1, rfl, writes located holds.1 (fun _ => rfl) ?_⟩
      intro old found
      rw [holds.2] at found
      cases found

theorem writeFile_confined (wrote : fs.writeFile path contents = .ok later) (toward : Path) :
    Confined (· = path) toward fs later := by
  obtain ⟨place, below, rfl, grows, located⟩ := writeFile_eq_ok wrote
  refine confined_set below grows (by simp) ?_
  rintro _ ⟨⟩
  exact ⟨path, rfl, located⟩

theorem makeDirectory_eq_ok (made : fs.makeDirectory path = .ok later) :
    ∃ place, place ≠ [] ∧ later = fs.set place .directory ∧ Grows fs later ∧
      later.locate path = .ok (.directory place) := by
  unfold makeDirectory at made
  cases located : fs.locate path with
  | error failure => simp [located] at made
  | ok spot =>
    cases spot with
    | directory place => simp [located] at made
    | file place contents => simp [located] at made
    | vacant place =>
      obtain ⟨below, absent⟩ : place ≠ [] ∧ fs.find? place = none := holds_of_locate located
      simp only [located, Except.ok.injEq] at made
      subst made
      have grows : Grows fs (fs.set place .directory) := grows_set below (by simp [absent])
      refine ⟨place, below, rfl, grows, ?_⟩
      have found : (fs.set place .directory).find? place = some .directory := by
        rw [find?_set fs below, if_pos rfl]
      rw [grows.locate located]
      simp [Spot.seenIn, look, found]

theorem isDirectory_iff : fs.isDirectory path = true ↔
    ∃ place, fs.locate path = .ok (.directory place) := by
  unfold isDirectory
  cases fs.locate path with
  | error failure => simp
  | ok spot => cases spot <;> simp

structure Prepares (fs : FileSystem) (path : Path) (later : FileSystem)
    (outcome : Except Failure Unit) : Prop where
  confined : Confined (fun _ => False) path fs later
  reached : outcome = .ok () → ∃ place, later.locate path = .ok (.directory place)

theorem ensureDirectory_prepares (fs : FileSystem) (path : Path) :
    Prepares fs path (fs.ensureDirectory path).1 (fs.ensureDirectory path).2 := by
  unfold ensureDirectory
  cases made : fs.makeDirectory path with
  | ok later =>
    obtain ⟨place, below, rfl, grows, located⟩ := makeDirectory_eq_ok made
    exact ⟨confined_set below grows (fun _ => ⟨path, .refl path, located⟩) (by simp),
      fun _ => ⟨place, located⟩⟩
  | error failure =>
    cases there : fs.isDirectory path with
    | true => exact ⟨.refl _ _ fs, fun _ => isDirectory_iff.mp there⟩
    | false => exact ⟨.refl _ _ fs, by simp⟩

theorem makeDirectoriesWithin_prepares (fs : FileSystem) (path : Path) (depth : Nat) :
    Prepares fs path (fs.makeDirectoriesWithin path depth).1
      (fs.makeDirectoriesWithin path depth).2 := by
  induction depth generalizing fs path with
  | zero => exact fs.ensureDirectory_prepares path
  | succ depth ih =>
    have first := fs.ensureDirectory_prepares path
    unfold makeDirectoriesWithin
    split
    · -- A directory on the way is missing, so the parent is made first.
      rename_i tried fault attempt
      rw [attempt] at first
      have above := ih tried path.parent
      have widened := above.confined.mono (fun _ none => none) path.parent_leadsTo
      split
      · rename_i parents made
        rw [made] at widened
        have again := parents.ensureDirectory_prepares path
        exact ⟨(first.confined.trans widened).trans again.confined, again.reached⟩
      · rename_i parents failure made
        rw [made] at widened
        exact ⟨first.confined.trans widened, by simp⟩
    · exact first

theorem makeDirectories_prepares (fs : FileSystem) (path : Path) :
    Prepares fs path (fs.makeDirectories path).1 (fs.makeDirectories path).2 :=
  fs.makeDirectoriesWithin_prepares path path.names.length

theorem makeDirectories_of_directory {place : List String}
    (located : fs.locate path = .ok (.directory place)) :
    fs.makeDirectories path = (fs, .ok ()) := by
  have there : fs.isDirectory path = true := isDirectory_iff.mpr ⟨place, located⟩
  have ensured : fs.ensureDirectory path = (fs, .ok ()) := by
    simp [ensureDirectory, makeDirectory, located, there]
  unfold makeDirectories
  cases path.names.length with
  | zero => exact ensured
  | succ depth => simp [makeDirectoriesWithin, ensured]

theorem readFile_of_locate {place : List String}
    (located : fs.locate path = .ok (.file place contents)) : fs.readFile path = .ok contents := by
  simp [readFile, located]

end Operations

structure SamePlaces (fs later : FileSystem) : Prop where
  workdir : later.workdir = fs.workdir
  keys : later.entries.keys = fs.entries.keys
  root : later.entries.get? [] = fs.entries.get? []

namespace SamePlaces

variable {fs middle later : FileSystem}

theorem refl (fs : FileSystem) : SamePlaces fs fs := ⟨rfl, rfl, rfl⟩

theorem trans (first : SamePlaces fs middle) (second : SamePlaces middle later) :
    SamePlaces fs later :=
  ⟨second.workdir.trans first.workdir, second.keys.trans first.keys, second.root.trans first.root⟩

theorem set {place : List String} {old : Entry} (below : place ≠ [])
    (found : fs.find? place = some old) (entry : Entry) :
    SamePlaces fs (fs.set place entry) where
  workdir := rfl
  keys := by
    rw [find?, if_neg below] at found
    exact Table.keys_insert_of_mem (Table.mem_keys_iff.mpr (by simp [found])) entry
  root := by simp [FileSystem.set, below]

theorem eq_of_find? (same : SamePlaces fs later)
    (entries : ∀ place entry, fs.find? place = some entry → later.find? place = some entry) :
    later = fs := by
  have values : ∀ place, later.entries.get? place = fs.entries.get? place := by
    intro place
    by_cases root : place = []
    · rw [root, same.root]
    · cases found : fs.entries.get? place with
      | none =>
        have absent : place ∉ later.entries.keys := by
          rw [same.keys, Table.mem_keys_iff]
          simp [found]
        simpa [Table.mem_keys_iff] using absent
      | some entry =>
        have kept := entries place entry (by rw [find?, if_neg root, found])
        rwa [find?, if_neg root] at kept
  have tables : later.entries = fs.entries := Table.eq_of_get?_eq same.keys values
  have workdirs := same.workdir
  cases fs
  cases later
  simp_all

end SamePlaces

end FileSystem

end DreamDoc
