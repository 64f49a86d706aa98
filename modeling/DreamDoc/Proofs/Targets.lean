import DreamDoc.Path.Target
import DreamDoc.Proofs.FileSystems

namespace DreamDoc

theorem slash_not_mem_flatName (source : String) : '/' ∉ (flatName source).toList := by
  have flat : '/' ∉ flattenSeparators source := by
    unfold flattenSeparators
    grind
  unfold flatName
  simp only
  split
  · rw [String.toList_ofList]
    intro member
    rcases List.mem_append.mp member with before | ending
    · exact flat (List.mem_of_mem_take before)
    · simp at ending
  · rwa [String.toList_ofList]

theorem Path.root_join {base path : Path} (relative : path.root = .relative) :
    (base.join path).root = base.root := by
  simp [join, isAbsolute, relative]

theorem Path.names_join {base path : Path} (relative : path.root = .relative) :
    (base.join path).names = base.names ++ path.names := by
  simp [join, isAbsolute, relative]

theorem Path.root_parent (path : Path) : path.parent.root = path.root := rfl

theorem Path.names_parent (path : Path) : path.parent.names = path.names.dropLast := rfl

theorem Path.root_ofString {text : String} (relative : text.toList.head? ≠ some '/') :
    (ofString text).root = .relative := by
  have none : text.toList.takeWhile (· = '/') = [] := by
    cases found : text.toList with
    | nil => rfl
    | cons c rest =>
      apply List.takeWhile_cons_of_neg
      rw [found] at relative
      simpa using relative
  simp [ofString, rootOf, none]

/-- A text that is no name in a path although it has no separator. -/
def Nameless (text : String) : Prop := text = "" ∨ text = "."

instance (text : String) : Decidable (Nameless text) :=
  inferInstanceAs (Decidable (text = "" ∨ text = "."))

theorem Path.names_ofString_of_flat {text : String} (flat : '/' ∉ text.toList) :
    (ofString text).names = if Nameless text then [] else [text] := by
  simp only [ofString, Text.splitAt_eq_singleton flat, List.map_cons, List.map_nil,
    String.ofList_toList, List.filter_cons, List.filter_nil]
  by_cases nameless : Nameless text
  · have dropped : ¬(text ≠ "" ∧ text ≠ ".") := fun kept => nameless.elim kept.1 kept.2
    simp [nameless, dropped]
  · have kept : text ≠ "" ∧ text ≠ "." := not_or.mp nameless
    simp [nameless, kept]

theorem Path.ofString_of_flat {text : String} (flat : '/' ∉ text.toList) :
    (ofString text).root = .relative ∧
      ((ofString text).names = [] ∨ (ofString text).names = [text]) := by
  constructor
  · exact root_ofString fun starts => flat (List.mem_of_head? starts)
  · rw [names_ofString_of_flat flat]
    split
    · exact .inl rfl
    · exact .inr rfl

theorem root_outputDirectory : outputDirectory.root = .relative := by decide +kernel

theorem names_outputDirectory : outputDirectory.names = ["dm2doxy"] := by decide +kernel

theorem join_here_outputDirectory : Path.here.join outputDirectory = outputDirectory :=
  Path.ext (Path.root_join root_outputDirectory) (Path.names_join root_outputDirectory)

section Shape

variable (base : Path) (source : String)

theorem root_pseudoSourcePath :
    (pseudoSourcePath base source).root = (base.join outputDirectory).root :=
  Path.root_join (Path.ofString_of_flat (slash_not_mem_flatName source)).1

theorem names_pseudoSourcePath :
    (pseudoSourcePath base source).names = (base.join outputDirectory).names ∨
      ∃ name, (pseudoSourcePath base source).names =
        (base.join outputDirectory).names ++ [name] := by
  obtain ⟨relative, flat⟩ := Path.ofString_of_flat (slash_not_mem_flatName source)
  rw [pseudoSourcePath, Path.names_join relative]
  rcases flat with none | one
  · left
    rw [none, List.append_nil]
  · right
    exact ⟨_, by rw [one]⟩

theorem parent_pseudoSourcePath_leadsTo :
    (pseudoSourcePath base source).parent.LeadsTo (base.join outputDirectory) := by
  rw [Path.LeadsTo, Path.root_parent, Path.names_parent]
  refine ⟨root_pseudoSourcePath base source, ?_⟩
  rcases names_pseudoSourcePath base source with names | ⟨name, names⟩
  · rw [names]
    exact List.dropLast_prefix (base.join outputDirectory).names
  · exact ⟨[], by rw [List.append_nil, names, List.dropLast_concat]⟩

end Shape

theorem FileSystem.place_of_look {fs : FileSystem} {place target : List String}
    {contents : ByteArray} (seen : fs.look place = .file target contents) : place = target := by
  unfold look at seen
  split at seen
  · cases seen
  · cases seen
    rfl
  · cases seen

theorem FileSystem.follow_file_concat {fs : FileSystem} {place names target : List String}
    {name : String} {contents : ByteArray}
    (followed : fs.follow place (names ++ [name]) = .ok (.file target contents)) :
    ∃ directory, fs.follow place names = .ok (.directory directory) ∧
      target = directory ++ [name] := by
  obtain ⟨directory, reached, rest⟩ := follow_append followed
  refine ⟨directory, reached, ?_⟩
  rw [follow_cons] at rest
  split at rest
  · cases rest
  · obtain ⟨-, rest⟩ := rest
    split at rest
    · cases rest
    · exact (place_of_look rest.2).symm

theorem locate_pseudoSourcePath_injective {fs : FileSystem} {base : Path} {source other : String}
    {place : List String} {contents held : ByteArray}
    (located : fs.locate (pseudoSourcePath base source) = .ok (.file place contents))
    (again : fs.locate (pseudoSourcePath base other) = .ok (.file place held)) :
    pseudoSourcePath base source = pseudoSourcePath base other := by
  have roots : (pseudoSourcePath base source).root = (pseudoSourcePath base other).root := by
    rw [root_pseudoSourcePath, root_pseudoSourcePath]
  obtain ⟨-, -, followed⟩ := FileSystem.locate_eq_ok.mp located
  obtain ⟨-, -, followedAgain⟩ := FileSystem.locate_eq_ok.mp again
  have starts : fs.start (pseudoSourcePath base other) =
      fs.start (pseudoSourcePath base source) := by
    simp [FileSystem.start, Path.isAbsolute, roots]
  rw [starts] at followedAgain
  apply Path.ext roots
  rcases names_pseudoSourcePath base source with names | ⟨name, names⟩ <;>
    rcases names_pseudoSourcePath base other with others | ⟨twin, others⟩ <;>
    rw [names] at followed ⊢ <;> rw [others] at followedAgain ⊢
  · obtain ⟨directory, reached, -⟩ := FileSystem.follow_file_concat followedAgain
    rw [reached] at followed
    cases followed
  · obtain ⟨directory, reached, -⟩ := FileSystem.follow_file_concat followed
    rw [reached] at followedAgain
    cases followedAgain
  · obtain ⟨directory, reached, shape⟩ := FileSystem.follow_file_concat followed
    obtain ⟨same, met, twinShape⟩ := FileSystem.follow_file_concat followedAgain
    rw [reached] at met
    cases met
    rw [shape] at twinShape
    simpa using twinShape

section Apart

variable {base : Path} {source : String} {targets : Path → Prop} {toward : Path}
  {fs later : FileSystem} {place : List String} {contents : ByteArray}
  (shape : ∀ target, targets target → ∃ other, pseudoSourcePath base other = target)
  (apart : ¬targets (pseudoSourcePath base source))
  (confined : FileSystem.Confined targets toward fs later)

include shape apart confined

theorem file_before_of_apart
    (located : later.locate (pseudoSourcePath base source) = .ok (.file place contents)) :
    fs.find? place = some (.file contents) := by
  -- A target that leads to the same place would be the same path.
  have unwritten : ¬∃ target held, targets target ∧ later.locate target = .ok (.file place held) := by
    rintro ⟨target, held, aimed, shared⟩
    obtain ⟨other, rfl⟩ := shape target aimed
    rw [← locate_pseudoSourcePath_injective located shared] at aimed
    exact apart aimed
  obtain ⟨-, found⟩ := FileSystem.holds_of_locate located
  cases before : fs.find? place with
  | none =>
    obtain ⟨target, aimed, shared⟩ := confined.newFiles place contents before found
    exact absurd ⟨target, contents, aimed, shared⟩ unwritten
  | some entry =>
    cases entry with
    | directory => simp [confined.directories place before] at found
    | file held =>
      have kept := (confined.files place held before).resolve_right unwritten
      rw [← found, kept]

theorem locate_of_apart
    (located : fs.locate (pseudoSourcePath base source) = .ok (.file place contents)) :
    later.locate (pseudoSourcePath base source) = .ok (.file place contents) := by
  obtain ⟨held, stays⟩ := confined.grows.locate_file located
  have before := file_before_of_apart shape apart confined stays
  obtain ⟨-, found⟩ := FileSystem.holds_of_locate located
  rw [found] at before
  cases before
  exact stays

end Apart

end DreamDoc
