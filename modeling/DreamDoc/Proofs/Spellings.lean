import DreamDoc.Proofs.Collisions
import DreamDoc.Proofs.RoundTrip

/-!
# Spellings of a source

Emission finds the target of a source from its text, read-back from the printed form of its path.
Printing drops pieces of the text and adds none, so the two targets differ as soon as a piece is
dropped: neither the flattening nor the change of the extension makes up for it.
-/

namespace DreamDoc

namespace Text

theorem joinWith_eq_intercalate (sep : Char) (pieces : List (List Char)) :
    joinWith sep pieces = [sep].intercalate pieces := by
  induction pieces with
  | nil => rfl
  | cons piece pieces ih =>
    cases pieces with
    | nil => simp [joinWith]
    | cons next pieces => simp [joinWith, List.intercalate_cons_cons, ih]

theorem joinWith_sublist {sep : Char} {pieces others : List (List Char)}
    (inside : pieces.Sublist others) :
    (joinWith sep pieces).Sublist (joinWith sep others) := by
  induction inside with
  | slnil => exact .slnil
  | @cons pieces others piece inside ih =>
    cases others with
    | nil =>
      rw [List.sublist_nil.mp inside]
      exact List.nil_sublist _
    | cons next others => exact (ih.cons sep).trans (List.sublist_append_right piece _)
  | @cons_cons pieces others piece inside ih =>
    cases others with
    | nil =>
      rw [List.sublist_nil.mp inside]
    | cons next others =>
      cases pieces with
      | nil => exact List.sublist_append_left piece _
      | cons first pieces => exact (List.Sublist.refl piece).append (ih.cons_cons sep)

theorem suffix_joinWith_concat (sep : Char) (front : List (List Char)) (piece : List Char) :
    piece <:+ joinWith sep (front ++ [piece]) := by
  induction front with
  | nil => exact List.suffix_refl piece
  | cons first front ih =>
    have more : joinWith sep (first :: front ++ [piece]) =
        first ++ sep :: joinWith sep (front ++ [piece]) := by
      cases front <;> rfl
    rw [more]
    exact ih.trans ((List.suffix_cons sep _).trans (List.suffix_append first _))

theorem exists_splitAt_concat {sep c : Char} (apart : c ≠ sep) (text : List Char) :
    ∃ front piece, splitAt sep (text ++ [c]) = front ++ [piece ++ [c]] := by
  induction text with
  | nil => exact ⟨[], [], by simp [splitAt, apart]⟩
  | cons first text ih =>
    obtain ⟨front, piece, split⟩ := ih
    by_cases here : first = sep
    · exact ⟨[] :: front, piece, by simp [splitAt, here, split]⟩
    · cases front with
      | nil => exact ⟨[], first :: piece, by simp [splitAt, here, split]⟩
      | cons next front => exact ⟨(first :: next) :: front, piece, by simp [splitAt, here, split]⟩

end Text

namespace Path

def namesIn (text : List Char) : List (List Char) :=
  (Text.splitAt '/' text).filter fun piece => piece ≠ [] ∧ piece ≠ ['.']

theorem names_ofString (text : String) :
    (ofString text).names = (namesIn text.toList).map String.ofList := by
  have kept (piece : List Char) : (String.ofList piece ≠ "" ∧ String.ofList piece ≠ ".") ↔
      piece ≠ [] ∧ piece ≠ ['.'] := by
    simp only [ne_eq, ← String.toList_inj, String.toList_ofList]
    rfl
  simp only [ofString, namesIn, List.filter_map, Function.comp_def, kept]

section Relative

variable {text : String} (relative : text.toList.head? ≠ some '/')

include relative

theorem toList_printed :
    (ofString text).toString.toList =
      if namesIn text.toList = [] then ['.'] else Text.joinWith '/' (namesIn text.toList) := by
  rw [toString, names_ofString, root_ofString relative]
  by_cases none : namesIn text.toList = []
  · simp [none]
  · simp [none, Root.text, String.toList_intercalate, Text.joinWith_eq_intercalate,
      Function.comp_def]

theorem sublist_printed (named : namesIn text.toList ≠ []) :
    (ofString text).toString.toList.Sublist text.toList := by
  rw [toList_printed relative, if_neg named]
  have kept : (Text.joinWith '/' (namesIn text.toList)).Sublist
      (Text.joinWith '/' (Text.splitAt '/' text.toList)) :=
    Text.joinWith_sublist List.filter_sublist
  rwa [Text.joinWith_splitAt] at kept

theorem getLast?_printed {c : Char} (last : text.toList.getLast? = some c) (slash : c ≠ '/')
    (dot : c ≠ '.') : (ofString text).toString.toList.getLast? = some c := by
  obtain ⟨init, split⟩ := List.getLast?_eq_some_iff.mp last
  obtain ⟨front, piece, pieces⟩ := Text.exists_splitAt_concat slash init
  have names : ∃ others, namesIn text.toList = others ++ [piece ++ [c]] := by
    have proper : piece ++ [c] ≠ [] ∧ piece ++ [c] ≠ ['.'] := by
      refine ⟨by simp, fun single => dot ?_⟩
      simpa using congrArg List.getLast? single
    refine ⟨front.filter fun piece => piece ≠ [] ∧ piece ≠ ['.'], ?_⟩
    rw [namesIn, split, pieces, List.filter_append, List.filter_cons_of_pos (by simpa using proper),
      List.filter_nil]
  obtain ⟨others, names⟩ := names
  obtain ⟨rest, ends⟩ := Text.suffix_joinWith_concat '/' others (piece ++ [c])
  rw [toList_printed relative, names, if_neg (by simp), ← ends]
  simp

end Relative

end Path

section Agreement

variable {base : Path} {source : String} (relative : source.toList.head? ≠ some '/')

include relative

theorem not_takes_printed : ¬Takes (flattenSeparators source)
    (flattenSeparators (Path.ofString source).toString) := by
  rintro ⟨stem, ending, dots⟩
  -- The last name ends in the extension, so it is printed, and ends in no dot.
  have last : source.toList.getLast? = some 'm' := by
    have flat : (flattenSeparators source).getLast? = some 'm' := by simp [ending]
    rw [flattenSeparators, List.getLast?_map, Option.map_eq_some_iff] at flat
    obtain ⟨c, found, becomes⟩ := flat
    split at becomes
    · cases becomes
    · rw [found, becomes]
  have printed := Path.getLast?_printed relative last (by decide) (by decide)
  have flat := congrArg List.getLast? dots
  simp [flattenSeparators, printed] at flat

theorem not_printed_takes : ¬Takes (flattenSeparators (Path.ofString source).toString)
    (flattenSeparators source) := by
  rintro ⟨stem, ending, dots⟩
  have longer : (Path.ofString source).toString.toList.length = stem.length + 3 := by
    simpa [flattenSeparators] using congrArg List.length ending
  have shorter : source.toList.length = stem.length + 2 := by
    simpa [flattenSeparators] using congrArg List.length dots
  by_cases named : Path.namesIn source.toList = []
  · rw [Path.toList_printed relative, if_pos named, List.length_singleton] at longer
    omega
  · have atMost := (Path.sublist_printed relative named).length_le
    omega

theorem printed_eq_of_flat (nonempty : source ≠ "")
    (flat : flattenSeparators source = flattenSeparators (Path.ofString source).toString) :
    (Path.ofString source).toString = source := by
  by_cases named : Path.namesIn source.toList = []
  · -- Nothing is left of the source, and the dot stands for it.
    have dot : (Path.ofString source).toString = "." := by
      rw [← String.toList_inj, Path.toList_printed relative, if_pos named]
      rfl
    have nameless : Nameless source := by
      rw [← nameless_flatName, flatName_eq_iff.mpr (.inl flat), nameless_flatName, dot]
      exact .inr rfl
    rw [dot, nameless.resolve_left nonempty]
  · have lengths := congrArg List.length flat
    simp only [flattenSeparators, List.length_map] at lengths
    exact String.toList_inj.mp
      ((Path.sublist_printed relative named).eq_of_length lengths.symm)

theorem pseudoSourcePath_printed_iff :
    pseudoSourcePath base source = pseudoSourcePath base (Path.ofString source).toString ↔
      source = "" ∨ (Path.ofString source).toString = source := by
  rw [pseudoSourcePath_eq_iff_flatName, flatName_eq_iff]
  constructor
  · rintro ((flat | takes | takes) | ⟨rfl | rfl, -⟩)
    · by_cases empty : source = ""
      · exact .inl empty
      · exact .inr (printed_eq_of_flat relative empty flat)
    · exact absurd takes (not_takes_printed relative)
    · exact absurd takes (not_printed_takes relative)
    · exact .inl rfl
    · exact .inr (by decide +kernel)
  · rintro (rfl | normal)
    · exact .inr (by decide +kernel)
    · rw [normal]
      exact .inl (.inl rfl)

end Agreement

section Places

variable (workdir : Option Path)

/-- Emission places what it has for a source at the target. -/
def WrittenAt (source : String) (target : Path) : Prop :=
  ∀ env id listing world after summary, id ≠ builtinsFile → env.filePath? id = some source →
    emitFile env (workdir.getD Path.here) id listing world = (after, .ok summary) →
    world.files.place target listing.render.toUTF8 = (after.files, .ok ())

def readBackFailure (source target : Path) : Failure → Failure
  | .system .notFound _ => .noPseudoSource source target
  | failure => failure

/-- Read-back reads the target and nothing else. -/
def SoughtAt (source target : Path) : Prop :=
  ∀ fs, readBack fs workdir source = (fs.readFile target).mapError (readBackFailure source target)

theorem writtenAt_pseudoSourcePath (source : String) :
    WrittenAt workdir source (pseudoSourcePath (workdir.getD Path.here) source) := by
  intro env id listing world after summary foreign known emitted
  apply (emitFile_eq_ok emitted).1.placed
  simp [Environment.target?, foreign, known]

theorem soughtAt_pseudoSourcePath {source : Path} (relative : source.root = .relative) :
    SoughtAt workdir source (pseudoSourcePath (workdir.getD Path.here) source.toString) := by
  intro fs
  simp only [readBack, relativeToWorkdir_relative relative]
  cases fs.readFile (pseudoSourcePath (workdir.getD Path.here) source.toString) with
  | ok contents => rfl
  | error failure =>
    cases failure with
    | system fault path => cases fault <;> rfl
    | _ => rfl

end Places

/-- Emission writes where read-back of a relative source looks exactly if the source is empty or
spelled as its path is printed. -/
theorem targets_agree_iff (workdir : Option Path) :
    let written (source : String) := pseudoSourcePath (workdir.getD Path.here) source
    let sought (source : String) :=
      pseudoSourcePath (workdir.getD Path.here) (Path.ofString source).toString
    (∀ source : String, source.toList.head? ≠ some '/' →
      WrittenAt workdir source (written source) ∧
      SoughtAt workdir (Path.ofString source) (sought source) ∧
      (written source = sought source ↔
        source = "" ∨ (Path.ofString source).toString = source)) ∧
    ∀ source ∈ ["./a.dm", "code//a.dm", "a.dm/"], written source ≠ sought source := by
  intro written sought
  constructor
  · intro source relative
    exact ⟨writtenAt_pseudoSourcePath workdir source,
      soughtAt_pseudoSourcePath workdir (Path.root_ofString relative),
      pseudoSourcePath_printed_iff relative⟩
  · have crooked : ∀ source ∈ ["./a.dm", "code//a.dm", "a.dm/"],
        source.toList.head? ≠ some '/' ∧ source ≠ "" ∧
          (Path.ofString source).toString ≠ source := by
      decide +kernel
    intro source member same
    obtain ⟨relative, nonempty, spelled⟩ := crooked source member
    exact ((pseudoSourcePath_printed_iff relative).mp same).elim nonempty spelled

theorem targets_agree_iff_leading_dot :
    let env : Environment :=
      { commentedClass "// a" with files := .ofList [((1 : Int), "./a.dm")] }
    let world := World.ofFiles ⟨.ofList [(["w"], .directory)], Path.ofString "/w"⟩
    let after := (produce env Path.here world).1.files
    (after.readFile (pseudoSourcePath Path.here "./a.dm")).toOption.isSome = true ∧
      pseudoSourcePath Path.here "./a.dm" ≠ pseudoSourcePath Path.here "a.dm" ∧
      readBack after none (Path.ofString "./a.dm") =
        .error (.noPseudoSource (Path.ofString "a.dm") (Path.ofString "dm2doxy/a..")) := by
  intro env world after
  obtain ⟨general, crooked⟩ := targets_agree_iff none
  obtain ⟨-, looks, -⟩ := general "./a.dm" (by decide)
  have missing : after.readFile (pseudoSourcePath Path.here "a.dm") =
      .error (.system .notFound (Path.ofString "dm2doxy/a..")) := by
    decide +kernel
  refine ⟨by decide +kernel, crooked "./a.dm" (by simp), ?_⟩
  calc readBack after none (Path.ofString "./a.dm")
      = (after.readFile (pseudoSourcePath Path.here "a.dm")).mapError
          (readBackFailure (Path.ofString "./a.dm") (pseudoSourcePath Path.here "a.dm")) :=
        looks after
    _ = .error (.noPseudoSource (Path.ofString "./a.dm") (pseudoSourcePath Path.here "a.dm")) := by
        rw [missing]
        rfl
    _ = .error (.noPseudoSource (Path.ofString "a.dm") (Path.ofString "dm2doxy/a..")) := by
        decide +kernel

end DreamDoc
