import DreamDoc.Proofs.Targets
import Mathlib.Data.List.Forall2
import Mathlib.Data.Set.Operations

namespace DreamDoc

section FlatName

variable {source other : String}

def separators : List Char := ['/', '\x5c', '$']

/-- Sources are flattened alike exactly if they differ in nothing but how separators are written. -/
theorem flattenSeparators_eq_iff :
    flattenSeparators source = flattenSeparators other ↔
      List.Forall₂ (fun c d => c = d ∨ c ∈ separators ∧ d ∈ separators) source.toList
        other.toList := by
  rw [flattenSeparators, flattenSeparators, ← List.forall₂_eq_eq_eq, List.forall₂_map_left_iff,
    List.forall₂_map_right_iff]
  have each (c d : Char) : ((if c = '/' ∨ c = '\x5c' then '$' else c) =
      if d = '/' ∨ d = '\x5c' then '$' else d) ↔ c = d ∨ c ∈ separators ∧ d ∈ separators := by
    simp only [separators, List.mem_cons, List.not_mem_nil, or_false]
    grind
  simp only [each]

/-- Two flattened sources of which the second is the name that the first one gets. -/
def Takes (flat name : List Char) : Prop :=
  ∃ stem, flat = stem ++ ".dm".toList ∧ name = stem ++ "..".toList

theorem flatName_of_suffix {stem : List Char}
    (ending : flattenSeparators source = stem ++ ".dm".toList) :
    flatName source = String.ofList (stem ++ "..".toList) := by
  have found : ".dm".toList.isSuffixOf (flattenSeparators source) = true := by
    rw [ending, List.isSuffixOf_iff_suffix]
    exact List.suffix_append _ _
  have length : stem.length = (stem ++ ".dm".toList).length - 3 := by simp
  unfold flatName
  rw [if_pos found, ending, List.take_left' length]
  rfl

theorem flatName_of_not_suffix (plain : ¬".dm".toList <:+ flattenSeparators source) :
    flatName source = String.ofList (flattenSeparators source) :=
  if_neg (mt List.isSuffixOf_iff_suffix.mp plain)

theorem Takes.flatName_eq (takes : Takes (flattenSeparators source) (flattenSeparators other)) :
    flatName source = flatName other := by
  obtain ⟨stem, ending, dots⟩ := takes
  have plain : ¬".dm".toList <:+ flattenSeparators other := by
    rintro ⟨front, same⟩
    have last := congrArg List.getLast? (same.trans dots)
    simp at last
  rw [flatName_of_suffix ending, flatName_of_not_suffix plain, dots]

theorem takes_of_flatName_eq (ending : ".dm".toList <:+ flattenSeparators source)
    (plain : ¬".dm".toList <:+ flattenSeparators other) (same : flatName source = flatName other) :
    Takes (flattenSeparators source) (flattenSeparators other) := by
  obtain ⟨stem, split⟩ := ending
  rw [flatName_of_suffix split.symm, flatName_of_not_suffix plain, String.ofList_inj] at same
  exact ⟨stem, split.symm, same.symm⟩

theorem flatName_eq_iff :
    flatName source = flatName other ↔
      flattenSeparators source = flattenSeparators other ∨
        Takes (flattenSeparators source) (flattenSeparators other) ∨
        Takes (flattenSeparators other) (flattenSeparators source) := by
  constructor
  · intro same
    by_cases first : ".dm".toList <:+ flattenSeparators source
    · by_cases second : ".dm".toList <:+ flattenSeparators other
      · obtain ⟨stem, split⟩ := first
        obtain ⟨twin, again⟩ := second
        rw [flatName_of_suffix split.symm, flatName_of_suffix again.symm, String.ofList_inj,
          List.append_left_inj] at same
        rw [← split, ← again, same]
        exact .inl rfl
      · exact .inr (.inl (takes_of_flatName_eq first second same))
    · by_cases second : ".dm".toList <:+ flattenSeparators other
      · exact .inr (.inr (takes_of_flatName_eq second first same.symm))
      · rw [flatName_of_not_suffix first, flatName_of_not_suffix second, String.ofList_inj] at same
        exact .inl same
  · rintro (same | takes | takes)
    · simp only [flatName, same]
    · exact takes.flatName_eq
    · exact takes.flatName_eq.symm

theorem nameless_flatName : Nameless (flatName source) ↔ Nameless source := by
  have lengths : (flattenSeparators source).length = source.toList.length := by
    simp [flattenSeparators]
  simp only [Nameless, ← String.toList_inj]
  by_cases ending : ".dm".toList <:+ flattenSeparators source
  · -- Both the source and its name are too long.
    obtain ⟨stem, split⟩ := ending
    have long : 3 ≤ source.toList.length := by
      rw [← lengths, ← split]
      simp
    rw [flatName_of_suffix split.symm]
    constructor
    · rintro (empty | dot)
      · simp at empty
      · simpa using congrArg List.length dot
    · rintro (empty | dot)
      · simp [empty] at long
      · simp [dot] at long
  · rw [flatName_of_not_suffix ending, String.toList_ofList, flattenSeparators]
    refine or_congr (by simp) ?_
    constructor
    · intro dot
      obtain ⟨c, single, becomes⟩ := List.map_eq_singleton_iff.mp (show _ = ['.'] from dot)
      split at becomes
      · cases becomes
      · rw [single, becomes]
        rfl
    · intro dot
      rw [dot]
      rfl

end FlatName

theorem names_pseudoSourcePath_eq (base : Path) (source : String) :
    (pseudoSourcePath base source).names =
      (base.join outputDirectory).names ++ if Nameless source then [] else [flatName source] := by
  have flat := slash_not_mem_flatName source
  rw [pseudoSourcePath, Path.names_join (Path.ofString_of_flat flat).1,
    Path.names_ofString_of_flat flat]
  simp only [nameless_flatName]

theorem pseudoSourcePath_eq_iff_flatName {base : Path} {source other : String} :
    pseudoSourcePath base source = pseudoSourcePath base other ↔
      flatName source = flatName other ∨ Nameless source ∧ Nameless other := by
  constructor
  · intro same
    have equal := congrArg Path.names same
    rw [names_pseudoSourcePath_eq, names_pseudoSourcePath_eq, List.append_right_inj] at equal
    split at equal
    · split at equal
      · exact .inr ⟨‹_›, ‹_›⟩
      · cases equal
    · split at equal
      · cases equal
      · exact .inl (List.singleton_inj.mp equal)
  · intro same
    apply Path.ext
    · rw [root_pseudoSourcePath, root_pseudoSourcePath]
    · rw [names_pseudoSourcePath_eq, names_pseudoSourcePath_eq, List.append_right_inj]
      rcases same with same | ⟨first, second⟩
      · have nameless : Nameless source ↔ Nameless other := by
          rw [← nameless_flatName, same, nameless_flatName]
        simp only [same, nameless]
      · rw [if_pos first, if_pos second]

section Plain

variable {source : String} (unmarked : '$' ∉ source.toList) (forward : '\x5c' ∉ source.toList)

include unmarked forward

theorem toList_of_flattenSeparators :
    (flattenSeparators source).map (fun c => if c = '$' then '/' else c) = source.toList := by
  -- No character of the source becomes the mark but the slash.
  rw [flattenSeparators, List.map_map]
  refine (List.map_congr_left fun c member => ?_).trans (List.map_id _)
  have mark : c ≠ '$' := fun same => unmarked (same ▸ member)
  have backslash : c ≠ '\x5c' := fun same => forward (same ▸ member)
  by_cases slash : c = '/' <;> simp [slash, mark, backslash]

theorem Takes.suffix_dots {flat : List Char} (takes : Takes flat (flattenSeparators source)) :
    "..".toList <:+ source.toList := by
  obtain ⟨stem, -, dots⟩ := takes
  rw [← toList_of_flattenSeparators unmarked forward, dots, List.map_append]
  exact List.suffix_append _ _

end Plain

/-- Two sources share a target exactly if they differ in their separators only, if one of them is
spelled like the name of the other, or if neither of them gives a name. -/
theorem pseudoSourcePath_collisions (base : Path) :
    (∀ source other : String, pseudoSourcePath base source = pseudoSourcePath base other ↔
      flattenSeparators source = flattenSeparators other ∨
      (Takes (flattenSeparators source) (flattenSeparators other) ∨
        Takes (flattenSeparators other) (flattenSeparators source)) ∨
      Nameless source ∧ Nameless other) ∧
    Set.InjOn (pseudoSourcePath base) {source | source ≠ "" ∧ source ≠ "." ∧
      '$' ∉ source.toList ∧ '\x5c' ∉ source.toList ∧ ¬"..".toList <:+ source.toList} := by
  constructor
  · intro source other
    rw [pseudoSourcePath_eq_iff_flatName, flatName_eq_iff, or_assoc]
  · rintro source ⟨nonempty, noDot, unmarked, forward, noDots⟩ other
      ⟨-, -, alsoUnmarked, alsoForward, alsoNoDots⟩ same
    rw [pseudoSourcePath_eq_iff_flatName, flatName_eq_iff] at same
    rcases same with (flat | takes | takes) | nameless
    · -- Only the separators could differ, and there is one of them left.
      rw [← String.toList_inj, ← toList_of_flattenSeparators unmarked forward, flat,
        toList_of_flattenSeparators alsoUnmarked alsoForward]
    · exact absurd (takes.suffix_dots alsoUnmarked alsoForward) alsoNoDots
    · exact absurd (takes.suffix_dots unmarked forward) noDots
    · exact absurd nameless.1 (not_or.mpr ⟨nonempty, noDot⟩)

example :
    (pseudoSourcePath Path.here "code/a.dm" = pseudoSourcePath Path.here "code\x5ca.dm") ∧
      pseudoSourcePath Path.here "code/a.dm" = pseudoSourcePath Path.here "code$a.." ∧
      pseudoSourcePath Path.here "" = pseudoSourcePath Path.here "." ∧
      pseudoSourcePath Path.here "a" ≠ pseudoSourcePath Path.here "a.dm" := by
  decide +kernel

end DreamDoc
