import DreamDoc.Definition
import Mathlib.Data.Set.Operations

namespace DreamDoc

def marked (text : List Char) : List Char :=
  text.flatMap fun c => if c = '/' then scope.toList else [c]

def slashed : List Char → List Char
  | ':' :: ':' :: rest => '/' :: slashed rest
  | c :: rest => c :: slashed rest
  | [] => []

/-- The absolute path that a class name stands for. -/
def pathOfClass (name : String) : String := "/" ++ String.ofList (slashed name.toList)

theorem qualifiedName_eq_marked (relative : String) :
    qualifiedName ("/" ++ relative) = String.ofList (marked relative.toList) := by
  simp [qualifiedName, marked]

theorem slashed_cons {c : Char} (plain : c ≠ ':') (rest : List Char) :
    slashed (c :: rest) = c :: slashed rest := by
  rw [slashed.eq_def]
  split <;> simp_all

theorem slashed_marked {text : List Char} (plain : ':' ∉ text) : slashed (marked text) = text := by
  induction text with
  | nil => rfl
  | cons c rest ih =>
    obtain ⟨other, plain⟩ := not_or.mp (mt List.mem_cons.mpr plain)
    rw [marked, List.flatMap_cons, ← marked]
    by_cases slash : c = '/'
    · rw [if_pos slash, slash]
      exact congrArg ('/' :: ·) (ih plain)
    · rw [if_neg slash, List.singleton_append, slashed_cons (Ne.symm other), ih plain]

theorem marked_append (text rest : List Char) :
    marked (text ++ rest) = marked text ++ marked rest :=
  List.flatMap_append

theorem marked_eq_self {text : List Char} (single : '/' ∉ text) : marked text = text := by
  induction text with
  | nil => rfl
  | cons c rest ih =>
    obtain ⟨other, single⟩ := not_or.mp (mt List.mem_cons.mpr single)
    rw [marked, List.flatMap_cons, ← marked, ih single, if_neg (Ne.symm other),
      List.singleton_append]

theorem marked_intercalate {segments : List (List Char)}
    (single : ∀ segment ∈ segments, '/' ∉ segment) :
    marked (['/'].intercalate segments) = scope.toList.intercalate segments := by
  induction segments with
  | nil => rfl
  | cons segment rest ih =>
    obtain ⟨first, others⟩ := List.forall_mem_cons.mp single
    cases rest with
    | nil => simpa using marked_eq_self first
    | cons next rest =>
      have mark : marked ['/'] = scope.toList := rfl
      rw [List.intercalate_cons_cons, List.intercalate_cons_cons, marked_append, marked_append,
        marked_eq_self first, mark, ih others]

theorem pathOfClass_qualifiedName {path : String} (absolute : path.toList.head? = some '/')
    (plain : ':' ∉ path.toList) : pathOfClass (qualifiedName path) = path := by
  obtain ⟨rest, split⟩ := List.head?_eq_some_iff.mp absolute
  obtain rfl : path = "/" ++ String.ofList rest := by simp [← String.toList_inj, split]
  have plain : ':' ∉ rest := fun inside => plain (by simp [inside])
  rw [qualifiedName_eq_marked, pathOfClass, String.toList_ofList, String.toList_ofList,
    slashed_marked plain]

/-- The class names of absolute paths without colons are read back, so different paths have
different class names. A path that is put together from segments has the class name that is put
together from them with scope marks. -/
theorem qualifiedName_separates :
    (∀ path : String, path.toList.head? = some '/' → ':' ∉ path.toList →
      pathOfClass (qualifiedName path) = path) ∧
    Set.InjOn qualifiedName {path | path.toList.head? = some '/' ∧ ':' ∉ path.toList} ∧
    ∀ segments : List String, (∀ segment ∈ segments, '/' ∉ segment.toList) →
      qualifiedName ("/" ++ "/".intercalate segments) = scope.intercalate segments := by
  refine ⟨fun path => pathOfClass_qualifiedName, ?_, ?_⟩
  · rintro path ⟨absolute, plain⟩ other ⟨alsoAbsolute, alsoPlain⟩ same
    rw [← pathOfClass_qualifiedName absolute plain, same,
      pathOfClass_qualifiedName alsoAbsolute alsoPlain]
  · intro segments single
    rw [qualifiedName_eq_marked, ← String.toList_inj, String.toList_ofList,
      String.toList_intercalate, String.toList_intercalate]
    apply marked_intercalate
    simpa using single

theorem qualifiedName_separates_runs :
    qualifiedName "/a///b/" = "a::::::b::" ∧ pathOfClass "a::::::b::" = "/a///b/" ∧
      qualifiedName "/a/b" ≠ qualifiedName "/a//b" ∧
      qualifiedName "/a//b:c/" = scope.intercalate ["a", "", "b:c", ""] := by
  obtain ⟨decodes, injective, segmented⟩ := qualifiedName_separates
  have name : qualifiedName "/a///b/" = "a::::::b::" := by decide +kernel
  refine ⟨name, ?_, ?_, ?_⟩
  · rw [← name]
    exact decodes _ (by decide) (by decide)
  · intro same
    exact absurd (injective ⟨by decide, by decide⟩ ⟨by decide, by decide⟩ same) (by decide)
  · exact segmented ["a", "", "b:c", ""] (by decide)

end DreamDoc
