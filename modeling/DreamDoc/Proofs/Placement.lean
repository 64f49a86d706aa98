import DreamDoc.Listing
import DreamDoc.Proofs.Streams

namespace DreamDoc

namespace Location

theorem ext {a b : Location} (file : a.file = b.file) (line : a.line = b.line) : a = b := by
  cases a; cases b
  simp_all

instance : LT Location := ⟨fun a b => a.file < b.file ∨ a.file = b.file ∧ a.line < b.line⟩

instance : LE Location := ⟨fun a b => a.file < b.file ∨ a.file = b.file ∧ a.line ≤ b.line⟩

theorem lt_iff {a b : Location} : a < b ↔ a.file < b.file ∨ a.file = b.file ∧ a.line < b.line :=
  Iff.rfl

theorem le_iff {a b : Location} : a ≤ b ↔ a.file < b.file ∨ a.file = b.file ∧ a.line ≤ b.line :=
  Iff.rfl

instance (a b : Location) : Decidable (a < b) :=
  inferInstanceAs (Decidable (a.file < b.file ∨ a.file = b.file ∧ a.line < b.line))

instance (a b : Location) : Decidable (a ≤ b) :=
  inferInstanceAs (Decidable (a.file < b.file ∨ a.file = b.file ∧ a.line ≤ b.line))

theorem compare_eq_lt {a b : Location} : compare a b = .lt ↔ a < b := by
  rw [compare_def, Ordering.then_eq_lt, Int.compare_eq_lt, Int.compare_eq_eq, Int.compare_eq_lt]
  exact Iff.rfl

theorem isLE_compare {a b : Location} : (compare a b).isLE ↔ a ≤ b := by
  rw [Ordering.isLE_iff_eq_lt_or_eq_eq, compare_eq_lt, Std.LawfulEqOrd.compare_eq_iff_eq, lt_iff,
    le_iff]
  constructor
  · rintro (less | rfl)
    · omega
    · omega
  · intro atMost
    by_cases same : a.file = b.file ∧ a.line = b.line
    · exact Or.inr (ext same.1 same.2)
    · left
      omega

theorem le_refl (a : Location) : a ≤ a := Or.inr ⟨rfl, Int.le_refl _⟩

theorem le_trans {a b c : Location} (first : a ≤ b) (second : b ≤ c) : a ≤ c := by
  rw [le_iff] at *
  omega

theorem lt_of_lt_of_le {a b c : Location} (first : a < b) (second : b ≤ c) : a < c := by
  rw [lt_iff, le_iff] at *
  omega

theorem le_of_lt {a b : Location} (less : a < b) : a ≤ b := by
  rw [lt_iff, le_iff] at *
  omega

theorem lt_of_le_of_ne {a b : Location} (atMost : a ≤ b) (apart : a ≠ b) : a < b := by
  have differ : ¬(a.file = b.file ∧ a.line = b.line) := fun same => apart (ext same.1 same.2)
  rw [le_iff] at atMost
  rw [lt_iff]
  omega

theorem ne_of_lt {a b : Location} (less : a < b) : a ≠ b := by
  rintro rfl
  rw [lt_iff] at less
  omega

theorem file_le {a b : Location} (atMost : a ≤ b) : a.file ≤ b.file := by
  rw [le_iff] at atMost
  omega

end Location

variable {α β : Type}

def inFile (stream : List (Location × α)) (file : Int) : List (Int × α) :=
  itemsAt (stream.map fun item => (item.1.file, item.1.line, item.2)) file

theorem inFile_cons (item : Location × α) (rest : List (Location × α)) (file : Int) :
    inFile (item :: rest) file =
      if item.1.file = file then (item.1.line, item.2) :: inFile rest file
      else inFile rest file := by
  rw [inFile, List.map_cons, itemsAt_cons]
  rfl

@[simp]
theorem inFile_append (stream others : List (Location × α)) (file : Int) :
    inFile (stream ++ others) file = inFile stream file ++ inFile others file := by
  simp [inFile]

theorem inFile_const (location : Location) (held : List α) (file : Int) :
    inFile (held.map fun a => (location, a)) file =
      if location.file = file then held.map fun a => (location.line, a) else [] := by
  have placed := itemsAt_const location.file file (held.map fun a => (location.line, a))
  rw [List.map_map] at placed
  rw [inFile, List.map_map]
  exact placed

theorem mem_inFile {stream : List (Location × α)} {file line : Int} {a : α} :
    (line, a) ∈ inFile stream file ↔ (⟨file, line⟩, a) ∈ stream := by
  rw [inFile, mem_itemsAt, List.mem_map]
  constructor
  · rintro ⟨⟨⟨_, _⟩, b⟩, member, equal⟩
    cases equal
    exact member
  · intro member
    exact ⟨_, member, rfl⟩

theorem itemsAt_inFile (stream : List (Location × α)) (location : Location) :
    itemsAt (inFile stream location.file) location.line = itemsAt stream location := by
  induction stream with
  | nil => rfl
  | cons item rest ih =>
    rw [inFile_cons, itemsAt_cons, ← ih]
    by_cases file : item.1.file = location.file
    · by_cases line : item.1.line = location.line
      · have same : item.1 = location := Location.ext file line
        rw [if_pos file, if_pos same, itemsAt_cons, if_pos line]
      · have apart : item.1 ≠ location := fun same => line (congrArg _ same)
        rw [if_pos file, if_neg apart, itemsAt_cons, if_neg line]
    · have apart : item.1 ≠ location := fun same => file (congrArg _ same)
      rw [if_neg file, if_neg apart]

theorem inOrder_inFile {stream : List (Location × α)} (inOrder : InOrder stream) (file : Int) :
    InOrder (inFile stream file) := by
  induction stream with
  | nil => exact List.Pairwise.nil
  | cons item rest ih =>
    obtain ⟨below, inOrder⟩ := List.pairwise_cons.mp inOrder
    rw [inFile_cons]
    split
    · rename_i here
      refine List.pairwise_cons.mpr ⟨?_, ih inOrder⟩
      rintro ⟨line, a⟩ member
      have atMost := Location.isLE_compare.mp (below _ (mem_inFile.mp member))
      rw [Location.le_iff] at atMost
      rw [Int.isLE_compare]
      simp only at atMost ⊢
      omega
    · exact ih inOrder

theorem filter_file_eq (stream : List (Location × α)) (file : Int) :
    stream.filter (fun item => item.1.file = file) =
      (inFile stream file).map fun item => (⟨file, item.1⟩, item.2) := by
  induction stream with
  | nil => rfl
  | cons item rest ih =>
    rw [inFile_cons, List.filter_cons, ih]
    by_cases here : item.1.file = file
    · have same : item.1 = ⟨file, item.1.line⟩ := Location.ext here rfl
      simp [here, ← same]
    · simp [here]

namespace Tree

def line? (tree : Tree α) (location : Location) : Option (List α) :=
  tree[location.file]?.bind fun listing => listing[location.line]?

theorem getElem?_ofStream (stream : List (Location × α)) (file : Int) :
    (ofStream stream)[file]? =
      if inFile stream file = [] then none else some (gather (inFile stream file)) := by
  rw [ofStream, Std.ExtTreeMap.getElem?_map, getElem?_gather]
  change Option.map _ (if inFile stream file = [] then none else some (inFile stream file)) = _
  split <;> rfl

theorem getElem?_ofStream_eq_none {stream : List (Location × α)} {file : Int} :
    (ofStream stream)[file]? = none ↔ ∀ line, itemsAt stream ⟨file, line⟩ = [] := by
  rw [getElem?_ofStream, ite_eq_left_iff]
  constructor
  · intro absent line
    have none : inFile stream file = [] := Decidable.by_contra fun present => nomatch absent present
    rw [← itemsAt_inFile, none, itemsAt_nil]
  · intro absent present
    obtain ⟨⟨line, a⟩, member⟩ := List.exists_mem_of_ne_nil _ present
    have held : a ∈ itemsAt stream ⟨file, line⟩ := mem_itemsAt.mpr (mem_inFile.mp member)
    rw [absent line] at held
    cases held

theorem line?_ofStream (stream : List (Location × α)) (location : Location) :
    (ofStream stream).line? location =
      if itemsAt stream location = [] then none else some (itemsAt stream location) := by
  rw [line?, getElem?_ofStream, ← itemsAt_inFile]
  by_cases absent : inFile stream location.file = []
  · simp [absent]
  · simp [absent, getElem?_gather]

theorem getElem?_ofStream_congr {stream others : List (Location × α)} {file : Int}
    (same : ∀ line, itemsAt stream ⟨file, line⟩ = itemsAt others ⟨file, line⟩) :
    (ofStream stream)[file]? = (ofStream others)[file]? := by
  have lines (line : Int) :
      itemsAt (inFile stream file) line = itemsAt (inFile others file) line := by
    rw [itemsAt_inFile stream ⟨file, line⟩, itemsAt_inFile others ⟨file, line⟩, same]
  have absent : inFile stream file = [] ↔ inFile others file = [] := by
    simp only [List.eq_nil_iff_forall_not_mem, Prod.forall, ← mem_itemsAt, lines]
  simp only [getElem?_ofStream, absent, gather_congr lines]

theorem ofStream_congr {stream others : List (Location × α)}
    (same : ∀ location, itemsAt stream location = itemsAt others location) :
    ofStream stream = ofStream others := by
  apply Std.ExtTreeMap.ext_getElem?
  intro file
  exact getElem?_ofStream_congr fun line => same ⟨file, line⟩

theorem ne_empty_of_ofStream {stream : List (Location × α)} {file : Int} {listing : Listing α}
    (found : (ofStream stream)[file]? = some listing) : listing ≠ ∅ := by
  rw [getElem?_ofStream] at found
  split at found
  · cases found
  · rename_i present
    obtain ⟨⟨line, a⟩, member⟩ := List.exists_mem_of_ne_nil _ present
    cases found
    intro empty
    have held := getElem?_gather (inFile stream file) line
    rw [empty, if_neg (List.ne_nil_of_mem (mem_itemsAt.mpr member))] at held
    simp at held

theorem spread_ofStream {stream : List (Location × α)} (inOrder : InOrder stream) {file : Int}
    {listing : Listing α} (found : (ofStream stream)[file]? = some listing) :
    spread listing.toList = inFile stream file := by
  rw [getElem?_ofStream] at found
  split at found
  · cases found
  · cases found
    exact spread_gather (inOrder_inFile inOrder file)

def reading (tree : Tree α) : List (Location × α) :=
  tree.toList.flatMap fun entry =>
    (spread entry.2.toList).map fun item => (⟨entry.1, item.1⟩, item.2)

theorem reading_ofStream {stream : List (Location × α)} (inOrder : InOrder stream) :
    (ofStream stream).reading = stream := by
  let byFile := stream.map fun item => (item.1.file, item.1.line, item.2)
  have files : InOrder byFile := by
    refine List.pairwise_map.mpr (inOrder.imp fun atMost => ?_)
    exact Int.isLE_compare.mpr (Location.file_le (Location.isLE_compare.mp atMost))
  have lines : ∀ entry ∈ (gather byFile).toList, spread (gather entry.2).toList = entry.2 := by
    rintro ⟨file, items⟩ member
    obtain ⟨-, rfl⟩ := mem_toList_gather.mp member
    exact spread_gather (inOrder_inFile inOrder file)
  calc (ofStream stream).reading
      = (gather byFile).toList.flatMap fun entry =>
          entry.2.map fun item => (⟨entry.1, item.1⟩, item.2) := by
        rw [reading, ofStream, Std.ExtTreeMap.toList_map, List.flatMap_map, List.flatMap_def,
          List.flatMap_def]
        congr 1
        apply List.map_congr_left
        intro entry member
        exact congrArg _ (lines entry member)
    _ = (spread (gather byFile).toList).map fun item => (⟨item.1, item.2.1⟩, item.2.2) := by
        simp [spread, List.map_flatMap, Function.comp_def]
    _ = stream := by
        rw [spread_gather files, List.map_map]
        exact List.map_id _

theorem perm_reading_ofStream (stream : List (Location × α)) :
    (ofStream stream).reading.Perm stream := by
  have sorted : ofStream stream = ofStream (spread (gather stream).toList) :=
    ofStream_congr fun location => (itemsAt_spread_gather stream location).symm
  rw [sorted, reading_ofStream (inOrder_spread (ascending_gather stream))]
  exact perm_of_itemsAt_eq (itemsAt_spread_gather stream)

theorem perm_spread_ofStream {stream : List (Location × α)} {file : Int} {listing : Listing α}
    (found : (ofStream stream)[file]? = some listing) :
    (spread listing.toList).Perm (inFile stream file) := by
  rw [getElem?_ofStream] at found
  split at found
  · cases found
  · cases found
    exact perm_of_itemsAt_eq (itemsAt_spread_gather (inFile stream file))

end Tree

end DreamDoc
