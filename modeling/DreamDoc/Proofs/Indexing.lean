import DreamDoc.Collation
import DreamDoc.Proofs.Placement

namespace DreamDoc

open Std (TransOrd LawfulEqOrd)

section Sorting

variable {κ α : Type} [Ord κ] [TransOrd κ] {le : κ × α → κ × α → Bool}
  (byKey : ∀ a b, le a b = (compare a.1 b.1).isLE)

include byKey

theorem le_trans_of_byKey (a b c : κ × α) (first : le a b = true) (second : le b c = true) :
    le a c = true := by
  rw [byKey] at *
  exact Std.TransCmp.isLE_trans first second

theorem le_total_of_byKey (a b : κ × α) : (le a b || le b a) = true := by
  rw [byKey, byKey, Bool.or_eq_true, Std.OrientedOrd.eq_swap (a := b.1)]
  cases compare a.1 b.1 <;> simp

theorem inOrder_mergeSort (items : List (κ × α)) : InOrder (items.mergeSort le) := by
  have sorted :=
    List.pairwise_mergeSort (le_trans_of_byKey byKey) (le_total_of_byKey byKey) items
  refine sorted.imp fun {a b} atMost => ?_
  rwa [byKey] at atMost

variable [DecidableEq κ]

theorem itemsAt_mergeSort (items : List (κ × α)) (key : κ) :
    itemsAt (items.mergeSort le) key = itemsAt items key := by
  have own : itemsAt (items.filter (·.1 = key)) key = itemsAt items key := by
    rw [itemsAt, itemsAt, List.filterMap_filter]
    congr 1
    funext item
    by_cases here : item.1 = key <;> simp [here]
  have tied : (items.filter (·.1 = key)).Pairwise fun a b => le a b = true := by
    rw [List.pairwise_filter]
    refine List.pairwise_of_forall fun a b first second => ?_
    rw [byKey, of_decide_eq_true first, of_decide_eq_true second]
    exact Std.ReflOrd.isLE_rfl
  -- Items of one key are in order as they stand, so the sort moves none past another.
  have sorted := List.sublist_mergeSort (le_trans_of_byKey byKey) (le_total_of_byKey byKey) tied
    List.filter_sublist
  have kept : (itemsAt items key).Sublist (itemsAt (items.mergeSort le) key) :=
    own ▸ sorted.filterMap _
  have lengths : (itemsAt (items.mergeSort le) key).length = (itemsAt items key).length :=
    ((items.mergeSort_perm le).filterMap _).length_eq
  exact (kept.eq_of_length lengths.symm).symm

variable [LawfulEqOrd κ]

theorem spread_gather_eq_mergeSort (items : List (κ × α)) :
    spread (gather items).toList = items.mergeSort le := by
  apply eq_of_itemsAt_eq (inOrder_spread (ascending_gather items)) (inOrder_mergeSort byKey items)
  intro key
  rw [itemsAt_spread_gather, itemsAt_mergeSort byKey]

end Sorting

theorem Location.decide_le_eq (a b : Location) : decide (a ≤ b) = (compare a b).isLE := by
  rw [Bool.eq_iff_iff, decide_eq_true_iff, isLE_compare]

/-- The index of definitions has ascending locations, each with some definitions, and is their
stable sort by location. It forgets the order between locations and nothing else. -/
theorem indexDefinitions_stable (definitions : List (Location × Definition)) :
    (indexDefinitions definitions).Pairwise (fun group next => group.1 < next.1) ∧
      (∀ group ∈ indexDefinitions definitions, group.2 ≠ []) ∧
      spread (indexDefinitions definitions) = definitions.mergeSort (fun a b => a.1 ≤ b.1) ∧
      ∀ others, indexDefinitions definitions = indexDefinitions others ↔
        ∀ location, itemsAt definitions location = itemsAt others location := by
  refine ⟨?_, ?_, ?_, ?_⟩
  · exact (ascending_gather definitions).imp Location.compare_eq_lt.mp
  · rintro ⟨location, held⟩ member
    exact (mem_toList_gather.mp member).1
  · exact spread_gather_eq_mergeSort (fun a b => Location.decide_le_eq a.1 b.1) definitions
  · intro others
    constructor
    · intro same location
      have spread := congrArg (fun groups => itemsAt (spread groups) location) same
      simpa only [indexDefinitions, itemsAt_spread_gather] using spread
    · intro same
      rw [indexDefinitions, indexDefinitions, gather_congr same]

theorem indexDefinitions_stable_interleaved :
    let f : Definition := ⟨"a", " f(", false⟩
    let v : Definition := ⟨"", " v;", false⟩
    let g : Definition := ⟨"a", " g(", false⟩
    let found := [((⟨2, 1⟩ : Location), f), (⟨1, 9⟩, v), (⟨2, 1⟩, g)]
    (⟨2, 1⟩, [f, g]) ∈ indexDefinitions found ∧ [f, g] ≠ [] ∧
      found.mergeSort (fun a b => a.1 ≤ b.1) = [(⟨1, 9⟩, v), (⟨2, 1⟩, f), (⟨2, 1⟩, g)] ∧
      indexDefinitions found ≠ indexDefinitions [(⟨2, 1⟩, g), (⟨1, 9⟩, v), (⟨2, 1⟩, f)] := by
  intro f v g found
  obtain ⟨-, held, sorted, same⟩ := indexDefinitions_stable found
  have index : indexDefinitions found = [(⟨1, 9⟩, [v]), (⟨2, 1⟩, [f, g])] := by decide +kernel
  have member : (⟨2, 1⟩, [f, g]) ∈ indexDefinitions found := by simp [index]
  refine ⟨member, held _ member, ?_, ?_⟩
  · rw [← sorted, index]
    rfl
  · rw [Ne, same]
    intro agree
    exact absurd (agree ⟨2, 1⟩) (by decide)

end DreamDoc
