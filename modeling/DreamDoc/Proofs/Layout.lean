import DreamDoc.Proofs.Streams
import DreamDoc.Listing
import DreamDoc.Text.Split
import Mathlib.Data.List.Chain

namespace DreamDoc

namespace Listing

theorem lineBreaks_eq (fragments : List String) :
    lineBreaks fragments = (String.join fragments).toList.count '\n' := by
  rw [lineBreaks, String.toList_join]

def layoutBefore (target current : Int) : List (Int × List String) → String
  | [] => ""
  | (line, fragments) :: rest =>
    String.ofList (List.replicate (line - current).toNat '\n') ++
      if line < target then
        String.join fragments ++
          layoutBefore target (max current line + lineBreaks fragments) rest
      else ""

def textBefore (listing : Listing String) (line : Int) : String :=
  layoutBefore line 1 listing.toList

theorem layout_split {lines : List (Int × List String)} (ascending : Ascending lines)
    {target : Int} {fragments : List String} (member : (target, fragments) ∈ lines)
    (current : Int) :
    ∃ rest, layout current lines =
      layoutBefore target current lines ++ String.join fragments ++ rest := by
  induction lines generalizing current with
  | nil => cases member
  | cons head lines ih =>
    obtain ⟨line, here⟩ := head
    obtain ⟨below, ascending⟩ := List.pairwise_cons.mp ascending
    rw [layout, layoutBefore]
    rcases List.mem_cons.mp member with equal | member
    · cases equal
      refine ⟨layout (max current target + lineBreaks fragments) lines, ?_⟩
      rw [if_neg (Int.lt_irrefl target), String.append_empty]
    · have less : line < target := Int.compare_eq_lt.mp (below _ member)
      obtain ⟨rest, split⟩ := ih ascending member (max current line + lineBreaks here)
      refine ⟨rest, ?_⟩
      rw [if_pos less, split]
      simp only [String.append_assoc]

theorem render_split (listing : Listing String) {line : Int} {fragments : List String}
    (found : listing[line]? = some fragments) :
    ∃ rest, listing.render = listing.textBefore line ++ String.join fragments ++ rest :=
  layout_split Std.ExtTreeMap.ordered_keys_toList
    (Std.ExtTreeMap.mem_toList_iff_getElem?_eq_some.mpr found) 1

def Roomy (current : Int) : List (Int × List String) → Prop
  | [] => True
  | (line, fragments) :: rest => current ≤ line ∧ Roomy (line + lineBreaks fragments) rest

/-- The line breaks of a line do not reach beyond the start of the next. -/
def LeavesRoom (entry next : Int × List String) : Prop :=
  entry.1 + lineBreaks entry.2 ≤ next.1

instance : DecidableRel LeavesRoom := fun _ _ => Int.decLe _ _

theorem roomy_of_isChain {lines : List (Int × List String)} (chain : lines.IsChain LeavesRoom)
    {current : Int} (reached : ∀ entry ∈ lines.head?, current ≤ entry.1) :
    Roomy current lines := by
  induction lines generalizing current with
  | nil => trivial
  | cons entry lines ih =>
    obtain ⟨room, chain⟩ := List.isChain_cons.mp chain
    exact ⟨reached entry rfl, ih chain room⟩

theorem count_layoutBefore {lines : List (Int × List String)} (ascending : Ascending lines)
    {current : Int} (roomy : Roomy current lines) {target : Int} {fragments : List String}
    (member : (target, fragments) ∈ lines) :
    ((layoutBefore target current lines).toList.count '\n' : Int) = target - current := by
  induction lines generalizing current with
  | nil => cases member
  | cons head lines ih =>
    obtain ⟨line, here⟩ := head
    obtain ⟨below, ascending⟩ := List.pairwise_cons.mp ascending
    obtain ⟨reached, roomy⟩ := roomy
    have padding : ((line - current).toNat : Int) = line - current := by omega
    rw [layoutBefore, String.toList_append, String.toList_ofList, List.count_append,
      List.count_replicate_self]
    rcases List.mem_cons.mp member with equal | member
    · cases equal
      simpa using padding
    · have less : line < target := Int.compare_eq_lt.mp (below _ member)
      have rest := ih ascending roomy member
      rw [if_pos less, String.toList_append, List.count_append, ← lineBreaks_eq,
        Int.max_eq_right reached]
      push_cast
      omega

theorem layout_of_lt {current line : Int} (less : current < line) (fragments : List String)
    (rest : List (Int × List String)) :
    (layout current ((line, fragments) :: rest)).toList =
      '\n' :: (layout (current + 1) ((line, fragments) :: rest)).toList := by
  have padding : (line - current).toNat = (line - (current + 1)).toNat + 1 := by omega
  have reached : max current line = max (current + 1) line := by omega
  rw [layout, layout, padding, reached]
  simp [List.replicate_succ]

theorem layout_self (line : Int) {fragments : List String} (unbroken : lineBreaks fragments = 0)
    (rest : List (Int × List String)) :
    (layout line ((line, fragments) :: rest)).toList =
      (String.join fragments).toList ++ (layout line rest).toList := by
  rw [layout, unbroken]
  simp

/-- From the line reached first up to the last one, `contents` gives what the lines hold. -/
structure Shows (contents : Int → List Char) (current last : Int)
    (lines : List (Int × List String)) : Prop where
  ascending : Ascending lines
  unbroken : ∀ entry ∈ lines, lineBreaks entry.2 = 0
  first : ∀ entry ∈ lines, current ≤ entry.1
  greatest : ∀ entry ∈ lines, entry.1 ≤ last
  occupied : ∃ entry ∈ lines, entry.1 = last
  held : ∀ entry ∈ lines, contents entry.1 = (String.join entry.2).toList
  empty : ∀ line, current ≤ line → (∀ entry ∈ lines, entry.1 ≠ line) → contents line = []

namespace Shows

variable {contents : Int → List Char} {current last line : Int} {fragments : List String}
  {rest : List (Int × List String)}

theorem above (shows : Shows contents current last ((line, fragments) :: rest)) :
    ∀ entry ∈ rest, line < entry.1 :=
  fun entry member => Int.compare_eq_lt.mp ((List.pairwise_cons.mp shows.ascending).1 entry member)

theorem skip (shows : Shows contents current last ((line, fragments) :: rest))
    (less : current < line) : Shows contents (current + 1) last ((line, fragments) :: rest) where
  ascending := shows.ascending
  unbroken := shows.unbroken
  first entry member := by
    rcases List.mem_cons.mp member with rfl | member
    · exact less
    · have above := shows.above entry member
      omega
  greatest := shows.greatest
  occupied := shows.occupied
  held := shows.held
  empty n reached := shows.empty n (by omega)

theorem next (shows : Shows contents line last ((line, fragments) :: rest)) (more : rest ≠ []) :
    Shows contents (line + 1) last rest where
  ascending := shows.ascending.tail
  unbroken entry member := shows.unbroken entry (List.mem_cons_of_mem _ member)
  first := shows.above
  greatest entry member := shows.greatest entry (List.mem_cons_of_mem _ member)
  occupied := by
    obtain ⟨entry, member, same⟩ := shows.occupied
    rcases List.mem_cons.mp member with rfl | member
    · obtain ⟨other, inside⟩ := List.exists_mem_of_ne_nil rest more
      have above := shows.above other inside
      have atMost := shows.greatest other (List.mem_cons_of_mem _ inside)
      simp only at same
      omega
    · exact ⟨entry, member, same⟩
  held entry member := shows.held entry (List.mem_cons_of_mem _ member)
  empty n reached absent := by
    refine shows.empty n (by omega) fun entry member => ?_
    rcases List.mem_cons.mp member with rfl | member
    · simp only
      omega
    · exact absent entry member

end Shows

theorem not_mem_join {fragments : List String} (unbroken : lineBreaks fragments = 0) :
    '\n' ∉ (String.join fragments).toList := by
  rwa [lineBreaks_eq, List.count_eq_zero] at unbroken

theorem splitAt_layout {contents : Int → List Char} {current last : Int}
    {lines : List (Int × List String)} (shows : Shows contents current last lines) :
    Text.splitAt '\n' (layout current lines).toList =
      (List.range (last + 1 - current).toNat).map (fun n : Nat => contents (current + n)) ++
        [[]] := by
  -- One line of text is read in each step, occupied or not.
  induction left : (last + 1 - current).toNat generalizing current lines with
  | zero =>
    obtain ⟨entry, member, same⟩ := shows.occupied
    have reached := shows.first entry member
    omega
  | succ steps ih =>
    have shifted : (fun n : Nat => contents (current + n)) ∘ Nat.succ =
        fun n : Nat => contents (current + 1 + n) := by
      funext n
      simp only [Function.comp_apply, Nat.succ_eq_add_one]
      congr 1
      omega
    rw [List.range_succ_eq_map, List.map_cons, List.map_map, shifted]
    cases lines with
    | nil =>
      obtain ⟨entry, member, -⟩ := shows.occupied
      cases member
    | cons head rest =>
      obtain ⟨line, fragments⟩ := head
      have reached : current ≤ line := shows.first _ List.mem_cons_self
      by_cases less : current < line
      · have blank : contents current = [] := by
          refine shows.empty current (Int.le_refl _) fun entry member => ?_
          have atLeast := (shows.skip less).first entry member
          omega
        rw [layout_of_lt less, Text.splitAt, if_pos rfl, ih (shows.skip less) (by omega)]
        simp [blank]
      · obtain rfl : current = line := by omega
        have unbroken := shows.unbroken _ List.mem_cons_self
        have here := shows.held _ List.mem_cons_self
        simp only at unbroken here
        rw [layout_self current unbroken]
        cases rest with
        | nil =>
          obtain ⟨entry, member, same⟩ := shows.occupied
          obtain rfl := List.mem_singleton.mp member
          obtain rfl : steps = 0 := by
            simp only at same
            omega
          have ending : (layout current []).toList = ['\n'] := by simp [layout]
          rw [ending, Text.splitAt_append (not_mem_join unbroken)]
          simp [here, Text.splitAt]
        | cons next rest =>
          have above := shows.above next List.mem_cons_self
          rw [layout_of_lt above, Text.splitAt_append (not_mem_join unbroken),
            ih (shows.next (by simp)) (by omega)]
          simp [here]

end Listing

end DreamDoc
