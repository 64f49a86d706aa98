import DreamDoc.Proofs.Layout

/-!
# How far a line is delayed

A line starts at its own number, or further down if the line breaks of the lines before it reach
beyond that number. How far it is delayed depends on the delay of the line before it, the line
breaks of that line and the gap between the two numbers.
-/

namespace DreamDoc

namespace Listing

/-- Where the text stands behind some lines, when it stood at the line numbered `current` before
them. -/
def reached (current : Int) (lines : List (Int × List String)) : Int :=
  lines.foldl (fun reached entry => max entry.1 reached + lineBreaks entry.2) current

/-- Where a line starts, when some lines stand before it. -/
def startOf (before : List (Int × List String)) (line : Int) : Int := max line (reached 1 before)

def delay (before : List (Int × List String)) (line : Int) : Int := startOf before line - line

@[simp]
theorem reached_nil (current : Int) : reached current [] = current := rfl

@[simp]
theorem reached_cons (current line : Int) (fragments : List String)
    (rest : List (Int × List String)) :
    reached current ((line, fragments) :: rest) =
      reached (max line current + lineBreaks fragments) rest := rfl

theorem reached_concat (current line : Int) (fragments : List String)
    (before : List (Int × List String)) :
    reached current (before ++ [(line, fragments)]) =
      max line (reached current before) + lineBreaks fragments := by
  rw [reached, List.foldl_append]
  rfl

def spaced (gaps : List Nat) (lines : List (Int × List String)) : List Char :=
  (gaps.zipWith (fun gap entry => List.replicate gap '\n' ++ (String.join entry.2).toList)
    lines).flatten

theorem spaced_cons (gap : Nat) (gaps : List Nat) (line : Int) (fragments : List String)
    (rest : List (Int × List String)) :
    spaced (gap :: gaps) ((line, fragments) :: rest) =
      List.replicate gap '\n' ++ (String.join fragments).toList ++ spaced gaps rest := by
  rw [spaced, List.zipWith_cons_cons, List.flatten_cons]
  rfl

theorem spaced_split {gaps : List Nat} {gap : Nat} {line : Int} {fragments : List String}
    {before after : List (Int × List String)} (found : gaps[before.length]? = some gap) :
    spaced gaps (before ++ (line, fragments) :: after) =
      spaced gaps before ++ List.replicate gap '\n' ++ (String.join fragments).toList ++
        spaced (gaps.drop (before.length + 1)) after := by
  induction before generalizing gaps with
  | nil =>
    cases gaps with
    | nil => cases found
    | cons first gaps =>
      obtain rfl : first = gap := Option.some.inj found
      rw [List.nil_append, spaced_cons]
      simp [spaced]
  | cons head before ih =>
    cases gaps with
    | nil => cases found
    | cons first gaps =>
      rw [List.cons_append, spaced_cons, spaced_cons, ih (by simpa using found)]
      simp

theorem length_gaps (current : Int) (lines : List (Int × List String)) :
    (gaps current lines).length = lines.length := by
  induction lines generalizing current with
  | nil => rfl
  | cons head rest ih => rw [gaps, List.length_cons, List.length_cons, ih]

theorem layout_eq_spaced (current : Int) (lines : List (Int × List String)) :
    (layout current lines).toList = spaced (gaps current lines) lines ++ ['\n'] := by
  induction lines generalizing current with
  | nil => simp [layout, gaps, spaced]
  | cons head rest ih =>
    obtain ⟨line, fragments⟩ := head
    rw [layout, gaps, spaced_cons, String.toList_append, ih]
    simp

theorem count_layout (current : Int) (lines : List (Int × List String)) :
    ((layout current lines).toList.count '\n' : Int) = reached current lines - current + 1 := by
  induction lines generalizing current with
  | nil => simp [layout]
  | cons head rest ih =>
    obtain ⟨line, fragments⟩ := head
    have later := ih (max line current + lineBreaks fragments)
    rw [layout, Int.max_comm current, reached_cons]
    simp only [String.toList_append, String.toList_ofList, List.count_append,
      List.count_replicate_self, ← lineBreaks_eq]
    push_cast
    omega

theorem count_before (current line : Int) (fragments : List String)
    (before after : List (Int × List String)) :
    ∃ gap, (gaps current (before ++ (line, fragments) :: after))[before.length]? = some gap ∧
      ((spaced (gaps current (before ++ (line, fragments) :: after)) before ++
        List.replicate gap '\n').count '\n' : Int) =
        max line (reached current before) - current := by
  induction before generalizing current with
  | nil =>
    refine ⟨(line - current).toNat, rfl, ?_⟩
    rw [reached_nil, List.count_append, List.count_replicate_self]
    simp only [spaced, List.zipWith_nil_right, List.flatten_nil, List.count_nil]
    omega
  | cons head before ih =>
    obtain ⟨first, held⟩ := head
    obtain ⟨gap, found, count⟩ := ih (max current first + lineBreaks held)
    refine ⟨gap, found, ?_⟩
    rw [List.cons_append, gaps, spaced_cons, reached_cons, Int.max_comm first]
    simp only [List.count_append, List.count_replicate_self, ← lineBreaks_eq] at count ⊢
    push_cast at count ⊢
    omega

theorem mem_gaps {current : Int} {lines : List (Int × List String)} {gap : Nat} :
    gap ∈ gaps current lines ↔ ∃ before line fragments after,
      lines = before ++ (line, fragments) :: after ∧ gap = (line - reached current before).toNat := by
  induction lines generalizing current with
  | nil => simp [gaps]
  | cons head rest ih =>
    obtain ⟨first, held⟩ := head
    rw [gaps, List.mem_cons, ih]
    constructor
    · rintro (rfl | ⟨before, line, fragments, after, rfl, rfl⟩)
      · exact ⟨[], first, held, rest, rfl, rfl⟩
      · refine ⟨(first, held) :: before, line, fragments, after, rfl, ?_⟩
        rw [reached_cons, Int.max_comm first]
    · rintro ⟨before, line, fragments, after, split, rfl⟩
      cases before with
      | nil =>
        cases split
        exact .inl rfl
      | cons _ before =>
        obtain ⟨rfl, rfl⟩ := List.cons_eq_cons.mp split
        refine .inr ⟨before, line, fragments, after, rfl, ?_⟩
        rw [reached_cons, Int.max_comm first]

theorem isRenderable_eq_false_iff {listing : Listing String} :
    listing.isRenderable = false ↔ ∃ before line fragments after,
      listing.toList = before ++ (line, fragments) :: after ∧
        longestGap < line - reached 1 before := by
  have large (n : Int) : ¬n.toNat ≤ longestGap ↔ longestGap < n := by omega
  simp only [isRenderable, List.all_eq_false, decide_eq_true_eq, mem_gaps]
  constructor
  · rintro ⟨_, ⟨before, line, fragments, after, split, rfl⟩, long⟩
    exact ⟨before, line, fragments, after, split, (large _).mp long⟩
  · rintro ⟨before, line, fragments, after, split, long⟩
    exact ⟨_, ⟨before, line, fragments, after, split, rfl⟩, (large _).mpr long⟩

theorem delay_next (before : List (Int × List String)) (line next : Int)
    (fragments : List String) :
    delay (before ++ [(line, fragments)]) next =
      max 0 (delay before line + lineBreaks fragments - (next - line)) := by
  rw [delay, delay, startOf, startOf, reached_concat]
  omega

theorem exists_delay_eq_zero {before middle : List (Int × List String)} {line target : Int}
    {fragments held : List String}
    (covered : delay before line + lineBreaks (fragments ++ middle.flatMap Prod.snd) ≤
      target - line) :
    ∃ early next more late, middle ++ [(target, held)] = early ++ (next, more) :: late ∧
      delay (before ++ (line, fragments) :: early) next = 0 := by
  induction middle generalizing before line fragments with
  | nil =>
    refine ⟨[], target, held, [], rfl, ?_⟩
    rw [delay_next]
    simp only [List.flatMap_nil, List.append_nil] at covered
    omega
  | cons head middle ih =>
    obtain ⟨next, more⟩ := head
    by_cases onTime : delay (before ++ [(line, fragments)]) next = 0
    · exact ⟨[], next, more, middle ++ [(target, held)], rfl, onTime⟩
    · -- The delay goes on, so the gap up to the next line was used up whole.
      have breaks : lineBreaks (fragments ++ ((next, more) :: middle).flatMap Prod.snd) =
          lineBreaks fragments + lineBreaks (more ++ middle.flatMap Prod.snd) := by
        simp [lineBreaks, List.flatMap_append, List.count_append]
      have remaining : delay (before ++ [(line, fragments)]) next +
          lineBreaks (more ++ middle.flatMap Prod.snd) ≤ target - next := by
        rw [delay_next] at onTime ⊢
        omega
      obtain ⟨early, later, most, late, split, onTime⟩ := ih remaining
      refine ⟨(next, more) :: early, later, most, late, ?_, ?_⟩
      · rw [List.cons_append, split, List.cons_append]
      · simpa using onTime

/-- The text of a listing is its fragments in the order of their lines, with nothing but line breaks
between two lines and one at the end. A line starts at its own number or, if it is later than that,
where the line before it ends, and its delay is what is left of the delay and the line breaks of
that line when the gap between the two is taken off. -/
theorem rendered_placement (listing : Listing String) :
    (∃ gaps : List Nat, gaps.length = listing.toList.length ∧
      listing.render.toList = spaced gaps listing.toList ++ ['\n'] ∧
      ∀ before line fragments after, listing.toList = before ++ (line, fragments) :: after →
        ∃ gap rest, gaps[before.length]? = some gap ∧
          listing.render.toList = spaced gaps before ++ List.replicate gap '\n' ++
            (String.join fragments).toList ++ rest ∧
          ((spaced gaps before ++ List.replicate gap '\n').count '\n' : Int) =
            startOf before line - 1) ∧
    (listing.render.toList.count '\n' : Int) = reached 1 listing.toList ∧
    ∀ before line fragments after, listing.toList = before ++ (line, fragments) :: after →
      line ≤ startOf before line ∧
      (∀ next more later, after = (next, more) :: later →
        delay (before ++ [(line, fragments)]) next =
          max 0 (delay before line + lineBreaks fragments - (next - line))) ∧
      ∀ middle target held later, after = middle ++ (target, held) :: later →
        delay before line + lineBreaks (fragments ++ middle.flatMap Prod.snd) ≤ target - line →
        ∃ early next more late, middle ++ [(target, held)] = early ++ (next, more) :: late ∧
          delay (before ++ (line, fragments) :: early) next = 0 := by
  have text : listing.render.toList = spaced (gaps 1 listing.toList) listing.toList ++ ['\n'] :=
    layout_eq_spaced 1 listing.toList
  refine ⟨⟨gaps 1 listing.toList, length_gaps 1 _, text, ?_⟩, ?_, ?_⟩
  · intro before line fragments after split
    rw [text, split]
    obtain ⟨gap, found, count⟩ := count_before 1 line fragments before after
    rw [spaced_split found, List.append_assoc]
    exact ⟨gap, _, found, rfl, count⟩
  · rw [render, count_layout]
    omega
  · intro before line fragments after split
    refine ⟨Int.le_max_left _ _, ?_, ?_⟩
    · intro next more later following
      exact delay_next before line next fragments
    · intro middle target held later following covered
      exact exists_delay_eq_zero covered

theorem rendered_placement_overlapping :
    let listing : Listing String := .ofList
      [((-2 : Int), ["a\nb"]), (0, ["c"]), (3, ["d", "\n\n"]), (4, ["e"]), (7, ["f"])]
    listing.render = "a\nbc\nd\n\ne\n\nf\n" ∧
      (listing.render.toList.count '\n' : Int) = reached 1 listing.toList ∧
      ∃ before fragments after, listing.toList = before ++ (4, fragments) :: after ∧
        delay before 4 = 1 ∧ delay (before ++ [(4, fragments)]) 7 = 0 := by
  intro listing
  have lines : listing.toList =
      [(-2, ["a\nb"]), (0, ["c"]), (3, ["d", "\n\n"])] ++ (4, ["e"]) :: [(7, ["f"])] := by
    decide +kernel
  obtain ⟨-, count, placed⟩ := rendered_placement listing
  obtain ⟨-, next, -⟩ := placed _ _ _ _ lines
  refine ⟨by decide +kernel, count, _, _, _, lines, by decide, ?_⟩
  rw [next 7 ["f"] [] rfl]
  decide

end Listing

end DreamDoc
