import DreamDoc.Proofs.Braces
import DreamDoc.Proofs.Definitions
import DreamDoc.Proofs.Lines
import DreamDoc.Proofs.Nesting

namespace DreamDoc

/-- The braces of a fragment are its own and come from no name. -/
def Fragment.Clean : Fragment → Prop
  | opener name => BraceFree name
  | parentClause _ parent => BraceFree parent
  | openBrace => True
  | closeBrace => True
  | definition d => Gentle d.text

def written (fragments : List Fragment) : List Char :=
  fragments.flatMap fun fragment => fragment.text.toList

theorem toList_join_text (fragments : List Fragment) :
    (String.join (fragments.map Fragment.text)).toList = written fragments := by
  rw [String.toList_join, List.flatMap_map, written]

namespace Reader

def height : Reader → Int
  | outside => 0
  | heading _ => 0
  | inside _ => 1

theorem height_bounds (reader : Reader) : 0 ≤ reader.height ∧ reader.height ≤ 1 := by
  cases reader <;> simp [height]

theorem Step.braces {reader next : Reader} {fragment : Fragment}
    (step : Step reader fragment next) (clean : fragment.Clean) :
    reader.height + depth fragment.text.toList = next.height ∧
      Within 2 reader.height fragment.text.toList := by
  have bounds := reader.height_bounds
  have stays {text : String} (gentle : Gentle text) :
      reader.height + depth text.toList = reader.height ∧
        Within 2 reader.height text.toList := by
    refine ⟨by rw [gentle.1, Int.add_zero], fun front before => ?_⟩
    have inner := gentle.2 front before
    omega
  cases step with
  | loose _ => exact stays clean
  | opener _ =>
    have word : BraceFree "class " := by decide
    exact stays (word.append clean).gentle
  | clause =>
    have word : BraceFree " extends " := by decide
    exact stays (word.append clean).gentle
  | brace => exact (by decide : 0 + depth "\x7b".toList = 1 ∧ Within 2 0 "\x7b".toList)
  | member _ => exact stays clean
  | close => exact (by decide : 1 + depth "\x7d".toList = 0 ∧ Within 2 1 "\x7d".toList)

theorem Run.braces {reader last : Reader} {fragments : List Fragment}
    (run : Run reader fragments last) (clean : ∀ fragment ∈ fragments, fragment.Clean) :
    reader.height + depth (written fragments) = last.height ∧
      Within 2 reader.height (written fragments) := by
  induction run with
  | @nil reader =>
    have bounds := reader.height_bounds
    exact ⟨Int.add_zero _, within_of_free (by simp [written]) (by omega) (by omega)⟩
  | cons step _ ih =>
    obtain ⟨reached, within⟩ := step.braces (clean _ List.mem_cons_self)
    obtain ⟨ends, rest⟩ := ih fun fragment member => clean fragment (List.mem_cons_of_mem _ member)
    rw [← reached] at ends rest
    simp only [written, List.flatMap_cons, depth_append] at ends rest ⊢
    exact ⟨by rw [← Int.add_assoc, ends], Within.append_iff.mpr ⟨within, rest⟩⟩

end Reader

namespace Listing

theorem braceFree_padding (count : Nat) :
    ∀ c ∈ List.replicate count '\n', c ≠ '\x7b' ∧ c ≠ '\x7d' := by
  intro c member
  rw [List.eq_of_mem_replicate member]
  decide

theorem depth_layoutBefore (target current : Int) (lines : List (Int × List String)) :
    depth (layoutBefore target current lines).toList =
      depth ((lines.takeWhile (·.1 < target)).flatMap fun entry =>
        (String.join entry.2).toList) := by
  induction lines generalizing current with
  | nil => rfl
  | cons head lines ih =>
    obtain ⟨line, fragments⟩ := head
    rw [layoutBefore, String.toList_append, String.toList_ofList, depth_append,
      depth_eq_zero (braceFree_padding _), Int.zero_add]
    by_cases less : line < target
    · rw [if_pos less, String.toList_append, depth_append, ih,
        List.takeWhile_cons_of_pos (by simpa using less), List.flatMap_cons, depth_append]
    · rw [if_neg less, List.takeWhile_cons_of_neg (by simpa using less)]
      rfl

theorem braces_layout {high level : Int} {lines : List (Int × List String)} (current : Int)
    (within : Within high level (lines.flatMap fun entry => (String.join entry.2).toList)) :
    depth (layout current lines).toList =
        depth (lines.flatMap fun entry => (String.join entry.2).toList) ∧
      Within high level (layout current lines).toList := by
  induction lines generalizing current level with
  | nil =>
    obtain ⟨low, top⟩ := within.bounds
    have ending : BraceFree "\n" := by decide
    exact ⟨depth_eq_zero ending, within_of_free ending low top⟩
  | cons head lines ih =>
    obtain ⟨line, fragments⟩ := head
    obtain ⟨low, top⟩ := within.bounds
    rw [List.flatMap_cons] at within ⊢
    obtain ⟨here, rest⟩ := Within.append_iff.mp within
    obtain ⟨flat, rest⟩ := ih (max current line + lineBreaks fragments) rest
    have padding := braceFree_padding (line - current).toNat
    simp only [layout, String.toList_append, String.toList_ofList, depth_append,
      depth_eq_zero padding, flat, Within.append_iff]
    refine ⟨by omega, ⟨within_of_free padding low top, ?_⟩, ?_⟩
    · rwa [Int.add_zero]
    · rwa [Int.zero_add]

def texts (listing : Listing Fragment) : Listing String :=
  listing.map fun _ fragments => fragments.map Fragment.text

def before (listing : Listing Fragment) (line : Int) : List Fragment :=
  (listing.toList.takeWhile (·.1 < line)).flatMap Prod.snd

theorem toList_texts (listing : Listing Fragment) :
    listing.texts.toList = listing.toList.map fun entry => (entry.1, entry.2.map Fragment.text) :=
  Std.ExtTreeMap.toList_map

theorem flatMap_join_texts (lines : List (Int × List Fragment)) :
    ((lines.map fun entry => (entry.1, entry.2.map Fragment.text)).flatMap fun entry =>
      (String.join entry.2).toList) = written (lines.flatMap Prod.snd) := by
  induction lines with
  | nil => rfl
  | cons head lines ih =>
    rw [List.map_cons, List.flatMap_cons, ih, toList_join_text]
    simp [written]

theorem depth_textBefore (listing : Listing Fragment) (line : Int) :
    depth (listing.texts.textBefore line).toList = depth (written (listing.before line)) := by
  rw [textBefore, depth_layoutBefore, toList_texts, List.takeWhile_map, flatMap_join_texts, before]
  rfl

theorem split_at_line {listing : Listing Fragment} {line : Int} {fragments : List Fragment}
    (found : listing[line]? = some fragments) :
    ∃ rest, listing.toList.flatMap Prod.snd = listing.before line ++ fragments ++ rest := by
  have member := Std.ExtTreeMap.mem_toList_iff_getElem?_eq_some.mpr found
  have ascending : Ascending listing.toList := Std.ExtTreeMap.ordered_keys_toList
  unfold before
  generalize listing.toList = lines at member ascending
  induction lines with
  | nil => cases member
  | cons head lines ih =>
    obtain ⟨below, ascending⟩ := List.pairwise_cons.mp ascending
    rcases List.mem_cons.mp member with rfl | member
    · refine ⟨lines.flatMap Prod.snd, ?_⟩
      rw [List.takeWhile_cons_of_neg (by simp)]
      rfl
    · have less : head.1 < line := Int.compare_eq_lt.mp (below _ member)
      obtain ⟨rest, split⟩ := ih member ascending
      refine ⟨rest, ?_⟩
      rw [List.takeWhile_cons_of_pos (by simpa using less), List.flatMap_cons, List.flatMap_cons,
        split]
      simp

/-- The text in front of a fragment, when `earlier` stands before it on its line. -/
def textUpTo (listing : Listing Fragment) (line : Int) (earlier : List Fragment) : String :=
  listing.texts.textBefore line ++ String.join (earlier.map Fragment.text)

theorem render_split_around {listing : Listing Fragment} {line : Int}
    {earlier block later : List Fragment}
    (here : listing[line]? = some (earlier ++ block ++ later)) :
    ∃ rest, listing.texts.render =
      listing.textUpTo line earlier ++ String.join (block.map Fragment.text) ++ rest := by
  have held : listing.texts[line]? = some ((earlier ++ block ++ later).map Fragment.text) := by
    rw [texts, Std.ExtTreeMap.getElem?_map, here]
    rfl
  obtain ⟨rest, rendered⟩ := render_split _ held
  refine ⟨String.join (later.map Fragment.text) ++ rest, ?_⟩
  rw [rendered, List.map_append, List.map_append, String.join_append, String.join_append]
  simp only [textUpTo, String.append_assoc]

theorem render_split_at {listing : Listing Fragment} {line : Int}
    {earlier later : List Fragment} {fragment : Fragment}
    (here : listing[line]? = some (earlier ++ fragment :: later)) :
    ∃ rest, listing.texts.render = listing.textUpTo line earlier ++ fragment.text ++ rest := by
  have around : listing[line]? = some (earlier ++ [fragment] ++ later) := by simpa using here
  simpa using render_split_around around

end Listing

section Collation

variable {env : Environment} {file : Int} {listing : Listing Fragment}

theorem clean_of_madeFrom (free : env.BraceFree) {fragment : Fragment}
    (made : MadeFrom env.parents env.stream fragment) : fragment.Clean := by
  cases made with
  | openBrace => trivial
  | closeBrace => trivial
  | opener member => exact (free.of_mem_definitions (env.mem_stream.mp member)).1
  | parentClause known =>
    obtain ⟨node, inside, extends_⟩ := Environment.exists_of_parents known
    exact (free.nodes node inside).parentClass extends_
  | definition member => exact (free.of_mem_definitions (env.mem_stream.mp member)).2

theorem clean_of_mem_listing (free : env.BraceFree) (found : (collate env)[file]? = some listing) :
    ∀ fragment ∈ listing.toList.flatMap Prod.snd, fragment.Clean := by
  rw [← map_snd_spread, env.spread_collate found]
  intro fragment member
  obtain ⟨⟨line, fragment⟩, inside, rfl⟩ := List.mem_map.mp member
  have settled : fragment ∈ itemsAt env.settled ⟨file, line⟩ :=
    mem_itemsAt.mpr (mem_inFile.mp inside)
  rw [env.itemsAt_settled] at settled
  exact clean_of_madeFrom free (BlockState.madeFrom_of_mem_scaffold _ (mem_itemsAt.mp settled))

theorem exists_reader_at (free : env.BraceFree) (found : (collate env)[file]? = some listing)
    {line : Int} {earlier later : List Fragment} {fragment : Fragment}
    (here : listing[line]? = some (earlier ++ fragment :: later)) :
    ∃ reader next, Reader.Run .outside (listing.before line ++ earlier) reader ∧
      Reader.Step reader fragment next ∧
      depth (listing.textUpTo line earlier).toList = reader.height := by
  obtain ⟨rest, whole⟩ := Listing.split_at_line here
  have split : listing.toList.flatMap Prod.snd =
      (listing.before line ++ earlier) ++ fragment :: (later ++ rest) := by
    rw [whole]
    simp
  have run := run_collate env found
  have clean := clean_of_mem_listing free found
  rw [split] at run clean
  obtain ⟨reader, next, before, step⟩ := run.at
  obtain ⟨reached, -⟩ := before.braces fun fragment member =>
    clean fragment (List.mem_append_left _ member)
  refine ⟨reader, next, before, step, ?_⟩
  rw [Listing.textUpTo, String.toList_append, depth_append, Listing.depth_textBefore,
    toList_join_text, ← depth_append, ← reached]
  simp [written, Reader.height]

end Collation

/-- Every rendered file has balanced braces and goes no deeper than two. Blocks and global
declarations start outside all braces, and the declarations of a class in a block of that class. -/
theorem rendered_braces_balance (env : Environment) (free : env.BraceFree) (file : Int)
    (listing : Listing Fragment) (found : (collate env)[file]? = some listing) :
    (Tree.mapFragments Fragment.text (collate env))[file]? = some listing.texts ∧
    Within 2 0 listing.texts.render.toList ∧ depth listing.texts.render.toList = 0 ∧
    ∀ line earlier fragment later, listing[line]? = some (earlier ++ fragment :: later) →
      (∃ rest, listing.texts.render = listing.textUpTo line earlier ++ fragment.text ++ rest) ∧
      (∀ owner, fragment = .opener owner → depth (listing.textUpTo line earlier).toList = 0) ∧
      ∀ d, fragment = .definition d → d.isComment = false →
        (d.owner = "" → depth (listing.textUpTo line earlier).toList = 0) ∧
        (d.owner ≠ "" → depth (listing.textUpTo line earlier).toList = 1 ∧
          InBlock d.owner (listing.before line ++ earlier)) := by
  obtain ⟨ends, within⟩ := (run_collate env found).braces (clean_of_mem_listing free found)
  rw [← Listing.flatMap_join_texts, ← Listing.toList_texts] at ends within
  obtain ⟨flat, rendered⟩ := Listing.braces_layout 1 within
  refine ⟨by rw [Tree.getElem?_mapFragments, found]; rfl, rendered, ?_, ?_⟩
  · rw [Listing.render, flat]
    simpa [Reader.height] using ends
  · intro line earlier fragment later here
    obtain ⟨reader, next, before, step, level⟩ := exists_reader_at free found here
    refine ⟨Listing.render_split_at here, ?_, ?_⟩
    · rintro owner rfl
      cases step
      exact level
    · rintro d rfl declares
      cases step with
      | loose loose =>
        have global : d.owner = "" := loose.resolve_left (by simp [declares])
        exact ⟨fun _ => level, fun named => absurd global named⟩
      | member belongs =>
        obtain ⟨rfl, named⟩ := belongs.resolve_left (by simp [declares])
        exact ⟨fun global => absurd global named, fun _ => ⟨level, before.inBlock⟩⟩

def crowdedLine : Environment where
  files := ∅
  tree := ⟨"", ⟨1, 1⟩, none, ∅, .ofList [("g", ⟨⟨1, 1⟩, some .proc, []⟩)],
    [⟨"/a", ⟨1, 1⟩, none, ∅, .ofList [("f", ⟨⟨1, 1⟩, some .verb, [⟨["obj"], "x"⟩]⟩)], []⟩,
      ⟨"/a/b", ⟨1, 1⟩, some "/a", .ofList [("v", ⟨⟨1, 3⟩, none⟩)], ∅, []⟩]⟩
  comments := [⟨⟨1, 2⟩, "// v"⟩]

theorem braceFree_crowdedLine : crowdedLine.BraceFree := by
  refine ⟨?_, by decide⟩
  intro node member
  simp only [crowdedLine, TypeNode.preorder_eq, List.flatMap_cons, List.flatMap_nil,
    List.append_nil, List.cons_append, List.nil_append, List.mem_cons, List.not_mem_nil,
    or_false] at member
  rcases member with rfl | rfl | rfl <;> exact ⟨by decide, by decide, by decide, by decide⟩

theorem rendered_braces_balance_crowdedLine :
    crowdedLine.BraceFree ∧ ∃ listing, (collate crowdedLine)[(1 : Int)]? = some listing ∧
      listing.texts.render = "proc g()\x7b\x7dclass a\x7bverb f(obj::x)\x7b\x7d\x7d" ++
        "class a::b extends a\x7b\n// v\n v;\x7d\n" ∧
      Within 2 0 listing.texts.render.toList ∧ depth listing.texts.render.toList = 0 ∧
      depth (listing.textUpTo 3 []).toList = 1 ∧ InBlock "a::b" (listing.before 3 ++ []) := by
  obtain ⟨listing, found, rendered⟩ : ∃ listing, (collate crowdedLine)[(1 : Int)]? = some listing ∧
      (listing.texts.render, listing[(3 : Int)]?) =
        ("proc g()\x7b\x7dclass a\x7bverb f(obj::x)\x7b\x7d\x7d" ++
            "class a::b extends a\x7b\n// v\n v;\x7d\n",
          some [.definition ⟨"a::b", " v;", false⟩, .closeBrace]) :=
    Option.map_eq_some_iff.mp (by decide +kernel)
  obtain ⟨text, line⟩ := Prod.ext_iff.mp rendered
  obtain ⟨-, within, flat, stands⟩ :=
    rendered_braces_balance crowdedLine braceFree_crowdedLine 1 listing found
  have member := (stands 3 [] _ _ line).2.2 _ rfl rfl
  exact ⟨braceFree_crowdedLine, listing, found, text, within, flat, member.2 (by decide)⟩

end DreamDoc
