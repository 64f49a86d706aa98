import DreamDoc.Proofs.Definitions
import DreamDoc.Proofs.Layout
import DreamDoc.Proofs.ReadingOrder
import Mathlib.Data.List.Forall2

namespace DreamDoc

theorem Tree.getElem?_mapFragments {α β : Type} (f : α → β) (tree : Tree α) (file : Int) :
    (mapFragments f tree)[file]? =
      tree[file]?.map fun listing => listing.map fun _ fragments => fragments.map f := by
  rw [mapFragments, Std.ExtTreeMap.getElem?_map]

theorem Tree.line?_mapFragments {α β : Type} (f : α → β) (tree : Tree α) (location : Location) :
    (mapFragments f tree).line? location = (tree.line? location).map (List.map f) := by
  rw [line?, line?, getElem?_mapFragments, Option.bind_map, Option.map_bind]
  congr 1
  funext listing
  exact Std.ExtTreeMap.getElem?_map

/-- What a fragment is written as. A clause stands behind the opener of its class. -/
inductive Fragment.Spells : Fragment → String → Prop
  | opener (name : String) : Spells (.opener name) ("class " ++ name)
  | parentClause (name parent : String) : Spells (.parentClause name parent) (" extends " ++ parent)
  | openBrace : Spells .openBrace "\x7b"
  | closeBrace : Spells .closeBrace "\x7d"
  | definition (d : Definition) : Spells (.definition d) d.text

theorem Fragment.spells_iff {fragment : Fragment} {text : String} :
    fragment.Spells text ↔ fragment.text = text := by
  constructor
  · intro spells
    cases spells <;> rfl
  · rintro rfl
    cases fragment with
    | opener name => exact .opener name
    | parentClause name parent => exact .parentClause name parent
    | openBrace => exact .openBrace
    | closeBrace => exact .closeBrace
    | definition d => exact .definition d

/-- A line of a tree is written as its fragments are spelled, one by one. -/
theorem Tree.line?_texts (tree : Tree Fragment) (location : Location) (texts : List String) :
    (mapFragments Fragment.text tree).line? location = some texts ↔
      ∃ fragments, tree.line? location = some fragments ∧
        List.Forall₂ Fragment.Spells fragments texts := by
  have spelled (fragments : List Fragment) :
      fragments.map Fragment.text = texts ↔ List.Forall₂ Fragment.Spells fragments texts := by
    have each : Fragment.Spells = fun fragment text => fragment.text = text := by
      funext fragment text
      exact propext Fragment.spells_iff
    rw [each, ← List.forall₂_map_left_iff, List.forall₂_eq_eq_eq]
  simp only [line?_mapFragments, Option.map_eq_some_iff, spelled]

theorem mem_listing_iff {env : Environment} {file : Int} {listing : Listing Fragment}
    (found : (collate env)[file]? = some listing) (line : Int) :
    line ∈ listing ↔ env.Occupies ⟨file, line⟩ := by
  have held : listing[line]? = (collate env).line? ⟨file, line⟩ := by
    simp [Tree.line?, found]
  rw [Std.ExtTreeMap.mem_iff_isSome_getElem?, held, Tree.line?_collate,
    ← Environment.exists_mem_definitions]
  split
  · rename_i absent
    simp only [Option.isSome_none, Bool.false_eq_true, false_iff]
    rintro ⟨d, member⟩
    exact itemsAt_eq_nil.mp absent _ member rfl
  · rename_i present
    obtain ⟨d, member⟩ := List.exists_mem_of_ne_nil _ present
    simpa using ⟨d, mem_itemsAt.mp member⟩

theorem Listing.shows_contents {listing : Listing String} {last : Int}
    (greatest : listing.maxKey? = some last) (positive : ∀ entry ∈ listing.toList, 1 ≤ entry.1)
    (unbroken : ∀ entry ∈ listing.toList, ∀ fragment ∈ entry.2, '\n' ∉ fragment.toList) :
    Shows (fun line => (String.join (listing[line]?.getD [])).toList) 1 last listing.toList := by
  obtain ⟨occupied, above⟩ := Std.ExtTreeMap.maxKey?_eq_some_iff_mem_and_forall.mp greatest
  have look {entry : Int × List String} (member : entry ∈ listing.toList) :
      listing[entry.1]? = some entry.2 := Std.ExtTreeMap.mem_toList_iff_getElem?_eq_some.mp member
  constructor
  · exact Std.ExtTreeMap.ordered_keys_toList
  · intro entry member
    rw [lineBreaks, List.count_eq_zero, List.mem_flatMap]
    rintro ⟨fragment, inside, breaks⟩
    exact unbroken entry member fragment inside breaks
  · exact positive
  · intro entry member
    have present : entry.1 ∈ listing := by
      simp [Std.ExtTreeMap.mem_iff_isSome_getElem?, look member]
    exact Int.isLE_compare.mp (above entry.1 present)
  · obtain ⟨fragments, found⟩ :=
      Option.isSome_iff_exists.mp (Std.ExtTreeMap.mem_iff_isSome_getElem?.mp occupied)
    exact ⟨(last, fragments), Std.ExtTreeMap.mem_toList_iff_getElem?_eq_some.mpr found, rfl⟩
  · intro entry member
    simp [look member]
  · intro line reached absent
    cases found : listing[line]? with
    | none => simp
    | some fragments =>
      exact absurd rfl (absent _ (Std.ExtTreeMap.mem_toList_iff_getElem?_eq_some.mpr found))

theorem Listing.splitAt_render {listing : Listing String} {last : Int}
    (greatest : listing.maxKey? = some last) (positive : ∀ entry ∈ listing.toList, 1 ≤ entry.1)
    (unbroken : ∀ entry ∈ listing.toList, ∀ fragment ∈ entry.2, '\n' ∉ fragment.toList) :
    Text.splitAt '\n' listing.render.toList =
      (List.range last.toNat).map (fun n : Nat =>
        (String.join (listing[(n : Int) + 1]?.getD [])).toList) ++ [[]] := by
  have pieces := splitAt_layout (shows_contents greatest positive unbroken)
  rw [Int.add_sub_cancel] at pieces
  simpa only [Int.add_comm, render] using pieces

/-- Scaffolding occupies no line of its own. What is located on a line has as many line breaks
before it as there are lines before its own, if the comments that span lines leave room for what
follows them; and without such comments, the lines of the text are the lines of the listing. -/
theorem rendered_lines (env : Environment) (file : Int) (listing : Listing String)
    (found : (Tree.mapFragments Fragment.text (collate env))[file]? = some listing) :
    (∀ line, line ∈ listing ↔ env.Occupies ⟨file, line⟩) ∧
    ((∀ entry ∈ listing.toList, 1 ≤ entry.1) →
      listing.toList.IsChain Listing.LeavesRoom →
      (∀ line fragments, listing[line]? = some fragments →
        (∃ rest, listing.render =
          listing.textBefore line ++ String.join fragments ++ rest) ∧
        ((listing.textBefore line).toList.count '\n' : Int) = line - 1) ∧
      ((∀ entry ∈ listing.toList, ∀ fragment ∈ entry.2, '\n' ∉ fragment.toList) →
        ∃ last, listing.maxKey? = some last ∧
          Text.splitAt '\n' listing.render.toList =
            (List.range last.toNat).map (fun n : Nat =>
              (String.join (listing[(n : Int) + 1]?.getD [])).toList) ++ [[]])) := by
  rw [Tree.getElem?_mapFragments] at found
  obtain ⟨fragments, held, rfl⟩ := Option.map_eq_some_iff.mp found
  refine ⟨?_, ?_⟩
  · intro line
    rw [Std.ExtTreeMap.mem_map]
    exact mem_listing_iff held line
  · intro positive chain
    refine ⟨?_, ?_⟩
    · intro line fragments found
      refine ⟨Listing.render_split _ found, ?_⟩
      refine Listing.count_layoutBefore Std.ExtTreeMap.ordered_keys_toList
        (Listing.roomy_of_isChain chain ?_)
        (Std.ExtTreeMap.mem_toList_iff_getElem?_eq_some.mpr found)
      exact fun entry first => positive entry (List.mem_of_mem_head? first)
    · intro unbroken
      obtain ⟨last, greatest⟩ : ∃ last, (fragments.map fun _ held =>
          held.map Fragment.text).maxKey? = some last := by
        have occupied : fragments ≠ ∅ := Tree.ne_empty_of_ofStream held
        rw [← Option.isSome_iff_exists, Option.isSome_iff_ne_none, ne_eq,
          Std.ExtTreeMap.maxKey?_eq_none_iff]
        simpa using occupied
      exact ⟨last, greatest, Listing.splitAt_render greatest positive unbroken⟩

def commentedClass (comment : String) : Environment where
  files := ∅
  tree := ⟨"", ⟨1, 1⟩, none, ∅, ∅,
    [⟨"/obj", ⟨1, 4⟩, some "/datum", .ofList [("x", ⟨⟨1, 4⟩, none⟩)],
      .ofList [("f", ⟨⟨1, 6⟩, some .proc, []⟩)], []⟩]⟩
  comments := [⟨⟨1, 2⟩, comment⟩]

theorem rendered_lines_commentedClass :
    (∃ listing, (Tree.mapFragments Fragment.text
        (collate (commentedClass "/* a\n b */")))[(1 : Int)]? = some listing ∧
      listing[(4 : Int)]? = some ["class obj", " extends datum", "\x7b", "", " x;"] ∧
      ((listing.textBefore 4).toList.count '\n' : Int) = 4 - 1) ∧
    ∃ listing, (Tree.mapFragments Fragment.text (collate (commentedClass "// a")))[(1 : Int)]? =
        some listing ∧
      ∃ last, listing.maxKey? = some last ∧
        Text.splitAt '\n' listing.render.toList =
          (List.range last.toNat).map (fun n : Nat =>
            (String.join (listing[(n : Int) + 1]?.getD [])).toList) ++ [[]] := by
  constructor
  · obtain ⟨listing, found, lines⟩ : ∃ listing, (Tree.mapFragments Fragment.text
        (collate (commentedClass "/* a\n b */")))[(1 : Int)]? = some listing ∧
        listing.toList =
          [(2, ["/* a\n b */"]), (4, ["class obj", " extends datum", "\x7b", "", " x;"]),
            (6, ["proc f(", ")\x7b\x7d", "\x7d"])] :=
      Option.map_eq_some_iff.mp (by decide +kernel)
    have here : listing[(4 : Int)]? = some ["class obj", " extends datum", "\x7b", "", " x;"] := by
      rw [← Std.ExtTreeMap.mem_toList_iff_getElem?_eq_some, lines]
      decide
    have stands := (rendered_lines _ 1 listing found).2 (by rw [lines]; decide)
      (by rw [lines]; decide)
    exact ⟨listing, found, here, (stands.1 4 _ here).2⟩
  · obtain ⟨listing, found, lines⟩ : ∃ listing, (Tree.mapFragments Fragment.text
        (collate (commentedClass "// a")))[(1 : Int)]? = some listing ∧
        listing.toList =
          [(2, ["// a"]), (4, ["class obj", " extends datum", "\x7b", "", " x;"]),
            (6, ["proc f(", ")\x7b\x7d", "\x7d"])] :=
      Option.map_eq_some_iff.mp (by decide +kernel)
    have stands := (rendered_lines _ 1 listing found).2 (by rw [lines]; decide)
      (by rw [lines]; decide)
    exact ⟨listing, found, stands.2 (by rw [lines]; decide)⟩

end DreamDoc
