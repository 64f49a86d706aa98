import DreamDoc.Gathering

namespace DreamDoc

open Std (ExtTreeMap TransOrd LawfulEqOrd TransCmp OrientedCmp LawfulEqCmp)

variable {κ α β : Type}

section Items

variable [DecidableEq κ]

@[simp]
theorem itemsAt_nil (key : κ) : itemsAt ([] : List (κ × α)) key = [] := rfl

@[simp]
theorem itemsAt_append (items others : List (κ × α)) (key : κ) :
    itemsAt (items ++ others) key = itemsAt items key ++ itemsAt others key :=
  List.filterMap_append

theorem mem_itemsAt {items : List (κ × α)} {key : κ} {a : α} :
    a ∈ itemsAt items key ↔ (key, a) ∈ items := by
  induction items with
  | nil => simp
  | cons item rest ih =>
    rw [itemsAt_cons, List.mem_cons, Prod.ext_iff]
    by_cases same : item.1 = key
    · simp [same, ih]
    · simp [same, ih, Ne.symm same]

theorem itemsAt_eq_nil {items : List (κ × α)} {key : κ} :
    itemsAt items key = [] ↔ ∀ item ∈ items, item.1 ≠ key := by
  simp [itemsAt]

theorem itemsAt_map (f : α → β) (items : List (κ × α)) (key : κ) :
    itemsAt (items.map fun item => (item.1, f item.2)) key = (itemsAt items key).map f := by
  induction items with
  | nil => rfl
  | cons item rest ih =>
    rw [List.map_cons, itemsAt_cons, itemsAt_cons, ih]
    split <;> rfl

theorem itemsAt_const (key other : κ) (held : List α) :
    itemsAt (held.map fun a => (key, a)) other = if key = other then held else [] := by
  induction held with
  | nil => simp
  | cons a rest ih =>
    rw [List.map_cons, itemsAt_cons, ih]
    split <;> rfl

theorem itemsAt_map_place {ε : Type} (place : ε → κ) (f : ε → α) (entries : List ε) (key : κ) :
    itemsAt (entries.map fun entry => (place entry, f entry)) key =
      (entries.filter (place · = key)).map f := by
  induction entries with
  | nil => rfl
  | cons entry rest ih =>
    rw [List.map_cons, itemsAt_cons, ih, List.filter_cons]
    by_cases here : place entry = key <;> simp [here]

theorem itemsAt_flatMap_place {ε : Type} (place : ε → κ) (f : ε → List α) (entries : List ε)
    (key : κ) :
    itemsAt (entries.flatMap fun entry => (f entry).map fun a => (place entry, a)) key =
      (entries.filter (place · = key)).flatMap f := by
  induction entries with
  | nil => rfl
  | cons entry rest ih =>
    rw [List.flatMap_cons, itemsAt_append, itemsAt_const, ih, List.filter_cons]
    by_cases here : place entry = key <;> simp [here]

theorem itemsAt_append_comm {items others : List (κ × α)} {key : κ}
    (apart : itemsAt items key = [] ∨ itemsAt others key = []) :
    itemsAt (items ++ others) key = itemsAt (others ++ items) key := by
  rcases apart with none | none <;> simp [none]

theorem count_itemsAt [DecidableEq α] (items : List (κ × α)) (key : κ) (a : α) :
    (itemsAt items key).count a = items.count (key, a) := by
  induction items with
  | nil => rfl
  | cons item rest ih =>
    rw [itemsAt_cons, List.count_cons, ← ih]
    by_cases here : item.1 = key
    · simp [here, List.count_cons, Prod.ext_iff]
    · simp [here, Prod.ext_iff]

theorem perm_of_itemsAt_eq {items others : List (κ × α)}
    (same : ∀ key, itemsAt items key = itemsAt others key) : items.Perm others := by
  classical
  rw [List.perm_iff_count]
  rintro ⟨key, a⟩
  rw [← count_itemsAt, ← count_itemsAt, same]

end Items

def spread (groups : List (κ × List α)) : List (κ × α) :=
  groups.flatMap fun group => group.2.map fun a => (group.1, a)

theorem spread_cons (group : κ × List α) (groups : List (κ × List α)) :
    spread (group :: groups) = (group.2.map fun a => (group.1, a)) ++ spread groups := rfl

theorem mem_spread {groups : List (κ × List α)} {key : κ} {a : α} :
    (key, a) ∈ spread groups ↔ ∃ held, (key, held) ∈ groups ∧ a ∈ held := by
  simp only [spread, List.mem_flatMap, List.mem_map, Prod.mk.injEq]
  constructor
  · rintro ⟨group, member, b, inside, rfl, rfl⟩
    exact ⟨group.2, member, inside⟩
  · rintro ⟨held, member, inside⟩
    exact ⟨(key, held), member, a, inside, rfl, rfl⟩

theorem map_snd_spread (groups : List (κ × List α)) :
    (spread groups).map Prod.snd = groups.flatMap Prod.snd := by
  simp [spread, List.map_flatMap, Function.comp_def]

section Order

variable [Ord κ]

def InOrder (items : List (κ × α)) : Prop :=
  items.Pairwise fun a b => (compare a.1 b.1).isLE

def Ascending (items : List (κ × α)) : Prop :=
  items.Pairwise fun a b => compare a.1 b.1 = .lt

theorem ne_of_compare_lt [Std.ReflOrd κ] {low high : κ} (less : compare low high = .lt) :
    low ≠ high := by
  rintro rfl
  rw [Std.ReflOrd.compare_self] at less
  cases less

theorem itemsAt_spread [LawfulEqOrd κ] [DecidableEq κ] {groups : List (κ × List α)}
    (ascending : Ascending groups) {key : κ} {held : List α} (member : (key, held) ∈ groups) :
    itemsAt (spread groups) key = held := by
  induction groups with
  | nil => cases member
  | cons group groups ih =>
    obtain ⟨below, ascending⟩ := List.pairwise_cons.mp ascending
    rw [spread_cons, itemsAt_append, itemsAt_const]
    rcases List.mem_cons.mp member with rfl | member
    · have absent : itemsAt (spread groups) key = [] := by
        rw [itemsAt_eq_nil]
        rintro ⟨other, a⟩ inside
        obtain ⟨others, member, -⟩ := mem_spread.mp inside
        exact (ne_of_compare_lt (below (other, others) member)).symm
      simp [absent]
    · have apart : group.1 ≠ key := ne_of_compare_lt (below (key, held) member)
      simp [apart, ih ascending member]

variable [TransOrd κ]

theorem ascending_gather (items : List (κ × α)) : Ascending (gather items).toList :=
  ExtTreeMap.ordered_keys_toList

theorem inOrder_spread {groups : List (κ × List α)} (ascending : Ascending groups) :
    InOrder (spread groups) := by
  induction groups with
  | nil => exact List.Pairwise.nil
  | cons group groups ih =>
    obtain ⟨below, ascending⟩ := List.pairwise_cons.mp ascending
    rw [spread_cons, InOrder, List.pairwise_append]
    refine ⟨?_, ih ascending, ?_⟩
    · rw [List.pairwise_map]
      exact List.pairwise_of_forall fun _ _ => Std.ReflOrd.isLE_rfl
    · rintro ⟨low, a⟩ first ⟨high, b⟩ second
      obtain ⟨held, member, -⟩ := mem_spread.mp second
      obtain ⟨c, -, equal⟩ := List.mem_map.mp first
      have less := below (high, held) member
      cases equal
      exact Ordering.isLE_of_eq_lt less

variable [LawfulEqOrd κ] [DecidableEq κ]

theorem head_eq_of_itemsAt_eq {item other : κ × α} {rest others : List (κ × α)}
    (first : InOrder (item :: rest)) (second : InOrder (other :: others))
    (same : ∀ key, itemsAt (item :: rest) key = itemsAt (other :: others) key) : item = other := by
  have least {item other : κ × α} {rest others : List (κ × α)} (inOrder : InOrder (item :: rest))
      (same : ∀ key, itemsAt (item :: rest) key = itemsAt (other :: others) key) :
      (compare item.1 other.1).isLE := by
    have present : other.2 ∈ itemsAt (item :: rest) other.1 := by simp [same, itemsAt_cons]
    rcases List.mem_cons.mp (mem_itemsAt.mp present) with equal | later
    · rw [← equal]
      exact Std.ReflOrd.isLE_rfl
    · exact (List.pairwise_cons.mp inOrder).1 _ later
  have keys : item.1 = other.1 := LawfulEqOrd.eq_of_compare <|
    OrientedCmp.isLE_antisymm (least first same) (least second fun key => (same key).symm)
  have values := same item.1
  rw [itemsAt_cons, itemsAt_cons, if_pos rfl, if_pos keys.symm] at values
  exact Prod.ext keys (List.cons.inj values).1

theorem eq_of_itemsAt_eq {items others : List (κ × α)} (first : InOrder items)
    (second : InOrder others) (same : ∀ key, itemsAt items key = itemsAt others key) :
    items = others := by
  induction items generalizing others with
  | nil =>
    cases others with
    | nil => rfl
    | cons other others => simpa [itemsAt_cons] using same other.1
  | cons item rest ih =>
    cases others with
    | nil => simpa [itemsAt_cons] using same item.1
    | cons other others =>
      obtain rfl := head_eq_of_itemsAt_eq first second same
      congr 1
      refine ih first.tail second.tail fun key => ?_
      have equal := same key
      rw [itemsAt_cons, itemsAt_cons] at equal
      split at equal
      · exact (List.cons.inj equal).2
      · exact equal

theorem gather_congr {items others : List (κ × α)}
    (same : ∀ key, itemsAt items key = itemsAt others key) : gather items = gather others := by
  apply ExtTreeMap.ext_getElem?
  intro key
  rw [getElem?_gather, getElem?_gather, same]

theorem mem_toList_gather {items : List (κ × α)} {key : κ} {held : List α} :
    (key, held) ∈ (gather items).toList ↔ held ≠ [] ∧ held = itemsAt items key := by
  rw [ExtTreeMap.mem_toList_iff_getElem?_eq_some, getElem?_gather]
  split <;> grind

theorem itemsAt_spread_gather (items : List (κ × α)) (key : κ) :
    itemsAt (spread (gather items).toList) key = itemsAt items key := by
  by_cases absent : itemsAt items key = []
  · rw [absent, itemsAt_eq_nil]
    rintro ⟨other, a⟩ inside rfl
    obtain ⟨held, member, -⟩ := mem_spread.mp inside
    obtain ⟨nonempty, rfl⟩ := mem_toList_gather.mp member
    exact nonempty absent
  · exact itemsAt_spread (ascending_gather items) (mem_toList_gather.mpr ⟨absent, rfl⟩)

theorem exists_spread_split {items : List (κ × α)} {key : κ} {early block late : List α}
    (held : itemsAt items key = early ++ block ++ late) (nonempty : block ≠ []) :
    ∃ before after, spread (gather items).toList =
        before ++ (block.map fun a => (key, a)) ++ after ∧ itemsAt before key = early := by
  have member : (key, early ++ block ++ late) ∈ (gather items).toList :=
    mem_toList_gather.mpr ⟨by simp [nonempty], held.symm⟩
  obtain ⟨low, high, split⟩ := List.append_of_mem member
  have ascending := ascending_gather items
  rw [split] at ascending ⊢
  have absent : itemsAt (spread low) key = [] := by
    rw [itemsAt_eq_nil]
    rintro ⟨other, a⟩ inside
    obtain ⟨others, among, -⟩ := mem_spread.mp inside
    exact ne_of_compare_lt
      ((List.pairwise_append.mp ascending).2.2 (other, others) among _ List.mem_cons_self)
  refine ⟨spread low ++ early.map fun a => (key, a), (late.map fun a => (key, a)) ++ spread high,
    ?_, ?_⟩
  · simp [spread]
  · rw [itemsAt_append, absent, itemsAt_const, if_pos rfl, List.nil_append]

theorem spread_gather {items : List (κ × α)} (inOrder : InOrder items) :
    spread (gather items).toList = items :=
  eq_of_itemsAt_eq (inOrder_spread (ascending_gather items)) inOrder (itemsAt_spread_gather items)

end Order

end DreamDoc
