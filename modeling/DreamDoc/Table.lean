namespace DreamDoc

structure Table (κ α : Type) where
  entries : List (κ × α)
  distinct : (entries.map Prod.fst).Nodup

namespace Table

variable {κ α : Type}

@[ext]
theorem ext {t u : Table κ α} (same : t.entries = u.entries) : t = u := by
  cases t; cases u; simpa using same

instance [DecidableEq κ] [DecidableEq α] : DecidableEq (Table κ α) := fun _ _ =>
  decidable_of_iff _ ⟨Table.ext, congrArg entries⟩

def keys (t : Table κ α) : List κ := t.entries.map Prod.fst

instance : EmptyCollection (Table κ α) := ⟨⟨[], List.nodup_nil⟩⟩

instance : Inhabited (Table κ α) := ⟨∅⟩

@[simp]
theorem entries_empty : (∅ : Table κ α).entries = [] := rfl

variable [DecidableEq κ]

def get? (t : Table κ α) (key : κ) : Option α := t.entries.lookup key

def put (key : κ) (value : α) : List (κ × α) → List (κ × α)
  | [] => [(key, value)]
  | entry :: rest =>
    if entry.1 = key then (key, value) :: rest else entry :: put key value rest

theorem keys_put (key : κ) (value : α) (entries : List (κ × α)) :
    (put key value entries).map Prod.fst =
      if key ∈ entries.map Prod.fst then entries.map Prod.fst
      else entries.map Prod.fst ++ [key] := by
  induction entries with
  | nil => simp [put]
  | cons entry rest ih =>
    by_cases here : entry.1 = key
    · simp [put, here]
    · have there : key ≠ entry.1 := Ne.symm here
      by_cases later : key ∈ rest.map Prod.fst <;> simp_all [put]

theorem lookup_put (key other : κ) (value : α) (entries : List (κ × α)) :
    (put key value entries).lookup other =
      if key = other then some value else entries.lookup other := by
  induction entries with
  | nil => grind [put]
  | cons entry rest ih => grind [put]

def insert (t : Table κ α) (key : κ) (value : α) : Table κ α where
  entries := put key value t.entries
  distinct := by
    have distinct := t.distinct
    rw [keys_put]
    split
    · exact distinct
    · rename_i absent
      rw [List.nodup_append]
      refine ⟨distinct, by simp, ?_⟩
      grind

@[simp]
theorem get?_insert (t : Table κ α) (key other : κ) (value : α) :
    (t.insert key value).get? other = if key = other then some value else t.get? other :=
  lookup_put key other value t.entries

theorem lookup_eq_none_of_not_mem {key : κ} {entries : List (κ × α)}
    (absent : key ∉ entries.map Prod.fst) : entries.lookup key = none := by
  induction entries with
  | nil => rfl
  | cons entry rest ih => grind

theorem mem_keys_iff {t : Table κ α} {key : κ} : key ∈ t.keys ↔ t.get? key ≠ none := by
  unfold keys get?
  induction t.entries with
  | nil => simp
  | cons entry rest ih => grind

theorem keys_insert_of_mem {t : Table κ α} {key : κ} (member : key ∈ t.keys) (value : α) :
    (t.insert key value).keys = t.keys :=
  (keys_put key value t.entries).trans (if_pos member)

theorem entries_eq_of_lookup_eq {entries others : List (κ × α)}
    (distinct : (entries.map Prod.fst).Nodup)
    (keys : entries.map Prod.fst = others.map Prod.fst)
    (same : ∀ key, entries.lookup key = others.lookup key) : entries = others := by
  induction entries generalizing others with
  | nil => simpa using keys.symm
  | cons entry rest ih =>
    cases others with
    | nil => simp at keys
    | cons other others =>
      obtain ⟨key, value⟩ := entry
      obtain ⟨twin, held⟩ := other
      simp only [List.map_cons, List.cons.injEq] at keys
      obtain ⟨rfl, keys⟩ := keys
      obtain ⟨fresh, distinct⟩ := List.nodup_cons.mp distinct
      have values := same key
      simp only [List.lookup_cons, beq_self_eq_true, Option.some.injEq] at values
      subst values
      congr 1
      apply ih distinct keys
      intro name
      by_cases here : name = key
      · subst here
        rw [lookup_eq_none_of_not_mem fresh, lookup_eq_none_of_not_mem (keys ▸ fresh)]
      · have apart : (name == key) = false := by simpa using here
        simpa [List.lookup_cons, apart] using same name

theorem eq_of_get?_eq {t u : Table κ α} (keys : t.keys = u.keys)
    (same : ∀ key, t.get? key = u.get? key) : t = u :=
  Table.ext (entries_eq_of_lookup_eq t.distinct keys same)

/-- The table of a list of writes: the last value of a key, at the place of its first. -/
def ofList (writes : List (κ × α)) : Table κ α :=
  writes.foldl (fun t write => t.insert write.1 write.2) ∅

def filterKeys (t : Table κ α) (keep : κ → Bool) : Table κ α where
  entries := t.entries.filter fun entry => keep entry.1
  distinct := t.distinct.sublist (List.Sublist.map _ List.filter_sublist)

end Table

end DreamDoc
