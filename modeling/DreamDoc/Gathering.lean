import Std.Data.ExtTreeMap

namespace DreamDoc

open Std (ExtTreeMap TransOrd LawfulEqOrd)

variable {κ α : Type}

section Selection

variable [DecidableEq κ]

def itemsAt (items : List (κ × α)) (key : κ) : List α :=
  items.filterMap fun item => if item.1 = key then some item.2 else none

theorem itemsAt_cons (item : κ × α) (rest : List (κ × α)) (key : κ) :
    itemsAt (item :: rest) key =
      if item.1 = key then item.2 :: itemsAt rest key else itemsAt rest key := by
  by_cases same : item.1 = key <;> simp [itemsAt, same]

end Selection

variable [Ord κ] [TransOrd κ]

def deposit (item : κ × α) (held : ExtTreeMap κ (List α)) : ExtTreeMap κ (List α) :=
  held.alter item.1 fun here => some (item.2 :: here.getD [])

def gather (items : List (κ × α)) : ExtTreeMap κ (List α) :=
  items.foldr deposit ∅

variable [LawfulEqOrd κ] [DecidableEq κ]

theorem getElem?_deposit (item : κ × α) (held : ExtTreeMap κ (List α)) (key : κ) :
    (deposit item held)[key]? =
      if item.1 = key then some (item.2 :: held[key]?.getD []) else held[key]? := by
  rw [deposit, ExtTreeMap.getElem?_alter]
  by_cases same : item.1 = key <;> simp [same]

theorem getElem?_gather (items : List (κ × α)) (key : κ) :
    (gather items)[key]? = if itemsAt items key = [] then none else some (itemsAt items key) := by
  induction items with
  | nil => simp [gather, itemsAt]
  | cons item rest ih =>
    rw [gather, List.foldr_cons, getElem?_deposit, ← gather, ih, itemsAt_cons]
    by_cases same : item.1 = key
    · by_cases empty : itemsAt rest key = [] <;> simp [same, empty]
    · simp [same]

end DreamDoc
