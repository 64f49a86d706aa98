import DreamDoc.Proofs.DumpRoundTrip
import Mathlib.Data.List.Forall2
import Mathlib.Data.List.Induction

/-!
# Validation of dumps

The text of a value is accepted exactly if it keeps to the limits of the reader and the value
conforms to the schema. What is accepted has the last value of every key that is written more than
once, and what is refused within the limits has sound faults only.
-/

namespace DreamDoc

namespace Table

variable {κ α : Type} [DecidableEq κ]

theorem lookup_singleton (write : κ × α) (key : κ) :
    [write].lookup key = if write.1 = key then some write.2 else none := by
  obtain ⟨name, value⟩ := write
  grind

theorem ofList_concat (writes : List (κ × α)) (write : κ × α) :
    ofList (writes ++ [write]) = (ofList writes).insert write.1 write.2 := by
  rw [ofList, List.foldl_append]
  rfl

theorem keys_ofList (writes : List (κ × α)) :
    (ofList writes).keys = (writes.map Prod.fst).eraseDups := by
  induction writes using List.reverseRecOn with
  | nil => rfl
  | append_singleton writes write ih =>
    have keys : ((ofList writes).insert write.1 write.2).keys =
        if write.1 ∈ (ofList writes).keys then (ofList writes).keys
        else (ofList writes).keys ++ [write.1] :=
      keys_put write.1 write.2 (ofList writes).entries
    rw [ofList_concat, keys, ih, List.map_append, List.eraseDups_append]
    by_cases again : write.1 ∈ writes.map Prod.fst <;>
      simp_all [List.removeAll, List.eraseDups_cons]

theorem get?_ofList (writes : List (κ × α)) (key : κ) :
    (ofList writes).get? key = writes.reverse.lookup key := by
  induction writes using List.reverseRecOn with
  | nil => rfl
  | append_singleton writes write ih =>
    rw [ofList_concat, get?_insert, ih, List.reverse_append, List.lookup_append,
      List.reverse_singleton, lookup_singleton]
    split <;> simp

end Table

theorem getElem?_insertMany {α : Type} (map : Std.ExtTreeMap Int α) (writes : List (Int × α))
    (id : Int) : (map.insertMany writes)[id]? = (writes.reverse.lookup id).or map[id]? := by
  induction writes generalizing map with
  | nil => simp
  | cons write rest ih =>
    rw [Std.ExtTreeMap.insertMany_cons, ih, Std.ExtTreeMap.getElem?_insert, List.reverse_cons,
      List.lookup_append, Option.or_assoc, Table.lookup_singleton]
    by_cases here : write.1 = id <;> simp [here]

namespace Verdict

variable {α β : Type}

theorem map_eq_accepted {f : α → β} {x : Verdict α} {b : β} :
    f <$> x = accepted b ↔ ∃ a, x = accepted a ∧ f a = b := by
  cases x <;> simp [map_eq, map]

theorem seq_eq_accepted {f : Verdict (α → β)} {x : Verdict α} {b : β} :
    f <*> x = accepted b ↔ ∃ g a, f = accepted g ∧ x = accepted a ∧ g a = b := by
  cases f <;> cases x <;> simp [seq_eq, ap]

theorem under_eq_accepted {step : Step} {x : Verdict α} {a : α} :
    x.under step = accepted a ↔ x = accepted a := by
  cases x <;> simp [under]

theorem ofExcept_eq_accepted {outcome : Except Cause α} {a : α} :
    ofExcept outcome = accepted a ↔ outcome = .ok a := by
  cases outcome <;> simp [ofExcept, fail]

theorem forall₂_of_all {checks : List (Verdict α)} {values : List α}
    (accepted : all checks = accepted values) :
    List.Forall₂ (fun check value => check = .accepted value) checks values := by
  induction checks generalizing values with
  | nil =>
    cases accepted
    exact .nil
  | cons check rest ih =>
    obtain ⟨_, others, first, second, rfl⟩ := seq_eq_accepted.mp accepted
    obtain ⟨value, here, rfl⟩ := map_eq_accepted.mp first
    exact .cons here (ih second)

end Verdict

namespace Dump

theorem text_eq_accepted {value : Json} {s : String} :
    text value = .accepted s ↔ value = .str s := by
  cases value <;> simp [text, Verdict.fail]

section Members

variable {α : Type} {check : Json → Verdict α} {members : List (String × Json)} {key : String}

theorem required_eq_accepted {x : α} :
    required members key check = .accepted x ↔
      ∃ value, Json.lastMember? members key = some value ∧ check value = .accepted x := by
  unfold required
  split <;> rename_i found <;> simp [found, Verdict.under_eq_accepted]

theorem optional_eq_accepted {default x : α} :
    optional members key default check = .accepted x ↔
      (∃ value, Json.lastMember? members key = some value ∧ check value = .accepted x) ∨
        Json.lastMember? members key = none ∧ default = x := by
  unfold optional
  split <;> rename_i found <;> simp [found, Verdict.under_eq_accepted]

end Members

abbrev EntriesRead {α : Type} (check : Json → Verdict α) (members : List (String × Json))
    (entries : List (String × α)) : Prop :=
  List.Forall₂ (fun member entry => member.1 = entry.1 ∧ check member.2 = .accepted entry.2)
    members entries

/-- A table has every key of the members once, at its first place, with what its last value is read
as. -/
def Tabulates {α : Type} (check : Json → Verdict α) (members : List (String × Json))
    (t : Table String α) : Prop :=
  t.keys = (members.map Prod.fst).eraseDups ∧
    ∀ key value, t.get? key = some value ↔
      ∃ json, Json.lastMember? members key = some json ∧ check json = .accepted value

section Tables

variable {α : Type} {check : Json → Verdict α} {members : List (String × Json)}
  {entries : List (String × α)}

theorem EntriesRead.map_fst (read : EntriesRead check members entries) :
    entries.map Prod.fst = members.map Prod.fst := by
  induction read with
  | nil => rfl
  | cons first _ ih => rw [List.map_cons, List.map_cons, ih, first.1]

theorem EntriesRead.lookup (read : EntriesRead check members entries) (key : String) (value : α) :
    entries.lookup key = some value ↔
      ∃ json, members.lookup key = some json ∧ check json = .accepted value := by
  induction read with
  | nil => simp
  | @cons member entry _ _ first _ ih =>
    obtain ⟨name, json⟩ := member
    obtain ⟨_, held⟩ := entry
    obtain ⟨rfl, accepted⟩ := first
    by_cases here : key = name
    · simp [here, accepted]
    · have apart : (key == name) = false := by simpa using here
      simpa [List.lookup_cons, apart] using ih

theorem EntriesRead.tabulates (read : EntriesRead check members entries) :
    Tabulates check members (Table.ofList entries) := by
  constructor
  · rw [Table.keys_ofList, read.map_fst]
  · intro key value
    -- The last of several values is the first one from the end.
    rw [Table.get?_ofList]
    exact EntriesRead.lookup (List.forall₂_reverse_iff.mpr read) key value

theorem tabulates_of_table {value : Json} {t : Table String α}
    (accepted : table check value = .accepted t) :
    ∃ members, value = .obj members ∧ Tabulates check members t := by
  cases value with
  | obj members =>
    obtain ⟨entries, checked, rfl⟩ := Verdict.map_eq_accepted.mp accepted
    refine ⟨members, rfl, EntriesRead.tabulates ?_⟩
    refine List.Forall₂.imp ?_ (List.forall₂_map_left_iff.mp (Verdict.forall₂_of_all checked))
    intro member entry read
    obtain ⟨held, inner, rfl⟩ := Verdict.map_eq_accepted.mp read
    exact ⟨rfl, Verdict.under_eq_accepted.mp inner⟩
  | _ => cases accepted

end Tables

/-- The members of the object at a key, and in the same way the items of an array; none if there is
no such value. -/
def membersAt (members : List (String × Json)) (key : String) : List (String × Json) :=
  match Json.lastMember? members key with
  | some (.obj inner) => inner
  | _ => []

def itemsAt (members : List (String × Json)) (key : String) : List Json :=
  match Json.lastMember? members key with
  | some (.arr items) => items
  | _ => []

/-- The tables of a type, and of the types below it, are those of a value. -/
inductive TreeTabulates : Json → TypeNode → Prop
  | mk {members : List (String × Json)} {node : TypeNode}
    (vars : Tabulates variableEntry (membersAt members "vars") node.vars)
    (procs : Tabulates procedureEntry (membersAt members "procs") node.procs)
    (children : List.Forall₂ TreeTabulates (itemsAt members "children") node.children) :
    TreeTabulates (.obj members) node

theorem forall₂_of_list {α : Type} {check : Json → Verdict α} {value : Json} {values : List α}
    (accepted : list check value = .accepted values) :
    ∃ items, value = .arr items ∧
      List.Forall₂ (fun item read => check item = .accepted read) items values := by
  cases value with
  | arr items =>
    refine ⟨items, rfl, ?_⟩
    have checked := Verdict.forall₂_of_all accepted
    rw [List.mapIdx_eq_zipIdx_map, List.forall₂_map_left_iff] at checked
    have read : List.Forall₂ (fun item value => check item = .accepted value)
        (items.zipIdx.map Prod.fst) values :=
      List.forall₂_map_left_iff.mpr
        (checked.imp fun _ _ accepted => Verdict.under_eq_accepted.mp accepted)
    rwa [List.zipIdx_map_fst] at read
  | _ => cases accepted

theorem tabulates_of_optional {α : Type} {check : Json → Verdict α} {members : List (String × Json)}
    {key : String} {t : Table String α}
    (accepted : optional members key ∅ (table check) = .accepted t) :
    Tabulates check (membersAt members key) t := by
  obtain ⟨value, found, accepted⟩ | ⟨absent, rfl⟩ := optional_eq_accepted.mp accepted
  · obtain ⟨inner, rfl, tabulates⟩ := tabulates_of_table accepted
    simpa only [membersAt, found] using tabulates
  · simp only [membersAt, absent]
    have none : EntriesRead check [] [] := .nil
    exact none.tabulates

theorem forall₂_of_optional {α : Type} {check : Json → Verdict α} {members : List (String × Json)}
    {key : String} {values : List α}
    (accepted : optional members key [] (list check) = .accepted values) :
    List.Forall₂ (fun item value => sizeOf item < sizeOf (Json.obj members) ∧
      check item = .accepted value) (itemsAt members key) values := by
  obtain ⟨value, found, accepted⟩ | ⟨absent, rfl⟩ := optional_eq_accepted.mp accepted
  · obtain ⟨items, rfl, read⟩ := forall₂_of_list accepted
    have smaller : ∀ item ∈ items, sizeOf item < sizeOf (Json.obj members) :=
      fun item member => sizeOf_item_lt found member
    simp only [itemsAt, found]
    exact (List.forall₂_and_left items values).mpr ⟨smaller, read⟩
  · simp only [itemsAt, absent]
    exact .nil

theorem treeTabulates_of_typeNode {value : Json} {node : TypeNode}
    (accepted : typeNode value = .accepted node) : TreeTabulates value node := by
  -- The children are known only through what they are read as, so the induction is on the size of
  -- the value and not on the tree.
  induction size : sizeOf value using Nat.strongRecOn generalizing value node with
  | ind _ ih =>
    subst size
    cases value with
    | obj members =>
      rw [typeNode_obj] at accepted
      simp only [Verdict.seq_eq_accepted, Verdict.map_eq_accepted] at accepted
      obtain ⟨_, children, ⟨_, procs, ⟨_, vars, ⟨_, parent, ⟨_, place, ⟨path, -, rfl⟩, -, rfl⟩, -,
        rfl⟩, varsRead, rfl⟩, procsRead, rfl⟩, childrenRead, rfl⟩ := accepted
      refine .mk (tabulates_of_optional varsRead) (tabulates_of_optional procsRead) ?_
      exact (forall₂_of_optional childrenRead).imp fun item child read => ih _ read.1 read.2 rfl
    | _ =>
      unfold typeNode at accepted
      cases accepted

/-! ## Files -/

/-- The path of the last entry whose key denotes a number. -/
def LastEntry (members : List (String × Json)) (id : Int) (path : String) : Prop :=
  ∃ before key after, members = before ++ (key, .str path) :: after ∧ IntegerText key.toList id ∧
    ∀ later ∈ after, ¬IntegerText later.1.toList id

/-- What the members of the files are read as, one by one. -/
abbrev FilesRead (members : List (String × Json)) (entries : List (Int × String)) : Prop :=
  List.Forall₂ (fun member entry => integerText member.1 = .ok entry.1 ∧ member.2 = .str entry.2)
    members entries

section Files

variable {members : List (String × Json)} {entries : List (Int × String)} {id : Int} {path : String}

theorem lastEntry_cons {key : String} {value : Json} :
    LastEntry ((key, value) :: members) id path ↔
      LastEntry members id path ∨ value = .str path ∧ IntegerText key.toList id ∧
        ∀ later ∈ members, ¬IntegerText later.1.toList id := by
  constructor
  · rintro ⟨before, last, after, split, denotes, none⟩
    cases before with
    | nil =>
      cases split
      exact .inr ⟨rfl, denotes, none⟩
    | cons first before =>
      obtain ⟨-, rfl⟩ := List.cons_eq_cons.mp split
      exact .inl ⟨before, last, after, rfl, denotes, none⟩
  · rintro (⟨before, last, after, rfl, denotes, none⟩ | ⟨rfl, denotes, none⟩)
    · exact ⟨(key, value) :: before, last, after, rfl, denotes, none⟩
    · exact ⟨[], key, members, rfl, denotes, none⟩

theorem FilesRead.lookup_eq_none (read : FilesRead members entries) :
    entries.reverse.lookup id = none ↔ ∀ member ∈ members, ¬IntegerText member.1.toList id := by
  induction read with
  | nil => simp
  | cons first _ ih =>
    rw [List.reverse_cons, List.lookup_append, Option.or_eq_none_iff, ih, Table.lookup_singleton,
      List.forall_mem_cons, ← integerText_eq_ok_iff, first.1]
    simp [and_comm]

theorem FilesRead.lookup (read : FilesRead members entries) :
    entries.reverse.lookup id = some path ↔ LastEntry members id path := by
  induction read with
  | nil => simp [LastEntry]
  | @cons member entry ms es first rest ih =>
    obtain ⟨key, value⟩ := member
    obtain ⟨number, held⟩ := entry
    obtain ⟨spelled, rfl⟩ : integerText key = .ok number ∧ value = .str held := first
    rw [List.reverse_cons, List.lookup_append, lastEntry_cons, ← ih,
      ← FilesRead.lookup_eq_none rest, ← integerText_eq_ok_iff, spelled, Table.lookup_singleton]
    cases es.reverse.lookup id with
    | none => simp [and_comm]
    | some path => simp

theorem lastEntry_of_files {value : Json} {map : Std.ExtTreeMap Int String}
    (accepted : files value = .accepted map) :
    ∃ members, value = .obj members ∧
      ∀ id path, map[id]? = some path ↔ LastEntry members id path := by
  cases value with
  | obj members =>
    obtain ⟨entries, checked, rfl⟩ := Verdict.map_eq_accepted.mp accepted
    refine ⟨members, rfl, fun id path => ?_⟩
    have read : FilesRead members entries := by
      refine List.Forall₂.imp ?_ (List.forall₂_map_left_iff.mp (Verdict.forall₂_of_all checked))
      intro member entry accepted
      obtain ⟨_, path, keyRead, valueRead, rfl⟩ := Verdict.seq_eq_accepted.mp accepted
      obtain ⟨id, spelled, rfl⟩ := Verdict.map_eq_accepted.mp keyRead
      rw [Verdict.under_eq_accepted, Verdict.under_eq_accepted, Verdict.ofExcept_eq_accepted]
        at spelled
      exact ⟨spelled, text_eq_accepted.mp (Verdict.under_eq_accepted.mp valueRead)⟩
    rw [← read.lookup, Std.ExtTreeMap.ofList_eq_insertMany_empty, getElem?_insertMany]
    simp
  | _ => cases accepted

end Files

/-- What an accepted value is read as: each file has its last path, and each table of the tree its
last values. -/
def ReadAs (value : Json) (env : Environment) : Prop :=
  ∃ members tree, value = .obj members ∧ Json.lastMember? members "tree" = some tree ∧
    (∀ id path, env.filePath? id = some path ↔ LastEntry (membersAt members "files") id path) ∧
    TreeTabulates tree env.tree

theorem readAs_of_environment {value : Json} {env : Environment}
    (accepted : environment value = .accepted env) : ReadAs value env := by
  cases value with
  | obj members =>
    simp only [environment, Verdict.seq_eq_accepted, Verdict.map_eq_accepted] at accepted
    obtain ⟨_, comments, ⟨_, tree, ⟨map, filesRead, rfl⟩, treeRead, rfl⟩, -, rfl⟩ := accepted
    obtain ⟨treeValue, found, treeRead⟩ := required_eq_accepted.mp treeRead
    refine ⟨members, treeValue, rfl, found, ?_, treeTabulates_of_typeNode treeRead⟩
    obtain ⟨value, found, filesRead⟩ | ⟨absent, rfl⟩ := optional_eq_accepted.mp filesRead
    · obtain ⟨inner, rfl, last⟩ := lastEntry_of_files filesRead
      simpa only [membersAt, found, Environment.filePath?] using last
    · simp [membersAt, absent, LastEntry, Environment.filePath?]
  | _ => cases accepted

/-- A text is JSON and writes a value. -/
def Valid (text : String) (value : Json) : Prop :=
  ∃ longest, Json.Written longest true value text.toList

/-- A text writes a value within the limits of the reader: no numeral of it is too long, no surrogate
stands alone, and nothing has too many containers around it. -/
def Readable (text : String) (value : Json) : Prop :=
  Json.Written limits.digits false value text.toList ∧ value.depth ≤ limits.depth

end Dump

namespace Loader

open Dump (Conforms Sound ReadAs Valid Readable integerText integerText_eq_ok_iff)

theorem readDump_of_readable {text : String} {value : Json} (readable : Readable text value)
    (source : String) :
    (∃ env, Dump.environment value = .accepted env ∧ readDump source text.toUTF8 = .ok env) ∨
      ((Dump.environment value).faults ≠ [] ∧ readDump source text.toUTF8 =
        .error (.invalidDump source (Dump.environment value).faults)) := by
  rw [readDump, Dump.read_of_written readable.1 readable.2]
  cases Dump.environment value with
  | accepted env => exact .inl ⟨env, rfl, rfl⟩
  | rejected first others => exact .inr ⟨List.cons_ne_nil _ _, rfl⟩

theorem readDump_of_malformed {text : String} {flaw : Json.Flaw}
    (malformed : Json.parse Dump.limits text = .error flaw) (source : String) :
    readDump source text.toUTF8 = .error (.invalidDump source [⟨[], .malformed flaw⟩]) := by
  rw [readDump, Dump.read_toUTF8, Dump.readText, malformed]
  rfl

theorem readDump_of_not_readable {text : String} {value : Json} (valid : Valid text value)
    (unreadable : ¬Readable text value) (source : String) :
    ∃ flaw, readDump source text.toUTF8 = .error (.invalidDump source [⟨[], .malformed flaw⟩]) := by
  cases parsed : Json.parse Dump.limits text with
  | ok other =>
    -- Whatever is read is the value itself, and what is read keeps to the limits.
    obtain ⟨longest, written⟩ := valid
    obtain rfl := Json.eq_of_parse written parsed
    exact absurd (Json.parse_eq_ok_iff.mp parsed) unreadable
  | error flaw => exact ⟨flaw, readDump_of_malformed parsed source⟩

def withMember (key : String) (value : Json) : Json :=
  .obj [(key, value), ("tree", .obj [("location", Dump.locationJson ⟨1, 1⟩)])]

theorem conforms_surplus (surplus : Json) :
    Conforms (.record .environment) (withMember "surplus" surplus) := by
  have unread : Dump.environment (withMember "surplus" surplus) =
      Dump.environment (withMember "surplus" .null) := rfl
  apply (Dump.environment_exact _).conforms
  rw [unread]
  decide +kernel

theorem integral_withMember {longest : Nat} {key : String} {value : Json} :
    (withMember key value).Integral longest ↔ value.Integral longest ∧ 1 ≤ longest := by
  have one : Json.digitCount 1 = 1 := by decide +kernel
  simp [withMember, Location.Within, one]

def nested : Nat → Json
  | 0 => .null
  | k + 1 => .arr [nested k]

theorem depth_nested (k : Nat) : (nested k).depth = k := by
  induction k with
  | zero => rfl
  | succ k ih => simp [nested, Json.depth, Json.itemsDepth, ih]

theorem integral_nested (longest k : Nat) : (nested k).Integral longest := by
  induction k with
  | zero => exact .null
  | succ k ih => simpa [nested] using ih

theorem integral_numeral (n : Int) (key : String) :
    (withMember key (.num (.integer n))).Integral (Json.digitCount n + 1) :=
  integral_withMember.mpr ⟨.integer (Nat.le_succ _), Nat.le_add_left 1 _⟩

theorem not_readable_numeral {n : Int} (long : Dump.limits.digits < Json.digitCount n)
    (key text : String) : ¬Readable text (withMember key (.num (.integer n))) := by
  rintro ⟨written, -⟩
  have short := (integral_withMember.mp ((integral_numeral n key).of_written written)).1
  exact absurd (Json.integral_integer.mp short) (Nat.not_le.mpr long)

theorem not_readable_nested (key text : String) :
    ¬Readable text (withMember key (nested Dump.limits.depth)) := by
  rintro ⟨-, shallow⟩
  simp only [withMember, Json.depth, Json.membersDepth, depth_nested] at shallow
  omega

def withSurrogate : String :=
  "\x7b\"surplus\":\"\\ud800\",\"tree\":\x7b\"location\":\x7b\"file\":1,\"line\":1\x7d\x7d\x7d"

theorem valid_withSurrogate : Valid withSurrogate (withMember "surplus" (.str "\ufffd")) := by
  let tree : Json := .obj [("location", Dump.locationJson ⟨1, 1⟩)]
  have lone : Json.BodyWritten true "\ufffd".toList "\\ud800".toList :=
    .unpaired rfl rfl (.inr ⟨rfl, by rintro ⟨_, _, _, _, _, _, ⟨⟩, -⟩⟩) .nil
  have below : Json.Written 1 true tree tree.print :=
    Json.written_print (by simp [tree, Location.Within]; decide)
  let members : List Json.MemberText :=
    [⟨"surplus", Json.printString "surplus", .str "\ufffd", "\"\\ud800\"".toList⟩,
      ⟨"tree", Json.printString "tree", tree, tree.print⟩]
  have keys : ∀ member ∈ members, Json.KeyWritten true member.key member.keyText := by
    simp [members, Json.keyWritten_printString]
  have each : ∀ member ∈ members, Json.Written 1 true member.value member.valueText := by
    simp only [members, List.forall_mem_cons]
    exact ⟨.str lone, below, List.forall_mem_nil _⟩
  exact ⟨1, .obj (List.cons_ne_nil _ _) keys each⟩

theorem parse_withSurrogate : Json.parse Dump.limits withSurrogate = .error .noValue := by
  cbv

end Loader

end DreamDoc
