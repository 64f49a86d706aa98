import DreamDoc.Proofs.Validation
import Mathlib.Data.List.Nodup
import Mathlib.Logic.Relation

namespace DreamDoc

theorem lookup_eq_of_perm {κ α : Type} [DecidableEq κ] {members others : List (κ × α)}
    (distinct : (members.map Prod.fst).Nodup) (perm : members.Perm others) (key : κ) :
    members.lookup key = others.lookup key := by
  induction perm with
  | nil => rfl
  | cons member _ ih =>
    rw [List.lookup_cons, List.lookup_cons, ih (List.nodup_cons.mp distinct).2]
  | swap first second rest =>
    obtain ⟨name, value⟩ := first
    obtain ⟨other, held⟩ := second
    have apart : other ≠ name := by
      intro same
      simp [same] at distinct
    grind
  | trans before _ first second =>
    exact (first distinct).trans (second ((before.map Prod.fst).nodup_iff.mp distinct))

namespace Json

theorem lastMember?_append (before after : List (String × Json)) (key : String) :
    lastMember? (before ++ after) key = (lastMember? after key).or (lastMember? before key) := by
  rw [lastMember?, List.reverse_append, List.lookup_append]
  rfl

theorem lastMember?_cons (name : String) (value : Json) (rest : List (String × Json))
    (key : String) :
    lastMember? ((name, value) :: rest) key =
      (lastMember? rest key).or (if name = key then some value else none) := by
  rw [← List.singleton_append, lastMember?_append]
  congr 1
  exact Table.lookup_singleton (name, value) key

theorem lastMember?_eq_of_perm {members others : List (String × Json)}
    (distinct : (members.map Prod.fst).Nodup) (perm : members.Perm others) (key : String) :
    lastMember? members key = lastMember? others key := by
  apply lookup_eq_of_perm
  · rw [List.map_reverse]
    exact List.nodup_reverse.mpr distinct
  · exact members.reverse_perm.trans (perm.trans others.reverse_perm.symm)

end Json

namespace Dump

/-- A record of this kind has no field under a key. -/
def Record.Foreign (record : Record) (key : String) : Prop :=
  ∀ field ∈ record.fields, field.key ≠ key

theorem Record.eq_of_key_eq {record : Record} {field other : Field} (known : field ∈ record.fields)
    (also : other ∈ record.fields) (same : field.key = other.key) : field = other := by
  have distinct : (record.fields.map Field.key).Nodup := by cases record <;> decide
  exact List.inj_on_of_nodup_map distinct known also same

/-- One record, the value itself or one below it, gets a member under a foreign key or another order
of its members. -/
inductive Varies : Kind → Json → Json → Prop
  | added {record : Record} {key : String} (foreign : record.Foreign key) (surplus : Json)
    (before after : List (String × Json)) :
    Varies (.record record) (.obj (before ++ after)) (.obj (before ++ (key, surplus) :: after))
  | reordered {record : Record} {members others : List (String × Json)}
    (distinct : (members.map Prod.fst).Nodup) (perm : members.Perm others) :
    Varies (.record record) (.obj members) (.obj others)
  | field {record : Record} {field : Field} (known : field ∈ record.fields) {value other : Json}
    (below : Varies field.kind value other) (before after : List (String × Json)) :
    Varies (.record record) (.obj (before ++ (field.key, value) :: after))
      (.obj (before ++ (field.key, other) :: after))
  | nonnull {kind : Kind} {value other : Json} (below : Varies kind value other) :
    Varies (.nullable kind) value other
  | item {kind : Kind} {value other : Json} (below : Varies kind value other)
    (before after : List Json) :
    Varies (.list kind) (.arr (before ++ value :: after)) (.arr (before ++ other :: after))
  | entry {kind : Kind} {value other : Json} (below : Varies kind value other) (key : String)
    (before after : List (String × Json)) :
    Varies (.table kind) (.obj (before ++ (key, value) :: after))
      (.obj (before ++ (key, other) :: after))

/-- Two values differ only by foreign members, added or taken away, and by the order of members. -/
def Alike (kind : Kind) : Json → Json → Prop := Relation.EqvGen (Varies kind)

theorem Varies.ne_null {kind : Kind} {value other : Json} (varies : Varies kind value other) :
    value ≠ .null ∧ other ≠ .null := by
  induction varies with
  | nonnull _ ih => exact ih
  | _ => exact ⟨nofun, nofun⟩

section Fields

variable {record : Record} {members others : List (String × Json)} {field : Field}

theorem Varies.objects {value other : Json} (varies : Varies (.record record) value other) :
    ∃ members others, value = .obj members ∧ other = .obj others := by
  cases varies <;> exact ⟨_, _, rfl, rfl⟩

theorem Varies.lastMember? (varies : Varies (.record record) (.obj members) (.obj others))
    (known : field ∈ record.fields) :
    Json.lastMember? members field.key = Json.lastMember? others field.key ∨
      ∃ value other, Json.lastMember? members field.key = some value ∧
        Json.lastMember? others field.key = some other ∧ Varies field.kind value other := by
  cases varies with
  | added foreign surplus before after =>
    left
    have other := (foreign field known).symm
    simp [Json.lastMember?_append, Json.lastMember?_cons, other]
  | reordered distinct perm => exact .inl (Json.lastMember?_eq_of_perm distinct perm field.key)
  | @field _ varied also value other below before after =>
    simp only [Json.lastMember?_append, Json.lastMember?_cons]
    by_cases same : varied.key = field.key
    · obtain rfl := Record.eq_of_key_eq also known same
      -- A later member under the same key hides the one that varies.
      cases Json.lastMember? after varied.key with
      | some later => exact .inl (by simp)
      | none => exact .inr ⟨value, other, by simp, by simp, below⟩
    · exact .inl (by simp [same])

end Fields

def Unmoved {α : Type} (kind : Kind) (check : Json → Verdict α) (value : Json) : Prop :=
  ∀ other, Varies kind value other → check value = check other

section Members

variable {α : Type} {check : Json → Verdict α} {record : Record} {key : String} {kind : Kind}
  {members others : List (String × Json)}

theorem member_unmoved {mandatory : Bool}
    (varies : Varies (.record record) (.obj members) (.obj others))
    (known : ⟨key, kind, mandatory⟩ ∈ record.fields)
    (each : ∀ value, Json.lastMember? members key = some value → Unmoved kind check value) :
    (Json.lastMember? members key).map check = (Json.lastMember? others key).map check := by
  obtain same | ⟨value, other, found, instead, below⟩ := varies.lastMember? known
  · rw [same]
  · rw [found, instead, Option.map_some, Option.map_some, each value found other below]

theorem required_unmoved (varies : Varies (.record record) (.obj members) (.obj others))
    (known : ⟨key, kind, true⟩ ∈ record.fields)
    (each : ∀ value, Json.lastMember? members key = some value → Unmoved kind check value) :
    required members key check = required others key check := by
  have same := member_unmoved varies known each
  unfold required
  cases there : Json.lastMember? members key <;>
    cases instead : Json.lastMember? others key <;> simp_all

theorem optional_unmoved {default : α}
    (varies : Varies (.record record) (.obj members) (.obj others))
    (known : ⟨key, kind, false⟩ ∈ record.fields)
    (each : ∀ value, Json.lastMember? members key = some value → Unmoved kind check value) :
    optional members key default check = optional others key default check := by
  have same := member_unmoved varies known each
  unfold optional
  cases there : Json.lastMember? members key <;>
    cases instead : Json.lastMember? others key <;> simp_all

end Members

section Containers

variable {α : Type} {check : Json → Verdict α} {kind : Kind} {value : Json}

theorem nullable_unmoved (inner : Unmoved kind check value) :
    Unmoved (.nullable kind) (nullable check) value := by
  intro other varies
  cases varies with
  | nonnull below =>
    obtain ⟨given, also⟩ := below.ne_null
    rw [nullable, nullable, inner other below]
    · exact also
    · exact given

theorem list_unmoved
    (each : ∀ items, value = .arr items → ∀ item ∈ items, Unmoved kind check item) :
    Unmoved (.list kind) (list check) value := by
  intro _ varies
  cases varies with
  | @item _ item other below before after =>
    have same := each _ rfl item (by simp) other below
    simp only [list, List.mapIdx_append, List.mapIdx_cons, same]

theorem table_unmoved
    (each : ∀ members, value = .obj members → ∀ member ∈ members, Unmoved kind check member.2) :
    Unmoved (.table kind) (table check) value := by
  intro _ varies
  cases varies with
  | @entry _ entry other below key before after =>
    have same : check entry = check other := each _ rfl (key, entry) (by simp) other below
    simp only [table, List.map_append, List.map_cons, same]

end Containers

/-! ## Records -/

theorem integer_unmoved (value : Json) : Unmoved .integer integer value := nofun

theorem text_unmoved (value : Json) : Unmoved .text text value := nofun

theorem procedureKind_unmoved (value : Json) : Unmoved .procedureKind procedureKind value := nofun

theorem files_unmoved (value : Json) : Unmoved .files files value := nofun

theorem texts_unmoved (value : Json) : Unmoved (.list .text) (list text) value :=
  list_unmoved fun _ _ item _ => text_unmoved item

theorem location_unmoved (value : Json) : Unmoved (.record .location) location value := by
  intro _ varies
  obtain ⟨members, others, rfl, rfl⟩ := varies.objects
  simp only [location, Verdict.seq_eq, Verdict.map_eq]
  apply congrArg₂ Verdict.ap
  · apply congrArg (Verdict.map _)
    exact required_unmoved varies (by simp [Record.fields]) fun value _ => integer_unmoved value
  · exact required_unmoved varies (by simp [Record.fields]) fun value _ => integer_unmoved value

theorem parameter_unmoved (value : Json) : Unmoved (.record .parameter) parameter value := by
  intro _ varies
  obtain ⟨members, others, rfl, rfl⟩ := varies.objects
  simp only [parameter, Verdict.seq_eq, Verdict.map_eq]
  apply congrArg₂ Verdict.ap
  · apply congrArg (Verdict.map _)
    exact optional_unmoved varies (by simp [Record.fields]) fun value _ => texts_unmoved value
  · exact required_unmoved varies (by simp [Record.fields]) fun value _ => text_unmoved value

theorem variableEntry_unmoved (value : Json) :
    Unmoved (.record .variableEntry) variableEntry value := by
  intro _ varies
  obtain ⟨members, others, rfl, rfl⟩ := varies.objects
  simp only [variableEntry, Verdict.seq_eq, Verdict.map_eq]
  apply congrArg₂ Verdict.ap
  · apply congrArg (Verdict.map _)
    exact required_unmoved varies (by simp [Record.fields]) fun value _ => location_unmoved value
  · exact optional_unmoved varies (by simp [Record.fields]) fun value _ =>
      nullable_unmoved (texts_unmoved value)

theorem procedureEntry_unmoved (value : Json) :
    Unmoved (.record .procedureEntry) procedureEntry value := by
  intro _ varies
  obtain ⟨members, others, rfl, rfl⟩ := varies.objects
  simp only [procedureEntry, Verdict.seq_eq, Verdict.map_eq]
  apply congrArg₂ Verdict.ap
  · apply congrArg₂ Verdict.ap
    · apply congrArg (Verdict.map _)
      exact required_unmoved varies (by simp [Record.fields]) fun value _ => location_unmoved value
    · exact optional_unmoved varies (by simp [Record.fields]) fun value _ =>
        procedureKind_unmoved value
  · exact optional_unmoved varies (by simp [Record.fields]) fun value _ =>
      list_unmoved fun _ _ item _ => parameter_unmoved item

theorem docComment_unmoved (value : Json) : Unmoved (.record .docComment) docComment value := by
  intro _ varies
  obtain ⟨members, others, rfl, rfl⟩ := varies.objects
  simp only [docComment, Verdict.seq_eq, Verdict.map_eq]
  apply congrArg₂ Verdict.ap
  · apply congrArg (Verdict.map _)
    exact required_unmoved varies (by simp [Record.fields]) fun value _ => location_unmoved value
  · exact required_unmoved varies (by simp [Record.fields]) fun value _ => text_unmoved value

theorem typeNode_unmoved (value : Json) : Unmoved (.record .typeNode) typeNode value := by
  intro other varies
  -- A child stands in an array below a member, so it is smaller than the object.
  induction size : sizeOf value using Nat.strongRecOn generalizing value other with
  | ind _ ih =>
    subst size
    obtain ⟨members, others, rfl, rfl⟩ := varies.objects
    have children (value : Json) (there : Json.lastMember? members "children" = some value) :
        Unmoved (.list (.record .typeNode)) (list typeNode) value := by
      apply list_unmoved
      rintro items rfl item member _ below
      exact ih _ (sizeOf_item_lt there member) item _ below rfl
    simp only [typeNode_obj, Verdict.seq_eq, Verdict.map_eq]
    iterate 5 apply congrArg₂ Verdict.ap
    · apply congrArg (Verdict.map _)
      exact optional_unmoved varies (by simp [Record.fields]) fun value _ => text_unmoved value
    · exact required_unmoved varies (by simp [Record.fields]) fun value _ => location_unmoved value
    · exact optional_unmoved varies (by simp [Record.fields]) fun value _ =>
        nullable_unmoved (text_unmoved value)
    · exact optional_unmoved varies (by simp [Record.fields]) fun value _ =>
        table_unmoved fun _ _ member _ => variableEntry_unmoved member.2
    · exact optional_unmoved varies (by simp [Record.fields]) fun value _ =>
        table_unmoved fun _ _ member _ => procedureEntry_unmoved member.2
    · exact optional_unmoved varies (by simp [Record.fields]) children

theorem environment_unmoved (value : Json) :
    Unmoved (.record .environment) environment value := by
  intro _ varies
  obtain ⟨members, others, rfl, rfl⟩ := varies.objects
  simp only [environment, Verdict.seq_eq, Verdict.map_eq]
  iterate 2 apply congrArg₂ Verdict.ap
  · apply congrArg (Verdict.map _)
    exact optional_unmoved varies (by simp [Record.fields]) fun value _ => files_unmoved value
  · exact required_unmoved varies (by simp [Record.fields]) fun value _ => typeNode_unmoved value
  · exact optional_unmoved varies (by simp [Record.fields]) fun value _ =>
      list_unmoved fun _ _ item _ => docComment_unmoved item

theorem environment_alike {value other : Json} (alike : Alike (.record .environment) value other) :
    environment value = environment other := by
  induction alike with
  | rel value other varies => exact environment_unmoved value other varies
  | refl => rfl
  | symm _ _ _ ih => exact ih.symm
  | trans _ _ _ _ _ first second => exact first.trans second

end Dump

namespace Loader

open Dump (Alike Varies Valid Readable)

def surveyed (type place : List (String × Json) → List (String × Json)) : Json :=
  .obj (type [("location", Dump.locationJson ⟨1, 1⟩),
    ("vars", .obj [("x", .obj [("location", .obj
      (place [("file", Dump.integerJson 1), ("line", Dump.integerJson 2)]))])])])

end Loader

end DreamDoc
