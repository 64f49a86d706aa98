import DreamDoc.Dump.Schema
import DreamDoc.Proofs.IntegerTexts

/-!
# What a dump must be like

The schema of a dump as data: kinds of values, and the fields of every kind of record. `Conforms`
says what a value of a kind is like, `Violates` in which way a value itself is of another kind, and
`Sound` that a fault names a place where something is wrong. The checks accept exactly what
conforms, and report sound faults only.
-/

namespace DreamDoc.Dump

inductive Record where
  | location
  | parameter
  | variableEntry
  | procedureEntry
  | docComment
  | typeNode
  | environment

inductive Kind where
  | integer
  | text
  | procedureKind
  | nullable (kind : Kind)
  | list (kind : Kind)
  | table (kind : Kind)
  | files
  | record (record : Record)

structure Field where
  key : String
  kind : Kind
  required : Bool

def Record.fields : Record → List Field
  | location => [⟨"file", .integer, true⟩, ⟨"line", .integer, true⟩]
  | parameter => [⟨"path", .list .text, false⟩, ⟨"name", .text, true⟩]
  | variableEntry =>
    [⟨"location", .record location, true⟩, ⟨"type_path", .nullable (.list .text), false⟩]
  | procedureEntry =>
    [⟨"location", .record location, true⟩, ⟨"kind", .procedureKind, false⟩,
      ⟨"parameters", .list (.record parameter), false⟩]
  | docComment => [⟨"location", .record location, true⟩, ⟨"text", .text, true⟩]
  | typeNode =>
    [⟨"path", .text, false⟩, ⟨"location", .record location, true⟩,
      ⟨"parent", .nullable .text, false⟩, ⟨"vars", .table (.record variableEntry), false⟩,
      ⟨"procs", .table (.record procedureEntry), false⟩,
      ⟨"children", .list (.record typeNode), false⟩]
  | environment =>
    [⟨"files", .files, false⟩, ⟨"tree", .record typeNode, true⟩,
      ⟨"comments", .list (.record docComment), false⟩]

/-- The integers that a value may stand for. A decimal is rounded to a double first. -/
inductive DenotesInteger : Json → Int → Prop
  | integer {n : Int} : DenotesInteger (.num (.integer n)) n
  | bool {b : Bool} : DenotesInteger (.bool b) (if b then 1 else 0)
  | decimal {d : Decimal} {double : Binary} {n : Nat} (rounded : d.nearest = some double)
    (whole : double.toNat? = some n) (small : n < Nat.pow 2 63) :
    DenotesInteger (.num (.decimal d)) (if d.negative then -(n : Int) else n)
  | str {s : String} {n : Int} (spelled : IntegerText s.toList n) : DenotesInteger (.str s) n

/-- A value is of a kind, with everything below it. -/
inductive Conforms : Kind → Json → Prop
  | integer {value : Json} {n : Int} (denotes : DenotesInteger value n) : Conforms .integer value
  | text {s : String} : Conforms .text (.str s)
  | noProcedureKind : Conforms .procedureKind .null
  | procedureKind {s : String} (known : s ∈ ["proc", "verb"]) : Conforms .procedureKind (.str s)
  | null {kind : Kind} : Conforms (.nullable kind) .null
  | nonnull {kind : Kind} {value : Json} (inner : Conforms kind value) :
    Conforms (.nullable kind) value
  | list {kind : Kind} {items : List Json} (each : ∀ item ∈ items, Conforms kind item) :
    Conforms (.list kind) (.arr items)
  | table {kind : Kind} {members : List (String × Json)}
    (each : ∀ member ∈ members, Conforms kind member.2) : Conforms (.table kind) (.obj members)
  | files {members : List (String × Json)}
    (keys : ∀ member ∈ members, ∃ n, IntegerText member.1.toList n)
    (each : ∀ member ∈ members, Conforms .text member.2) : Conforms .files (.obj members)
  | record {record : Record} {members : List (String × Json)}
    (present : ∀ field ∈ record.fields, field.required = true →
      Json.lastMember? members field.key ≠ none)
    (each : ∀ field ∈ record.fields, ∀ value, Json.lastMember? members field.key = some value →
      Conforms field.kind value) :
    Conforms (.record record) (.obj members)

/-- A value itself is not of a kind, in the way that the cause says. -/
inductive Violates : Kind → Json → Cause → Prop
  | notInteger {value : Json}
    (other : value = .null ∨ (∃ items, value = .arr items) ∨ ∃ members, value = .obj members) :
    Violates .integer value .notInteger
  | notIntegerText {s : String} (none : ∀ n, ¬IntegerText s.toList n) :
    Violates .integer (.str s) .notIntegerText
  | overlong {s : String} (overlong : Overlong s.toList) : Violates .integer (.str s) .tooLarge
  | fractional {d : Decimal} {double : Binary} (rounded : d.nearest = some double)
    (fraction : double.toNat? = none) : Violates .integer (.num (.decimal d)) .fractional
  | tooLarge {d : Decimal} {double : Binary} {n : Nat} (rounded : d.nearest = some double)
    (whole : double.toNat? = some n) (large : Nat.pow 2 63 ≤ n) :
    Violates .integer (.num (.decimal d)) .tooLarge
  | infinite {d : Decimal} (beyond : d.nearest = none) :
    Violates .integer (.num (.decimal d)) .notFinite
  | notFinite {n : Numeral} (named : n = .nan ∨ ∃ negative, n = .infinity negative) :
    Violates .integer (.num n) .notFinite
  | notText {value : Json} (other : ∀ s, value ≠ .str s) : Violates .text value .notText
  | notKind {value : Json} (given : value ≠ .null)
    (unknown : ∀ s ∈ ["proc", "verb"], value ≠ .str s) :
    Violates .procedureKind value .notKind
  | notList {kind : Kind} {value : Json} (other : ∀ items, value ≠ .arr items) :
    Violates (.list kind) value .notList
  | notTable {kind : Kind} {value : Json} (other : ∀ members, value ≠ .obj members) :
    Violates (.table kind) value .notMap
  | notFiles {value : Json} (other : ∀ members, value ≠ .obj members) :
    Violates .files value .notMap
  | notLocation {value : Json} (other : ∀ members, value ≠ .obj members) :
    Violates (.record .location) value .notLocation
  | notRecord {record : Record} {value : Json} (fixed : record ≠ .location)
    (other : ∀ members, value ≠ .obj members) : Violates (.record record) value .notRecord

/-- The way from a value of a kind leads to another value, which is to be of another kind. -/
inductive Reaches : Kind → Json → List Step → Kind → Json → Prop
  | here {kind : Kind} {value : Json} : Reaches kind value [] kind value
  | nonnull {kind inner : Kind} {value found : Json} {place : List Step} (given : value ≠ .null)
    (below : Reaches kind value place inner found) :
    Reaches (.nullable kind) value place inner found
  | item {kind inner : Kind} {items : List Json} {i : Nat} {item found : Json} {place : List Step}
    (there : items[i]? = some item) (below : Reaches kind item place inner found) :
    Reaches (.list kind) (.arr items) (.item i :: place) inner found
  | entry {kind inner : Kind} {members : List (String × Json)} {key : String} {value found : Json}
    {place : List Step} (there : (key, value) ∈ members)
    (below : Reaches kind value place inner found) :
    Reaches (.table kind) (.obj members) (.member key :: place) inner found
  | file {inner : Kind} {members : List (String × Json)} {key : String} {value found : Json}
    {place : List Step} (there : (key, value) ∈ members)
    (below : Reaches .text value place inner found) :
    Reaches .files (.obj members) (.member key :: place) inner found
  | field {record : Record} {inner : Kind} {members : List (String × Json)} {field : Field}
    {value found : Json} {place : List Step} (known : field ∈ record.fields)
    (there : Json.lastMember? members field.key = some value)
    (below : Reaches field.kind value place inner found) :
    Reaches (.record record) (.obj members) (.member field.key :: place) inner found

/-- A fault of a value: its place leads to a value of another kind, or to a record that lacks the
last key of the place, or to a key of the files that denotes no integer. -/
inductive Sound (kind : Kind) (value : Json) : Fault → Prop
  | violation {place : List Step} {inner : Kind} {found : Json} {cause : Cause}
    (reached : Reaches kind value place inner found) (violated : Violates inner found cause) :
    Sound kind value ⟨place, cause⟩
  | missing {place : List Step} {record : Record} {members : List (String × Json)} {field : Field}
    (reached : Reaches kind value place (.record record) (.obj members))
    (known : field ∈ record.fields) (required : field.required = true)
    (absent : Json.lastMember? members field.key = none) :
    Sound kind value ⟨place ++ [.member field.key], .missing⟩
  | fileKey {place : List Step} {members : List (String × Json)} {key : String} {entry : Json}
    {cause : Cause} (reached : Reaches kind value place .files (.obj members))
    (there : (key, entry) ∈ members) (violated : Violates .integer (.str key) cause) :
    Sound kind value ⟨place ++ [.member key, .key], cause⟩

/-! ## What conforms has no sound fault -/

theorem Reaches.conforms {kind inner : Kind} {value found : Json} {place : List Step}
    (reached : Reaches kind value place inner found) (conforms : Conforms kind value) :
    Conforms inner found := by
  induction reached with
  | here => exact conforms
  | nonnull given _ ih =>
    cases conforms with
    | null => contradiction
    | nonnull conforms => exact ih conforms
  | item there _ ih =>
    cases conforms with
    | list each => exact ih (each _ (List.mem_of_getElem? there))
  | entry there _ ih =>
    cases conforms with
    | table each => exact ih (each _ there)
  | file there _ ih =>
    cases conforms with
    | files _ each => exact ih (each _ there)
  | field known there _ ih =>
    cases conforms with
    | record _ each => exact ih (each _ known _ there)

theorem Violates.not_denotesInteger {value : Json} {cause : Cause}
    (violated : Violates .integer value cause) (n : Int) : ¬DenotesInteger value n := by
  intro denotes
  cases violated with
  | notInteger other => cases denotes <;> simp at other
  | notIntegerText none =>
    cases denotes with
    | str spelled => exact none n spelled
  | overlong overlong =>
    cases denotes with
    | str spelled => exact spelled.not_overlong overlong
  | fractional rounded fraction =>
    cases denotes with
    | decimal again whole => simp_all
  | tooLarge rounded whole large =>
    cases denotes with
    | decimal again also small =>
      rw [rounded] at again
      cases again
      rw [whole] at also
      cases also
      omega
  | infinite beyond =>
    cases denotes with
    | decimal rounded => simp [beyond] at rounded
  | notFinite named => cases denotes <;> simp at named

theorem Violates.not_conforms {kind : Kind} {value : Json} {cause : Cause}
    (violated : Violates kind value cause) : ¬Conforms kind value := by
  intro conforms
  cases conforms with
  | integer denotes => exact violated.not_denotesInteger _ denotes
  | text =>
    cases violated with
    | notText other => exact other _ rfl
  | noProcedureKind =>
    cases violated with
    | notKind given => exact given rfl
  | procedureKind known =>
    cases violated with
    | notKind _ unknown => exact unknown _ known rfl
  | null => cases violated
  | nonnull => cases violated
  | list =>
    cases violated with
    | notList other => exact other _ rfl
  | table =>
    cases violated with
    | notTable other => exact other _ rfl
  | files =>
    cases violated with
    | notFiles other => exact other _ rfl
  | record =>
    cases violated with
    | notLocation other => exact other _ rfl
    | notRecord _ other => exact other _ rfl

theorem Sound.not_conforms {kind : Kind} {value : Json} {fault : Fault}
    (sound : Sound kind value fault) : ¬Conforms kind value := by
  intro conforms
  cases sound with
  | violation reached violated => exact violated.not_conforms (reached.conforms conforms)
  | missing reached known required absent =>
    cases reached.conforms conforms with
    | record present => exact present _ known required absent
  | fileKey reached there violated =>
    cases reached.conforms conforms with
    | files keys =>
      obtain ⟨n, spelled⟩ := keys _ there
      exact violated.not_denotesInteger n (.str spelled)

theorem Sound.within {kind outer : Kind} {value whole : Json} {way : List Step} {fault : Fault}
    (leads : ∀ {place inner found}, Reaches kind value place inner found →
      Reaches outer whole (way ++ place) inner found)
    (sound : Sound kind value fault) : Sound outer whole ⟨way ++ fault.place, fault.cause⟩ := by
  cases sound with
  | violation reached violated => exact .violation (leads reached) violated
  | missing reached known required absent =>
    rw [← List.append_assoc]
    exact .missing (leads reached) known required absent
  | fileKey reached there violated =>
    rw [← List.append_assoc]
    exact .fileKey (leads reached) there violated

/-! ## The faults of a check -/

/-- The faults of a value that is to be of a kind: there are none only if it is, and each is
sound. -/
structure Exact (kind : Kind) (value : Json) (faults : List Fault) : Prop where
  conforms : faults = [] → Conforms kind value
  sound : ∀ fault ∈ faults, Sound kind value fault

namespace Exact

variable {kind : Kind} {value : Json} {α : Type}

theorem of_conforms (conforms : Conforms kind value) : Exact kind value [] :=
  ⟨fun _ => conforms, nofun⟩

theorem of_violates {cause : Cause} (violated : Violates kind value cause) :
    Exact kind value [⟨[], cause⟩] :=
  ⟨nofun, by simpa using .violation .here violated⟩

theorem conforms_iff {check : Verdict α} (exact : Exact kind value check.faults) :
    (∃ result, check = .accepted result) ↔ Conforms kind value := by
  constructor
  · rintro ⟨result, rfl⟩
    exact exact.conforms rfl
  · intro conforms
    rw [← Verdict.faults_eq_nil_iff, List.eq_nil_iff_forall_not_mem]
    exact fun fault member => (exact.sound fault member).not_conforms conforms

end Exact

theorem violates_of_integerText {s : String} {cause : Cause}
    (refused : integerText s = .error cause) : Violates .integer (.str s) cause := by
  obtain ⟨none, rfl | ⟨rfl, overlong⟩⟩ := integerText_eq_error refused
  · exact .notIntegerText none
  · exact .overlong overlong

theorem integer_exact (value : Json) : Exact .integer value (integer value).faults := by
  cases value with
  | null => exact .of_violates (.notInteger (.inl rfl))
  | bool b => exact .of_conforms (.integer .bool)
  | num n =>
    cases n with
    | integer n => exact .of_conforms (.integer .integer)
    | nan => exact .of_violates (.notFinite (.inl rfl))
    | infinity negative => exact .of_violates (.notFinite (.inr ⟨negative, rfl⟩))
    | decimal d =>
      rw [integer, integerOfDecimal]
      split
      · rename_i beyond
        exact .of_violates (.infinite beyond)
      · rename_i rounded
        split
        · rename_i fraction
          exact .of_violates (.fractional rounded fraction)
        · rename_i whole
          split
          · rename_i small
            exact .of_conforms (.integer (.decimal rounded whole small))
          · rename_i large
            exact .of_violates (.tooLarge rounded whole (Nat.not_lt.mp large))
  | str s =>
    rw [integer]
    cases outcome : integerText s with
    | ok n => exact .of_conforms (.integer (.str (integerText_eq_ok_iff.mp outcome)))
    | error cause => exact .of_violates (violates_of_integerText outcome)
  | arr items => exact .of_violates (.notInteger (.inr (.inl ⟨items, rfl⟩)))
  | obj members => exact .of_violates (.notInteger (.inr (.inr ⟨members, rfl⟩)))

theorem text_exact (value : Json) : Exact .text value (text value).faults := by
  cases value with
  | str s => exact .of_conforms .text
  | _ => exact .of_violates (.notText (by simp))

theorem procedureKind_exact (value : Json) :
    Exact .procedureKind value (procedureKind value).faults := by
  unfold procedureKind
  split
  · exact .of_conforms .noProcedureKind
  · exact .of_conforms (.procedureKind (by simp))
  · exact .of_conforms (.procedureKind (by simp))
  · rename_i given proc verb
    refine .of_violates (.notKind given ?_)
    simp only [List.forall_mem_cons]
    exact ⟨proc, verb, nofun⟩

section Containers

variable {α : Type} {check : Json → Verdict α} {kind : Kind}

theorem nullable_exact {value : Json}
    (inner : value ≠ .null → Exact kind value (check value).faults) :
    Exact (.nullable kind) value (nullable check value).faults := by
  unfold nullable
  split
  · exact .of_conforms .null
  · rename_i given
    rw [Verdict.map_eq, Verdict.faults_map]
    obtain ⟨conforms, sound⟩ := inner given
    have leads {place : List Step} {inner : Kind} {found : Json}
        (reached : Reaches kind value place inner found) :
        Reaches (.nullable kind) value ([] ++ place) inner found :=
      .nonnull given reached
    refine ⟨fun none => .nonnull (conforms none), fun fault member => ?_⟩
    exact (sound fault member).within leads

theorem list_exact {value : Json}
    (each : ∀ items, value = .arr items → ∀ item ∈ items, Exact kind item (check item).faults) :
    Exact (.list kind) value (list check value).faults := by
  cases value with
  | arr items =>
    rw [list, Verdict.faults_all]
    constructor
    · intro none
      refine .list fun item member => (each items rfl item member).conforms ?_
      obtain ⟨i, inside, rfl⟩ := List.mem_iff_getElem.mp member
      have checked := List.flatMap_eq_nil_iff.mp none _ (List.mem_mapIdx.mpr ⟨i, inside, rfl⟩)
      simpa using checked
    · intro fault member
      obtain ⟨_, checked, inside⟩ := List.mem_flatMap.mp member
      obtain ⟨i, bound, rfl⟩ := List.mem_mapIdx.mp checked
      rw [Verdict.faults_under] at inside
      obtain ⟨inner, there, rfl⟩ := List.mem_map.mp inside
      have leads {place : List Step} {deeper : Kind} {found : Json}
          (reached : Reaches kind items[i] place deeper found) :
          Reaches (.list kind) (.arr items) ([.item i] ++ place) deeper found :=
        .item (List.getElem?_eq_getElem bound) reached
      exact ((each items rfl _ (List.getElem_mem bound)).sound inner there).within leads
  | _ => exact .of_violates (.notList (by simp))

theorem table_exact {value : Json}
    (each : ∀ members, value = .obj members → ∀ member ∈ members,
      Exact kind member.2 (check member.2).faults) :
    Exact (.table kind) value (table check value).faults := by
  cases value with
  | obj members =>
    rw [table, Verdict.map_eq, Verdict.faults_map, Verdict.faults_all]
    constructor
    · intro none
      refine .table fun member there => (each members rfl member there).conforms ?_
      have checked := List.flatMap_eq_nil_iff.mp none _ (List.mem_map_of_mem there)
      simpa [Verdict.map_eq] using checked
    · intro fault member
      obtain ⟨_, checked, inside⟩ := List.mem_flatMap.mp member
      obtain ⟨⟨key, entry⟩, there, rfl⟩ := List.mem_map.mp checked
      simp only [Verdict.map_eq, Verdict.faults_map, Verdict.faults_under, List.mem_map] at inside
      obtain ⟨inner, entryFault, rfl⟩ := inside
      have leads {place : List Step} {deeper : Kind} {found : Json}
          (reached : Reaches kind entry place deeper found) :
          Reaches (.table kind) (.obj members) ([.member key] ++ place) deeper found :=
        .entry there reached
      exact ((each members rfl _ there).sound inner entryFault).within leads
  | _ => exact .of_violates (.notTable (by simp))

end Containers

theorem files_exact (value : Json) : Exact .files value (files value).faults := by
  cases value with
  | obj members =>
    rw [files, Verdict.map_eq, Verdict.faults_map, Verdict.faults_all]
    constructor
    · intro none
      have checked : ∀ member ∈ members,
          (Verdict.ofExcept (integerText member.1)).faults = [] ∧ (text member.2).faults = [] := by
        intro member there
        have checked := List.flatMap_eq_nil_iff.mp none _ (List.mem_map_of_mem there)
        simpa [Verdict.map_eq, Verdict.seq_eq] using checked
      refine .files (fun member there => ?_) fun member there => ?_
      · cases outcome : integerText member.1 with
        | ok n => exact ⟨n, integerText_eq_ok_iff.mp outcome⟩
        | error cause =>
          have unfaulted := (checked member there).1
          rw [outcome] at unfaulted
          cases unfaulted
      · exact (text_exact member.2).conforms (checked member there).2
    · intro fault member
      obtain ⟨_, checked, inside⟩ := List.mem_flatMap.mp member
      obtain ⟨⟨key, entry⟩, there, rfl⟩ := List.mem_map.mp checked
      simp only [Verdict.seq_eq, Verdict.map_eq, Verdict.faults_ap, Verdict.faults_map,
        Verdict.faults_under, List.map_map, List.mem_append, List.mem_map, Function.comp_apply]
        at inside
      obtain ⟨inner, keyFault, rfl⟩ | ⟨inner, valueFault, rfl⟩ := inside
      · cases outcome : integerText key with
        | ok n => simp [outcome, Verdict.ofExcept, Verdict.faults] at keyFault
        | error cause =>
          obtain rfl : inner = ⟨[], cause⟩ := by
            simpa [outcome, Verdict.ofExcept, Verdict.fail, Verdict.faults] using keyFault
          exact .fileKey .here there (violates_of_integerText outcome)
      · have leads {place : List Step} {deeper : Kind} {found : Json}
            (reached : Reaches .text entry place deeper found) :
            Reaches .files (.obj members) ([.member key] ++ place) deeper found :=
          .file there reached
        exact ((text_exact entry).sound inner valueFault).within leads
  | _ => exact .of_violates (.notFiles (by simp))

/-! ## Records -/

structure FieldsExact (record : Record) (members : List (String × Json)) (fields : List Field)
    (faults : List Fault) : Prop where
  present : faults = [] → ∀ field ∈ fields, field.required = true →
    Json.lastMember? members field.key ≠ none
  conforms : faults = [] → ∀ field ∈ fields, ∀ value,
    Json.lastMember? members field.key = some value → Conforms field.kind value
  sound : ∀ fault ∈ faults, Sound (.record record) (.obj members) fault

section Fields

variable {record : Record} {members : List (String × Json)} {α : Type} {check : Json → Verdict α}

theorem FieldsExact.cons {field : Field} {fields : List Field} {faults others : List Fault}
    (first : FieldsExact record members [field] faults)
    (rest : FieldsExact record members fields others) :
    FieldsExact record members (field :: fields) (faults ++ others) := by
  refine ⟨fun none => ?_, fun none => ?_, ?_⟩
  · obtain ⟨left, right⟩ := List.append_eq_nil_iff.mp none
    exact List.forall_mem_append.mpr ⟨first.present left, rest.present right⟩
  · obtain ⟨left, right⟩ := List.append_eq_nil_iff.mp none
    exact List.forall_mem_append.mpr ⟨first.conforms left, rest.conforms right⟩
  · exact List.forall_mem_append.mpr ⟨first.sound, rest.sound⟩

theorem FieldsExact.exact {faults : List Fault}
    (all : FieldsExact record members record.fields faults) :
    Exact (.record record) (.obj members) faults :=
  ⟨fun none => .record (all.present none) (all.conforms none), all.sound⟩

theorem fieldsExact_given {field : Field} (known : field ∈ record.fields) {value : Json}
    (there : Json.lastMember? members field.key = some value) {checked : Verdict α}
    (exact : Exact field.kind value checked.faults) :
    FieldsExact record members [field] (checked.under (.member field.key)).faults := by
  have leads {place : List Step} {deeper : Kind} {found : Json}
      (reached : Reaches field.kind value place deeper found) :
      Reaches (.record record) (.obj members) ([.member field.key] ++ place) deeper found :=
    .field known there reached
  refine ⟨?_, ?_, ?_⟩
  · simp [there]
  · intro none
    have conforms := exact.conforms (by simpa using none)
    simpa [there] using conforms
  · intro fault member
    rw [Verdict.faults_under] at member
    obtain ⟨inner, inside, rfl⟩ := List.mem_map.mp member
    exact (exact.sound inner inside).within leads

theorem required_exact {field : Field} (known : field ∈ record.fields) (due : field.required = true)
    (each : ∀ value, Json.lastMember? members field.key = some value →
      Exact field.kind value (check value).faults) :
    FieldsExact record members [field] (required members field.key check).faults := by
  unfold required
  split
  · rename_i value there
    exact fieldsExact_given known there (each value there)
  · rename_i absent
    refine ⟨nofun, nofun, ?_⟩
    simpa [Verdict.faults] using Sound.missing .here known due absent

theorem optional_exact {field : Field} (known : field ∈ record.fields)
    (free : field.required = false)
    {default : α} (each : ∀ value, Json.lastMember? members field.key = some value →
      Exact field.kind value (check value).faults) :
    FieldsExact record members [field] (optional members field.key default check).faults := by
  unfold optional
  split
  · rename_i value there
    exact fieldsExact_given known there (each value there)
  · rename_i absent
    refine ⟨?_, ?_, nofun⟩
    · simp [free]
    · simp [absent]

end Fields

theorem location_exact (value : Json) :
    Exact (.record .location) value (location value).faults := by
  cases value with
  | obj members =>
    simp only [location, Verdict.seq_eq, Verdict.map_eq, Verdict.faults_ap, Verdict.faults_map]
    apply FieldsExact.exact
    exact .cons (required_exact (by simp [Record.fields]) rfl fun value _ => integer_exact value)
      (required_exact (by simp [Record.fields]) rfl fun value _ => integer_exact value)
  | _ => exact .of_violates (.notLocation (by simp))

theorem texts_exact (value : Json) : Exact (.list .text) value (list text value).faults :=
  list_exact fun _ _ item _ => text_exact item

theorem parameter_exact (value : Json) :
    Exact (.record .parameter) value (parameter value).faults := by
  cases value with
  | obj members =>
    simp only [parameter, Verdict.seq_eq, Verdict.map_eq, Verdict.faults_ap, Verdict.faults_map]
    apply FieldsExact.exact
    exact .cons (optional_exact (by simp [Record.fields]) rfl fun value _ => texts_exact value)
      (required_exact (by simp [Record.fields]) rfl fun value _ => text_exact value)
  | _ => exact .of_violates (.notRecord (by simp) (by simp))

theorem variableEntry_exact (value : Json) :
    Exact (.record .variableEntry) value (variableEntry value).faults := by
  cases value with
  | obj members =>
    simp only [variableEntry, Verdict.seq_eq, Verdict.map_eq, Verdict.faults_ap, Verdict.faults_map]
    apply FieldsExact.exact
    exact .cons (required_exact (by simp [Record.fields]) rfl fun value _ => location_exact value)
      (optional_exact (by simp [Record.fields]) rfl fun value _ =>
        nullable_exact fun _ => texts_exact value)
  | _ => exact .of_violates (.notRecord (by simp) (by simp))

theorem procedureEntry_exact (value : Json) :
    Exact (.record .procedureEntry) value (procedureEntry value).faults := by
  cases value with
  | obj members =>
    simp only [procedureEntry, Verdict.seq_eq, Verdict.map_eq, Verdict.faults_ap, Verdict.faults_map,
      List.append_assoc]
    apply FieldsExact.exact
    exact .cons (required_exact (by simp [Record.fields]) rfl fun value _ => location_exact value)
      (.cons (optional_exact (by simp [Record.fields]) rfl fun value _ => procedureKind_exact value)
        (optional_exact (by simp [Record.fields]) rfl fun value _ =>
          list_exact fun _ _ item _ => parameter_exact item))
  | _ => exact .of_violates (.notRecord (by simp) (by simp))

theorem docComment_exact (value : Json) :
    Exact (.record .docComment) value (docComment value).faults := by
  cases value with
  | obj members =>
    simp only [docComment, Verdict.seq_eq, Verdict.map_eq, Verdict.faults_ap, Verdict.faults_map]
    apply FieldsExact.exact
    exact .cons (required_exact (by simp [Record.fields]) rfl fun value _ => location_exact value)
      (required_exact (by simp [Record.fields]) rfl fun value _ => text_exact value)
  | _ => exact .of_violates (.notRecord (by simp) (by simp))

theorem sizeOf_item_lt {members : List (String × Json)} {key : String} {items : List Json}
    {item : Json} (there : Json.lastMember? members key = some (.arr items))
    (member : item ∈ items) : sizeOf item < sizeOf (Json.obj members) := by
  have inside := List.sizeOf_lt_of_mem member
  have below := sizeOf_lastMember? there
  rw [Json.arr.sizeOf_spec] at below
  omega

theorem typeNode_exact (value : Json) :
    Exact (.record .typeNode) value (typeNode value).faults := by
  cases value with
  | obj members =>
    simp only [typeNode_obj, Verdict.seq_eq, Verdict.map_eq, Verdict.faults_ap, Verdict.faults_map,
      List.append_assoc]
    apply FieldsExact.exact
    refine .cons (optional_exact (by simp [Record.fields]) rfl fun value _ => text_exact value)
      (.cons (required_exact (by simp [Record.fields]) rfl fun value _ => location_exact value)
      (.cons (optional_exact (by simp [Record.fields]) rfl fun value _ =>
        nullable_exact fun _ => text_exact value)
      (.cons (optional_exact (by simp [Record.fields]) rfl fun value _ =>
        table_exact fun _ _ member _ => variableEntry_exact member.2)
      (.cons (optional_exact (by simp [Record.fields]) rfl fun value _ =>
        table_exact fun _ _ member _ => procedureEntry_exact member.2)
      (optional_exact (by simp [Record.fields]) rfl fun value there =>
        list_exact fun items same item member => ?_)))))
    -- A child stands in an array below a member, so it is smaller than the object.
    have smaller := sizeOf_item_lt (same ▸ there) member
    exact typeNode_exact item
  | _ =>
    unfold typeNode
    exact .of_violates (.notRecord (by simp) (by simp))
termination_by sizeOf value
decreasing_by exact smaller

theorem environment_exact (value : Json) :
    Exact (.record .environment) value (environment value).faults := by
  cases value with
  | obj members =>
    simp only [environment, Verdict.seq_eq, Verdict.map_eq, Verdict.faults_ap, Verdict.faults_map,
      List.append_assoc]
    apply FieldsExact.exact
    exact .cons (optional_exact (by simp [Record.fields]) rfl fun value _ => files_exact value)
      (.cons (required_exact (by simp [Record.fields]) rfl fun value _ => typeNode_exact value)
        (optional_exact (by simp [Record.fields]) rfl fun value _ =>
          list_exact fun _ _ item _ => docComment_exact item))
  | _ => exact .of_violates (.notRecord (by simp) (by simp))

end DreamDoc.Dump
