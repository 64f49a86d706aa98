import DreamDoc.Dump.Basic
import DreamDoc.Dump.Printer
import DreamDoc.Loader
import DreamDoc.Proofs.Conformance
import DreamDoc.Proofs.JsonPrinting
import DreamDoc.Proofs.JsonReading

namespace DreamDoc

namespace Table

variable {κ α : Type} [DecidableEq κ]

theorem put_of_not_mem {key : κ} {entries : List (κ × α)} (absent : key ∉ entries.map Prod.fst)
    (value : α) : put key value entries = entries ++ [(key, value)] := by
  induction entries with
  | nil => rfl
  | cons entry rest ih =>
    simp only [List.map_cons, List.mem_cons, not_or] at absent
    rw [put, if_neg (Ne.symm absent.1), ih absent.2, List.cons_append]

theorem entries_foldl_insert (t : Table κ α) (writes : List (κ × α))
    (distinct : ((t.entries ++ writes).map Prod.fst).Nodup) :
    (writes.foldl (fun t write => t.insert write.1 write.2) t).entries = t.entries ++ writes := by
  induction writes generalizing t with
  | nil => simp
  | cons write rest ih =>
    have absent : write.1 ∉ t.entries.map Prod.fst := by
      intro member
      rw [List.map_append, List.nodup_append] at distinct
      exact distinct.2.2 _ member _ (by simp) rfl
    have added : (t.insert write.1 write.2).entries = t.entries ++ [write] :=
      put_of_not_mem absent write.2
    rw [List.foldl_cons, ih _ (by simpa [added] using distinct), added]
    simp

theorem ofList_entries (t : Table κ α) : ofList t.entries = t := by
  apply Table.ext
  rw [ofList, entries_foldl_insert ∅ t.entries (by simpa using t.distinct)]
  simp

end Table

namespace Verdict

variable {α β : Type}

@[simp]
theorem map_accepted (f : α → β) (value : α) : f <$> accepted value = accepted (f value) := rfl

@[simp]
theorem seq_accepted (f : α → β) (value : α) :
    accepted f <*> accepted value = accepted (f value) := rfl

@[simp]
theorem under_accepted (step : Step) (value : α) : (accepted value).under step = accepted value :=
  rfl

theorem all_accepted (values : List α) : all (values.map accepted) = accepted values := by
  induction values with
  | nil => rfl
  | cons value rest ih => rw [List.map_cons, all, ih]; rfl

end Verdict

theorem ofList_perm_toList {α : Type} {entries : List (Int × α)} {map : Std.ExtTreeMap Int α}
    (ordered : entries.Perm map.toList) : Std.ExtTreeMap.ofList entries = map := by
  have distinct : entries.Pairwise fun a b => ¬compare a.1 b.1 = .eq :=
    (ordered.pairwise_iff fun apart same => apart (Std.OrientedCmp.eq_symm same)).mpr
      map.distinct_keys_toList
  apply Std.ExtTreeMap.ext_getElem?
  intro key
  cases found : map[key]? with
  | some value =>
    have member : (key, value) ∈ entries :=
      ordered.mem_iff.mpr (Std.ExtTreeMap.mem_toList_iff_getElem?_eq_some.mpr found)
    exact Std.ExtTreeMap.getElem?_ofList_of_mem Std.ReflCmp.compare_self distinct member
  | none =>
    apply Std.ExtTreeMap.getElem?_ofList_of_contains_eq_false
    simp only [List.contains_eq_mem, decide_eq_false_iff_not, (ordered.map Prod.fst).mem_iff,
      Std.ExtTreeMap.map_fst_toList_eq_keys, Std.ExtTreeMap.mem_keys]
    simp [Std.ExtTreeMap.mem_iff_isSome_getElem?, found]

theorem TypeNode.childrenInduction {P : TypeNode → Prop}
    (step : ∀ node, (∀ child ∈ node.children, P child) → P node) : (node : TypeNode) → P node
  | ⟨path, location, parent, vars, procs, children⟩ =>
    step _ fun child _ => childrenInduction step child
termination_by node => sizeOf node
decreasing_by
  rename_i member
  have := List.sizeOf_lt_of_mem member
  simp only [TypeNode.mk.sizeOf_spec] at *
  omega

namespace Dump

theorem printInt_eq (n : Int) :
    ∃ negative : Bool,
      Json.printInt n = (if negative then ['-'] else []) ++ Nat.toDigits 10 n.natAbs ∧
      n = if negative then -(n.natAbs : Int) else n.natAbs := by
  cases n with
  | ofNat m => exact ⟨false, rfl, rfl⟩
  | negSucc m => exact ⟨true, rfl, rfl⟩

theorem integerText_printInt {n : Int} (short : Json.digitCount n ≤ limits.digits) :
    integerText (String.ofList (Json.printInt n)) = .ok n := by
  obtain ⟨negative, printed, value⟩ := printInt_eq n
  have plain := plainInteger_digits negative (Json.isDigit_toDigits n.natAbs)
    (Json.isWhole_toDigits n.natAbs) short
  rw [Json.digitsValue_toDigits, ← printed, ← value] at plain
  rw [integerText_eq_ok_iff, String.toList_ofList]
  exact integerText_of_plainInteger plain

theorem digitCount_le_of_integerText {n m : Int} (denotes : IntegerText (Json.printInt n) m) :
    Json.digitCount n ≤ limits.digits := by
  obtain ⟨negative, printed, -⟩ := printInt_eq n
  refine Nat.not_lt.mp fun long => denotes.not_overlong ?_
  refine ⟨negative, Nat.toDigits 10 n.natAbs, [], by simpa using printed,
    Json.isDigit_toDigits n.natAbs, ?_, long⟩
  intro zero
  have single : Nat.toDigits 10 n.natAbs = ['0'] := by
    simpa [Json.isWhole, zero] using Json.isWhole_toDigits n.natAbs
  rw [Json.digitCount, single] at long
  exact absurd long (by decide)

section Accepted

variable {α : Type} {check : Json → Verdict α} {write : α → Json}

theorem list_accepted {values : List α}
    (each : ∀ value ∈ values, check (write value) = .accepted value) :
    list check (.arr (values.map write)) = .accepted values := by
  have checked : (values.map write).mapIdx (fun i item => (check item).under (.item i)) =
      values.map Verdict.accepted := by
    apply List.ext_getElem
    · simp
    · intro i inside _
      have bound : i < values.length := by simpa using inside
      simp [each values[i] (List.getElem_mem bound)]
  rw [list, checked, Verdict.all_accepted]

theorem nullable_accepted {value : Option α}
    (each : ∀ inner, value = some inner → check (write inner) = .accepted inner)
    (proper : ∀ inner, write inner ≠ .null) :
    nullable check ((value.map write).getD .null) = .accepted value := by
  cases value with
  | none => rfl
  | some inner =>
    have checked := each inner rfl
    have other := proper inner
    simp only [Option.map_some, Option.getD_some]
    unfold nullable
    split
    · rename_i null
      exact absurd null other
    · rw [checked]
      rfl

theorem table_accepted {t : Table String α}
    (each : ∀ entry ∈ t.entries, check (write entry.2) = .accepted entry.2) :
    table check (tableJson write t) = .accepted t := by
  have checked : (t.entries.map fun entry => (entry.1, write entry.2)).map (fun member =>
      Prod.mk member.1 <$> (check member.2).under (.member member.1)) =
        t.entries.map Verdict.accepted := by
    rw [List.map_map]
    apply List.map_congr_left
    intro entry member
    simp [each entry member]
  simp only [table, tableJson]
  rw [checked, Verdict.all_accepted]
  simp [Table.ofList_entries]

end Accepted

theorem text_str (s : String) : text (.str s) = .accepted s := rfl

theorem texts_accepted (texts : List String) :
    list text (textsJson texts) = .accepted texts :=
  list_accepted fun s _ => text_str s

theorem location_accepted (place : Location) : location (locationJson place) = .accepted place := by
  simp [locationJson, location, required, Json.lastMember?, List.lookup_cons, integerJson, integer]

theorem parameter_accepted (p : Parameter) : parameter (parameterJson p) = .accepted p := by
  simp [parameterJson, parameter, required, optional, Json.lastMember?, List.lookup_cons,
    texts_accepted, text]

theorem variable_accepted (var : Variable) : variableEntry (variableJson var) = .accepted var := by
  have typed : nullable (list text) ((var.typePath.map textsJson).getD .null) =
      .accepted var.typePath :=
    nullable_accepted (fun texts _ => texts_accepted texts) nofun
  simp [variableJson, variableEntry, required, optional, Json.lastMember?, List.lookup_cons,
    location_accepted, typed]

theorem procedureKind_accepted (kind : Option ProcedureKind) :
    procedureKind ((kind.map procedureKindJson).getD .null) = .accepted kind := by
  cases kind with
  | none => rfl
  | some kind => cases kind <;> rfl

theorem procedure_accepted (procedure : Procedure) :
    procedureEntry (procedureJson procedure) = .accepted procedure := by
  have parameters : list parameter (.arr (procedure.parameters.map parameterJson)) =
      .accepted procedure.parameters :=
    list_accepted fun p _ => parameter_accepted p
  simp [procedureJson, procedureEntry, required, optional, Json.lastMember?, List.lookup_cons,
    location_accepted, procedureKind_accepted, parameters]

theorem docComment_accepted (comment : DocComment) :
    docComment (docCommentJson comment) = .accepted comment := by
  simp [docCommentJson, docComment, required, Json.lastMember?, List.lookup_cons, location_accepted, text]

theorem typeNodesJson_eq_map (nodes : List TypeNode) :
    typeNodesJson nodes = nodes.map typeNodeJson := by
  induction nodes with
  | nil => rfl
  | cons node rest ih => rw [typeNodesJson, ih, List.map_cons]

theorem typeNode_accepted (node : TypeNode) : typeNode (typeNodeJson node) = .accepted node := by
  induction node using TypeNode.childrenInduction with
  | step node ih =>
    obtain ⟨path, place, parent, vars, procs, children⟩ := node
    have parentRead : nullable text ((parent.map .str).getD .null) = .accepted parent :=
      nullable_accepted (fun s _ => text_str s) nofun
    have varsRead : table variableEntry (tableJson variableJson vars) = .accepted vars :=
      table_accepted fun entry _ => variable_accepted entry.2
    have procsRead : table procedureEntry (tableJson procedureJson procs) = .accepted procs :=
      table_accepted fun entry _ => procedure_accepted entry.2
    have childrenRead : list typeNode (.arr (children.map typeNodeJson)) = .accepted children :=
      list_accepted ih
    rw [typeNodeJson, typeNodesJson_eq_map, typeNode_obj]
    simp [required, optional, Json.lastMember?, List.lookup_cons, location_accepted, parentRead, varsRead,
      procsRead, childrenRead, text]

theorem files_accepted {files : List (Int × String)} {map : Std.ExtTreeMap Int String}
    (ordered : files.Perm map.toList)
    (short : ∀ entry ∈ files, Json.digitCount entry.1 ≤ limits.digits) :
    Dump.files (filesJson files) = .accepted map := by
  have checked : (files.map fun entry => (String.ofList (Json.printInt entry.1), Json.str entry.2)).map
      (fun member => Prod.mk <$>
        ((Verdict.ofExcept (integerText member.1)).under .key).under (.member member.1) <*>
          (text member.2).under (.member member.1)) = files.map Verdict.accepted := by
    rw [List.map_map]
    apply List.map_congr_left
    intro entry member
    simp [integerText_printInt (short entry member), Verdict.ofExcept, text]
  simp only [Dump.files, filesJson]
  rw [checked, Verdict.all_accepted]
  simp [ofList_perm_toList ordered]

theorem environment_accepted {files : List (Int × String)} {env : Environment}
    (ordered : files.Perm env.files.toList)
    (short : ∀ entry ∈ files, Json.digitCount entry.1 ≤ limits.digits) :
    environment (environmentJson files env) = .accepted env := by
  have comments :
      list docComment (.arr (env.comments.map docCommentJson)) = .accepted env.comments :=
    list_accepted fun comment _ => docComment_accepted comment
  simp [environmentJson, environment, required, optional, Json.lastMember?, List.lookup_cons,
    files_accepted ordered short, typeNode_accepted, comments]

end Dump

/-! ## Integers -/

def TypeNode.ownLocations (node : TypeNode) : List Location :=
  node.location :: (node.vars.entries.map (·.2.location) ++ node.procs.entries.map (·.2.location))

def Environment.locations (env : Environment) : List Location :=
  env.tree.preorder.flatMap TypeNode.ownLocations ++ env.comments.map (·.location)

/-- Every integer of an environment: the numbers of its files, and of its locations. -/
def Environment.integers (env : Environment) : List Int :=
  env.files.keys ++ env.locations.flatMap fun place => [place.file, place.line]

def Location.Within (longest : Nat) (place : Location) : Prop :=
  Json.digitCount place.file ≤ longest ∧ Json.digitCount place.line ≤ longest

namespace Dump

open Json (Integral)

variable {longest : Nat}

@[simp]
theorem integral_textsJson (texts : List String) : Integral longest (textsJson texts) := by
  simp [textsJson]

@[simp]
theorem integral_locationJson {place : Location} :
    Integral longest (locationJson place) ↔ place.Within longest := by
  simp [locationJson, integerJson, Location.Within]

@[simp]
theorem integral_parameterJson (parameter : Parameter) :
    Integral longest (parameterJson parameter) := by
  simp [parameterJson]

@[simp]
theorem integral_variableJson {var : Variable} :
    Integral longest (variableJson var) ↔ var.location.Within longest := by
  cases typed : var.typePath <;> simp [variableJson, typed]

@[simp]
theorem integral_procedureJson {procedure : Procedure} :
    Integral longest (procedureJson procedure) ↔ procedure.location.Within longest := by
  have kinds : Integral longest ((procedure.kind.map procedureKindJson).getD .null) := by
    match procedure.kind with
    | none => exact .null
    | some .proc => exact .str
    | some .verb => exact .str
  simp [procedureJson, kinds]

@[simp]
theorem integral_docCommentJson {comment : DocComment} :
    Integral longest (docCommentJson comment) ↔ comment.location.Within longest := by
  simp [docCommentJson]

@[simp]
theorem integral_tableJson {α : Type} {write : α → Json} {t : Table String α} :
    Integral longest (tableJson write t) ↔
      ∀ entry ∈ t.entries, Integral longest (write entry.2) := by
  simp only [tableJson, Json.integral_obj, List.forall_mem_map]

theorem integral_typeNodeJson (node : TypeNode) :
    Integral longest (typeNodeJson node) ↔
      ∀ place ∈ node.preorder.flatMap TypeNode.ownLocations, place.Within longest := by
  induction node using TypeNode.childrenInduction with
  | step node ih =>
    rw [TypeNode.preorder_eq, List.flatMap_cons, List.forall_mem_append, List.flatMap_assoc]
    obtain ⟨path, place, parent, vars, procs, children⟩ := node
    have parents : Integral longest ((parent.map .str).getD .null) := by
      cases parent <;> simp
    have below : (∀ child ∈ children, Integral longest (typeNodeJson child)) ↔
        ∀ place ∈ children.flatMap (fun child => child.preorder.flatMap TypeNode.ownLocations),
          place.Within longest := by
      rw [List.forall_mem_flatMap]
      exact forall₂_congr ih
    rw [typeNodeJson, typeNodesJson_eq_map]
    simp only [Json.integral_obj, Json.integral_arr, List.forall_mem_cons, List.forall_mem_map,
      Json.integral_str, integral_locationJson, parents, integral_tableJson, integral_variableJson,
      integral_procedureJson, below, TypeNode.ownLocations, List.forall_mem_append]
    simp [and_assoc]

theorem integral_environmentJson {files : List (Int × String)} {env : Environment} :
    Integral longest (environmentJson files env) ↔
      ∀ place ∈ env.locations, place.Within longest := by
  simp only [environmentJson, filesJson, Json.integral_obj, Json.integral_arr, List.forall_mem_cons,
    List.forall_mem_map, Json.integral_str, integral_typeNodeJson, integral_docCommentJson,
    Environment.locations, List.forall_mem_append]
  simp

theorem read_toUTF8 (text : String) : read text.toUTF8 = readText text := by
  have decoded : String.fromUTF8? text.toUTF8 = some text := dif_pos text.isValidUTF8
  simp only [read, decoded]

theorem read_of_written {value : Json} {text : String}
    (written : Json.Written limits.digits false value text.toList)
    (shallow : value.depth ≤ limits.depth) : read text.toUTF8 = environment value := by
  simp only [read_toUTF8, readText, Json.parse_of_written written shallow]

theorem written_of_read {longest : Nat} {alone : Bool} {value : Json} {text : String}
    {env : Environment} (written : Json.Written longest alone value text.toList)
    (accepted : read text.toUTF8 = .accepted env) :
    Json.Written limits.digits false value text.toList ∧ environment value = .accepted env := by
  rw [read_toUTF8, readText] at accepted
  split at accepted
  · rename_i other parsed
    obtain rfl := Json.eq_of_parse written parsed
    exact ⟨(Json.parse_eq_ok_iff.mp parsed).1, accepted⟩
  · cases accepted

theorem short_of_conforms {files : List (Int × String)} {env : Environment}
    (conforms : Conforms (.record .environment) (environmentJson files env)) :
    ∀ entry ∈ files, Json.digitCount entry.1 ≤ limits.digits := by
  have inside : Conforms .files (filesJson files) := by
    cases conforms with
    | record _ each => exact each ⟨"files", .files, false⟩ (by simp [Record.fields]) _ rfl
  intro entry member
  cases inside with
  | files keys =>
    obtain ⟨n, denotes⟩ := keys _ (List.mem_map_of_mem member)
    rw [String.toList_ofList] at denotes
    exact digitCount_le_of_integerText denotes

end Dump

theorem Environment.forall_mem_integers {env : Environment} {longest : Nat} :
    (∀ n ∈ env.integers, Json.digitCount n ≤ longest) ↔
      (∀ id ∈ env.files.keys, Json.digitCount id ≤ longest) ∧
        ∀ place ∈ env.locations, place.Within longest := by
  simp only [integers, List.forall_mem_append, List.forall_mem_flatMap, List.forall_mem_cons,
    Location.Within]
  simp

namespace Loader

variable {env : Environment} {files : List (Int × String)}

theorem forall_mem_keys (ordered : files.Perm env.files.toList) {P : Int → Prop} :
    (∀ id ∈ env.files.keys, P id) ↔ ∀ entry ∈ files, P entry.1 := by
  rw [← Std.ExtTreeMap.map_fst_toList_eq_keys, List.forall_mem_map]
  exact forall_congr' fun entry => imp_congr_left ordered.mem_iff.symm

theorem readDump_of_short (source : String) (ordered : files.Perm env.files.toList)
    (shallow : (Dump.environmentJson files env).depth ≤ Dump.limits.depth)
    (short : ∀ n ∈ env.integers, Json.digitCount n ≤ Dump.limits.digits) :
    readDump source (Dump.writeInOrder files env).toUTF8 = .ok env := by
  obtain ⟨ids, places⟩ := Environment.forall_mem_integers.mp short
  have written : Json.Written Dump.limits.digits false (Dump.environmentJson files env)
      (Dump.writeInOrder files env).toList :=
    Json.written_render (Dump.integral_environmentJson.mpr places)
  rw [readDump, Dump.read_of_written written shallow,
    Dump.environment_accepted ordered ((forall_mem_keys ordered).mp ids)]

theorem exists_within (places : List Location) :
    ∃ longest, ∀ place ∈ places, place.Within longest := by
  induction places with
  | nil => exact ⟨0, nofun⟩
  | cons place rest ih =>
    obtain ⟨longest, within⟩ := ih
    refine ⟨longest + Json.digitCount place.file + Json.digitCount place.line, ?_⟩
    simp only [List.forall_mem_cons, Location.Within] at within ⊢
    refine ⟨by omega, fun place member => ?_⟩
    have := within place member
    omega

theorem short_of_readDump {source : String} (ordered : files.Perm env.files.toList)
    (read : readDump source (Dump.writeInOrder files env).toUTF8 = .ok env) :
    ∀ n ∈ env.integers, Json.digitCount n ≤ Dump.limits.digits := by
  have accepted : Dump.read (Dump.writeInOrder files env).toUTF8 = .accepted env := by
    unfold readDump at read
    split at read
    · cases read
      assumption
    · cases read
  -- The printed text writes the printed value, if numerals may be as long as they happen to be.
  obtain ⟨longest, within⟩ := exists_within env.locations
  have integral : Json.Integral longest (Dump.environmentJson files env) :=
    Dump.integral_environmentJson.mpr within
  have loose : Json.Written longest false (Dump.environmentJson files env)
      (Dump.writeInOrder files env).toList := Json.written_render integral
  obtain ⟨written, accepted⟩ := Dump.written_of_read loose accepted
  have conforms := (Dump.environment_exact _).conforms_iff.mp ⟨env, accepted⟩
  rw [Environment.forall_mem_integers]
  exact ⟨(forall_mem_keys ordered).mpr (Dump.short_of_conforms conforms),
    Dump.integral_environmentJson.mp (integral.of_written written)⟩

theorem lt_digitCount_pow {k : Nat} (positive : 0 < k) :
    k < Json.digitCount (Nat.pow 10 k : Nat) := by
  refine Nat.not_le.mp fun short => ?_
  exact Nat.lt_irrefl _ ((Nat.length_toDigits_le_iff (by decide) positive).mp short)

end Loader

end DreamDoc
