import DreamDoc.Proofs.Signatures
import DreamDoc.Text.Split

namespace DreamDoc

namespace Text

variable {mark : Char} {tail : List Char}

theorem append_cons_inj {front other rest others : List Char} (absent : mark ∉ front)
    (alsoAbsent : mark ∉ other) (same : front ++ mark :: rest = other ++ mark :: others) :
    front = other ∧ rest = others := by
  have pieces := congrArg (splitAt mark) same
  rw [splitAt_append absent, splitAt_append alsoAbsent] at pieces
  obtain rfl := (List.cons.inj pieces).1
  simpa using same

/-- Pieces with a mark behind each of them, and a last one without. -/
def followed (mark : List Char) (pieces : List (List Char)) (last : List Char) : List Char :=
  pieces.flatMap (· ++ mark) ++ last

theorem followed_cons (mark piece : List Char) (pieces : List (List Char)) (last : List Char) :
    followed mark (piece :: pieces) last = piece ++ (mark ++ followed mark pieces last) := by
  simp [followed]

theorem intercalate_concat (mark : List Char) (pieces : List (List Char)) (last : List Char) :
    mark.intercalate (pieces ++ [last]) = followed mark pieces last := by
  induction pieces with
  | nil => simp [followed]
  | cons piece rest ih =>
    obtain ⟨next, others, split⟩ := List.exists_cons_of_ne_nil
      (List.append_ne_nil_of_right_ne_nil rest (List.cons_ne_nil last []))
    rw [List.cons_append, split, List.intercalate_cons_cons, ← split, ih, followed_cons,
      List.append_assoc]

theorem not_mem_followed {c : Char} {mark : List Char} {pieces : List (List Char)}
    {last : List Char} (outside : c ∉ mark) (absent : ∀ piece ∈ pieces, c ∉ piece)
    (unmarked : c ∉ last) : c ∉ followed mark pieces last := by
  rw [followed, List.mem_append, List.mem_flatMap]
  rintro (⟨piece, member, inside⟩ | inside)
  · exact absent piece member ((List.mem_append.mp inside).resolve_right outside)
  · exact unmarked inside

theorem not_mem_intercalate {c : Char} {mark : List Char} {pieces : List (List Char)}
    (outside : c ∉ mark) (absent : ∀ piece ∈ pieces, c ∉ piece) :
    c ∉ mark.intercalate pieces := by
  rcases pieces.eq_nil_or_concat' with rfl | ⟨front, last, rfl⟩
  · simp
  · rw [intercalate_concat]
    exact not_mem_followed outside (fun piece member => absent piece (List.mem_append_left _ member))
      (absent last (by simp))

theorem followed_inj {pieces others : List (List Char)} {last final : List Char}
    (absent : ∀ piece ∈ pieces, mark ∉ piece) (alsoAbsent : ∀ piece ∈ others, mark ∉ piece)
    (unmarked : mark ∉ last) (alsoUnmarked : mark ∉ final)
    (same : followed (mark :: tail) pieces last = followed (mark :: tail) others final) :
    pieces = others ∧ last = final := by
  induction pieces generalizing others with
  | nil =>
    cases others with
    | nil => exact ⟨rfl, same⟩
    | cons other others =>
      -- Only the second text has a mark.
      have whole : last = followed (mark :: tail) (other :: others) final := same
      exact absurd (by simp [whole, followed_cons]) unmarked
  | cons piece pieces ih =>
    obtain ⟨here, later⟩ := List.forall_mem_cons.mp absent
    cases others with
    | nil =>
      have whole : followed (mark :: tail) (piece :: pieces) last = final := same
      exact absurd (by simp [← whole, followed_cons]) alsoUnmarked
    | cons other others =>
      obtain ⟨there, alsoLater⟩ := List.forall_mem_cons.mp alsoAbsent
      rw [followed_cons, followed_cons] at same
      obtain ⟨rfl, behind⟩ := append_cons_inj here there same
      obtain ⟨rfl, rfl⟩ := ih later alsoLater (List.append_cancel_left behind)
      exact ⟨rfl, rfl⟩

theorem intercalate_inj {pieces others : List (List Char)}
    (whole : ∀ piece ∈ pieces, piece ≠ [] ∧ mark ∉ piece)
    (alsoWhole : ∀ piece ∈ others, piece ≠ [] ∧ mark ∉ piece)
    (same : (mark :: tail).intercalate pieces = (mark :: tail).intercalate others) :
    pieces = others := by
  rcases pieces.eq_nil_or_concat' with rfl | ⟨front, last, rfl⟩
  · rcases others.eq_nil_or_concat' with rfl | ⟨back, final, rfl⟩
    · rfl
    · rw [intercalate_concat] at same
      have empty : final = [] := (List.append_eq_nil_iff.mp same.symm).2
      exact absurd empty (alsoWhole final (by simp)).1
  · rcases others.eq_nil_or_concat' with rfl | ⟨back, final, rfl⟩
    · rw [intercalate_concat] at same
      have empty : last = [] := (List.append_eq_nil_iff.mp same).2
      exact absurd empty (whole last (by simp)).1
    · rw [intercalate_concat, intercalate_concat] at same
      obtain ⟨rfl, rfl⟩ := followed_inj
        (fun piece member => (whole piece (List.mem_append_left _ member)).2)
        (fun piece member => (alsoWhole piece (List.mem_append_left _ member)).2)
        (whole last (by simp)).2 (alsoWhole final (by simp)).2 same
      rfl

end Text

/-- The characters that mark the parts of a member. -/
def marks : List Char := [':', ',', '(', ')', '\x7b', '\x7d', ';', ' ']

def isName (text : String) : Bool := text ≠ "" && text.toList.all fun c => c ∉ marks

section Names

variable {text : String}

theorem toList_ne_nil_of_isName (named : isName text) : text.toList ≠ [] := by
  simp_all [isName]

theorem not_mem_of_isName (named : isName text) {mark : Char} (isMark : mark ∈ marks) :
    mark ∉ text.toList := by
  intro inside
  have unmarked := List.all_eq_true.mp (Bool.and_eq_true_iff.mp named).2 mark inside
  exact of_decide_eq_true unmarked isMark

theorem not_mem_segments {segments : List String} (named : ∀ segment ∈ segments, isName segment)
    {mark : Char} (isMark : mark ∈ marks) :
    ∀ piece ∈ segments.map String.toList, mark ∉ piece := by
  intro piece member
  obtain ⟨segment, inside, rfl⟩ := List.mem_map.mp member
  exact not_mem_of_isName (named segment inside) isMark

theorem eq_of_map_toList {texts others : List String}
    (same : texts.map String.toList = others.map String.toList) : texts = others :=
  (List.map_inj_right fun _ _ => String.toList_inj.mp).mp same

end Names

namespace Parameter

structure Named (parameter : Parameter) : Prop where
  name : isName parameter.name
  path : ∀ segment ∈ parameter.path, isName segment

instance : DecidablePred Named := fun parameter =>
  decidable_of_iff (isName parameter.name ∧ ∀ segment ∈ parameter.path, isName segment)
    ⟨fun ⟨name, path⟩ => ⟨name, path⟩, fun ⟨name, path⟩ => ⟨name, path⟩⟩

theorem toList_text (parameter : Parameter) :
    parameter.text.toList = Text.followed [':', ':'] (parameter.path.map String.toList)
      parameter.name.toList := by
  simp [text, Text.followed, scope, String.toList_join, List.flatMap_map]

variable {parameter other : Parameter}

theorem Named.text_inj (named : parameter.Named) (alsoNamed : other.Named)
    (same : parameter.text = other.text) : parameter = other := by
  have colon : ':' ∈ marks := by decide
  rw [← String.toList_inj, toList_text, toList_text] at same
  obtain ⟨paths, names⟩ := Text.followed_inj (not_mem_segments named.path colon)
    (not_mem_segments alsoNamed.path colon) (not_mem_of_isName named.name colon)
    (not_mem_of_isName alsoNamed.name colon) same
  cases parameter
  cases other
  simpa using ⟨eq_of_map_toList paths, String.toList_inj.mp names⟩

theorem Named.not_mem_text (named : parameter.Named) : ',' ∉ parameter.text.toList := by
  have comma : ',' ∈ marks := by decide
  rw [toList_text]
  exact Text.not_mem_followed (by decide) (not_mem_segments named.path comma)
    (not_mem_of_isName named.name comma)

theorem Named.text_ne_nil (named : parameter.Named) : parameter.text.toList ≠ [] := by
  rw [toList_text]
  exact List.append_ne_nil_of_right_ne_nil _ (toList_ne_nil_of_isName named.name)

theorem map_text_inj {parameters others : List Parameter}
    (named : ∀ parameter ∈ parameters, parameter.Named)
    (alsoNamed : ∀ parameter ∈ others, parameter.Named)
    (same : parameters.map text = others.map text) : parameters = others := by
  induction parameters generalizing others with
  | nil => simpa using same.symm
  | cons parameter rest ih =>
    obtain ⟨first, later⟩ := List.forall_mem_cons.mp named
    cases others with
    | nil => simp at same
    | cons other others =>
      obtain ⟨alsoFirst, alsoLater⟩ := List.forall_mem_cons.mp alsoNamed
      obtain ⟨heads, tails⟩ := List.cons.inj same
      rw [first.text_inj alsoFirst heads, ih later alsoLater tails]

end Parameter

namespace Procedure

structure Named (name : String) (procedure : Procedure) : Prop where
  name : isName name
  parameters : ∀ parameter ∈ procedure.parameters, parameter.Named

theorem toList_signature (name : String) (procedure : Procedure) :
    (procedure.signature name).toList =
      ((procedure.kind.map ProcedureKind.text).getD "").toList ++ ' ' :: (name.toList ++ '(' ::
        ((", ".intercalate (procedure.parameters.map Parameter.text)).toList ++
          ")\x7b\x7d".toList)) := by
  simp [signature]

theorem kind_inj {kind other : Option ProcedureKind}
    (same : ((kind.map ProcedureKind.text).getD "").toList =
      ((other.map ProcedureKind.text).getD "").toList) : kind = other := by
  rcases kind with _ | _ | _ <;> rcases other with _ | _ | _ <;> simp_all [ProcedureKind.text]

theorem not_mem_kind (kind : Option ProcedureKind) :
    ' ' ∉ ((kind.map ProcedureKind.text).getD "").toList := by
  rcases kind with _ | _ | _ <;> decide

theorem parameters_inj {parameters others : List Parameter}
    (named : ∀ parameter ∈ parameters, parameter.Named)
    (alsoNamed : ∀ parameter ∈ others, parameter.Named)
    (same : (", ".intercalate (parameters.map Parameter.text)).toList =
      (", ".intercalate (others.map Parameter.text)).toList) : parameters = others := by
  have whole {parameters : List Parameter} (named : ∀ parameter ∈ parameters, parameter.Named) :
      ∀ piece ∈ (parameters.map Parameter.text).map String.toList, piece ≠ [] ∧ ',' ∉ piece := by
    intro piece member
    rw [List.map_map] at member
    obtain ⟨parameter, inside, rfl⟩ := List.mem_map.mp member
    exact ⟨(named parameter inside).text_ne_nil, (named parameter inside).not_mem_text⟩
  rw [String.toList_intercalate, String.toList_intercalate] at same
  have texts := Text.intercalate_inj (whole named) (whole alsoNamed) same
  exact Parameter.map_text_inj named alsoNamed (eq_of_map_toList texts)

variable {name other : String} {procedure twin : Procedure}

theorem Named.signature_inj (named : procedure.Named name) (alsoNamed : twin.Named other)
    (same : procedure.signature name = twin.signature other) :
    procedure.kind = twin.kind ∧ name = other ∧ procedure.parameters = twin.parameters := by
  have bracket : '(' ∈ marks := by decide
  rw [← String.toList_inj, toList_signature, toList_signature] at same
  obtain ⟨kinds, same⟩ := Text.append_cons_inj (not_mem_kind _) (not_mem_kind _) same
  obtain ⟨names, same⟩ := Text.append_cons_inj (not_mem_of_isName named.name bracket)
    (not_mem_of_isName alsoNamed.name bracket) same
  exact ⟨kind_inj kinds, String.toList_inj.mp names,
    parameters_inj named.parameters alsoNamed.parameters (List.append_cancel_right same)⟩

end Procedure

namespace Variable

structure Named (name : String) (var : Variable) : Prop where
  name : isName name
  path : ∀ segment ∈ var.typePath.getD [], isName segment

theorem toList_text (name : String) (var : Variable) :
    (var.text name).toList =
      [':', ':'].intercalate ((var.typePath.getD []).map String.toList) ++
        ' ' :: (name.toList ++ [';']) := by
  simp [text, scope, String.toList_intercalate]

variable {name other : String} {var twin : Variable}

theorem Named.whole (named : var.Named name) :
    ∀ piece ∈ (var.typePath.getD []).map String.toList, piece ≠ [] ∧ ':' ∉ piece := by
  intro piece member
  refine ⟨?_, not_mem_segments named.path (by decide) piece member⟩
  obtain ⟨segment, inside, rfl⟩ := List.mem_map.mp member
  exact toList_ne_nil_of_isName (named.path segment inside)

theorem Named.blank_not_mem (named : var.Named name) :
    ' ' ∉ [':', ':'].intercalate ((var.typePath.getD []).map String.toList) :=
  Text.not_mem_intercalate (by decide) (not_mem_segments named.path (by decide))

theorem Named.text_inj (named : var.Named name) (alsoNamed : twin.Named other)
    (same : var.text name = twin.text other) :
    name = other ∧ var.typePath.getD [] = twin.typePath.getD [] := by
  rw [← String.toList_inj, toList_text, toList_text] at same
  obtain ⟨paths, names⟩ :=
    Text.append_cons_inj named.blank_not_mem alsoNamed.blank_not_mem same
  have segments := Text.intercalate_inj named.whole alsoNamed.whole paths
  exact ⟨String.toList_inj.mp (List.append_cancel_right names), eq_of_map_toList segments⟩

end Variable

/-- Two members whose names hold no marks have the same text exactly if they are of the same kind
and agree in their names and in the types of their parts; a missing type reads like one without
segments. No variable reads like a procedure. -/
theorem memberTexts_decodable :
    (∀ (name other : String) (procedure twin : Procedure), procedure.Named name → twin.Named other →
      (String.join (procedure.texts name) = String.join (twin.texts other) ↔
        procedure.kind = twin.kind ∧ name = other ∧ procedure.parameters = twin.parameters)) ∧
    (∀ (name other : String) (var twin : Variable), var.Named name → twin.Named other →
      (var.text name = twin.text other ↔
        name = other ∧ var.typePath.getD [] = twin.typePath.getD [])) ∧
    ∀ (name other : String) (var : Variable) (procedure : Procedure),
      var.text name ≠ String.join (procedure.texts other) := by
  refine ⟨?_, ?_, ?_⟩
  · intro name other procedure twin named alsoNamed
    rw [procedure.join_texts, twin.join_texts]
    refine ⟨named.signature_inj alsoNamed, ?_⟩
    rintro ⟨kinds, rfl, parameters⟩
    rw [Procedure.signature, Procedure.signature, kinds, parameters]
  · intro name other var twin named alsoNamed
    refine ⟨named.text_inj alsoNamed, ?_⟩
    rintro ⟨rfl, paths⟩
    rw [Variable.text, Variable.text, paths]
  · intro name other var procedure same
    -- A variable ends with a semicolon and a procedure with a brace.
    rw [procedure.join_texts, ← String.toList_inj, var.toList_text,
      procedure.toList_signature] at same
    have last := congrArg List.getLast? same
    simp [List.getLast?_cons, List.getLast?_append] at last

theorem memberTexts_decodable_segments :
    let typed : Procedure := ⟨⟨1, 4⟩, some .verb, [⟨["obj", "item"], "thing"⟩, ⟨[], "n"⟩]⟩
    let apart : Procedure := ⟨⟨2, 7⟩, some .verb, [⟨["obj"], "item"⟩, ⟨[], "thing"⟩, ⟨[], "n"⟩]⟩
    String.join (typed.texts "give") ≠ String.join (apart.texts "give") ∧
      Variable.text "x" ⟨⟨1, 1⟩, none⟩ = Variable.text "x" ⟨⟨3, 2⟩, some []⟩ ∧
      Variable.text "x" ⟨⟨1, 1⟩, some ["a", "b"]⟩ ≠ Variable.text "x" ⟨⟨1, 1⟩, some ["b"]⟩ := by
  intro typed apart
  obtain ⟨procedures, vars, -⟩ := memberTexts_decodable
  have procedure := procedures "give" "give" typed apart ⟨by decide, by decide⟩
    ⟨by decide, by decide⟩
  have untyped := vars "x" "x" ⟨⟨1, 1⟩, none⟩ ⟨⟨3, 2⟩, some []⟩ ⟨by decide, by decide⟩
    ⟨by decide, by decide⟩
  have longer := vars "x" "x" ⟨⟨1, 1⟩, some ["a", "b"]⟩ ⟨⟨1, 1⟩, some ["b"]⟩
    ⟨by decide, by decide⟩ ⟨by decide, by decide⟩
  exact ⟨mt procedure.mp (by decide), untyped.mpr ⟨rfl, rfl⟩, mt longer.mp (by decide)⟩

end DreamDoc
