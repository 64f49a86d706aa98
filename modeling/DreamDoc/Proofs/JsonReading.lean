import DreamDoc.Proofs.JsonTexts
import Mathlib.Data.List.TakeWhile

namespace DreamDoc.Json

variable {limits : Limits}

/-! ## Strings and numerals -/

theorem bodyWritten_of_readString {done cs rest : List Char} {s : String}
    (read : readString done cs = some (s, rest)) :
    ∃ body added, cs = body ++ '\x22' :: rest ∧ s.toList = done.reverse ++ added ∧
      BodyWritten false added body := by
  have extend {done text tail : List Char} {c : Char} (char : CharWritten c text)
      (ih : ∃ body added, tail = body ++ '\x22' :: rest ∧
        s.toList = (c :: done).reverse ++ added ∧ BodyWritten false added body) :
      ∃ body added, text ++ tail = body ++ '\x22' :: rest ∧ s.toList = done.reverse ++ added ∧
        BodyWritten false added body := by
    obtain ⟨body, added, rfl, value, written⟩ := ih
    exact ⟨text ++ body, c :: added, by simp, by simpa using value, .cons char written⟩
  fun_induction readString done cs with
  | case2 done rest =>
    cases read
    exact ⟨[], [], rfl, by simp, .nil⟩
  | case6 done a b c d high first notLow isHigh e f g h tail low second isLow ih =>
    exact extend (.pair first second isHigh isLow) (ih read)
  | case9 done a b c d tail unit digits notLow notHigh ih =>
    exact extend (.unit digits (by simpa using notHigh) (by simpa using notLow)) (ih read)
  | case11 done letter tail _ plain known ih => exact extend (.short known) (ih read)
  | case13 done c tail unquoted _ _ plain ih =>
    simp only [not_or, Nat.not_lt] at plain
    exact extend (.plain plain.1 unquoted plain.2) (ih read)
  | _ => cases read

theorem fractionWritten_of_read {cs digits rest : List Char}
    (read : readFraction? cs = some (digits, rest)) :
    ∃ text, cs = text ++ rest ∧ FractionWritten digits text := by
  unfold readFraction? at read
  split at read
  · rename_i tail
    simp only [Option.ite_none_left_eq_some, Option.some.injEq, Prod.mk.injEq] at read
    obtain ⟨nonempty, rfl, rfl⟩ := read
    refine ⟨'.' :: tail.takeWhile Char.isDigit, ?_, .given nonempty fun c member => ?_⟩
    · rw [List.cons_append, List.takeWhile_append_dropWhile]
    · exact List.mem_takeWhile_imp member
  · cases read
    exact ⟨[], rfl, .missing⟩

theorem splitSign_eq (cs : List Char) :
    ∃ sign, (sign, (splitSign cs).1) ∈ [([], false), (['+'], false), (['-'], true)] ∧
      cs = sign ++ (splitSign cs).2 := by
  unfold splitSign
  split
  · exact ⟨['-'], by simp, rfl⟩
  · exact ⟨['+'], by simp, rfl⟩
  · exact ⟨[], by simp, rfl⟩

theorem exponentWritten_of_read {cs rest : List Char} {exponent : Option Int}
    (read : readExponent? cs = some (exponent, rest)) :
    ∃ text, cs = text ++ rest ∧ ExponentWritten exponent text := by
  unfold readExponent? at read
  split at read
  · cases read
    exact ⟨[], rfl, .missing⟩
  · rename_i mark tail
    split at read
    · rename_i marked
      obtain ⟨sign, signed, split⟩ := splitSign_eq tail
      simp only [Option.ite_none_left_eq_some, Option.some.injEq, Prod.mk.injEq] at read
      obtain ⟨nonempty, rfl, rfl⟩ := read
      refine ⟨_, ?_, .given marked signed nonempty fun c member => List.mem_takeWhile_imp member⟩
      rw [List.cons_append, List.cons_append, List.append_assoc, List.takeWhile_append_dropWhile,
        ← split]
    · cases read
      exact ⟨[], rfl, .missing⟩

theorem numeralWritten_of_read {cs rest : List Char} {n : Numeral}
    (read : readNumeral? limits cs = some (n, rest)) :
    ∃ text, cs = text ++ rest ∧ NumeralWritten limits.digits n text := by
  have magnitude {negative : Bool} {cs : List Char}
      (read : readMagnitude? limits negative cs = some (n, rest)) :
      ∃ text, (if negative then ['-'] else []) ++ cs = text ++ rest ∧
        NumeralWritten limits.digits n text := by
    unfold readMagnitude? at read
    simp only [Option.ite_none_left_eq_some, Option.bind_eq_bind, Option.bind_eq_some_iff] at read
    obtain ⟨fits, ⟨fraction, middle⟩, first, ⟨exponent, left⟩, second, last⟩ := read
    cases last
    obtain ⟨fractionText, whole, fractional⟩ := fractionWritten_of_read first
    obtain ⟨exponentText, rfl, scaled⟩ := exponentWritten_of_read second
    simp only [Bool.or_eq_true, Bool.not_eq_eq_eq_not, Bool.not_true, decide_eq_true_eq, not_or,
      Bool.not_eq_false, Nat.not_lt] at fits
    have decimal : ∀ c ∈ cs.takeWhile Char.isDigit, c.isDigit :=
      fun c member => List.mem_takeWhile_imp member
    refine ⟨_, ?_, .mk fits.1 decimal fits.2 fractional scaled⟩
    simp only [List.append_assoc, ← whole, List.takeWhile_append_dropWhile]
  unfold readNumeral? at read
  split at read
  · obtain ⟨text, split, written⟩ := magnitude read
    exact ⟨text, split, written⟩
  · obtain ⟨text, split, written⟩ := magnitude read
    exact ⟨text, split, written⟩

/-! ## Tokens -/

inductive TokenText (longest : Nat) : Token → List Char → Prop
  | openBracket : TokenText longest .openBracket ['[']
  | closeBracket : TokenText longest .closeBracket [']']
  | openBrace : TokenText longest .openBrace ['\x7b']
  | closeBrace : TokenText longest .closeBrace ['\x7d']
  | comma : TokenText longest .comma [',']
  | colon : TokenText longest .colon [':']
  | str {s : String} {body : List Char} (written : BodyWritten false s.toList body) :
    TokenText longest (.str s) ('\x22' :: body ++ ['\x22'])
  | scalar {value : Json} {text : List Char} (written : Written longest false value text)
    (flat : value.depth = 0) : TokenText longest (.scalar value) text

theorem tokenText_of_read {first : Char} {rest left : List Char} {token : Token}
    (read : Token.read limits first rest = some (token, left)) :
    ∃ text, first :: rest = text ++ left ∧ TokenText limits.digits token text := by
  unfold Token.read at read
  split at read
  case h_7 =>
    obtain ⟨⟨s, tail⟩, inside, same⟩ := Option.map_eq_some_iff.mp read
    cases same
    obtain ⟨body, added, rfl, value, written⟩ := bodyWritten_of_readString inside
    rw [List.reverse_nil, List.nil_append] at value
    exact ⟨'\x22' :: body ++ ['\x22'], by simp, .str (value ▸ written)⟩
  case h_8 =>
    obtain ⟨⟨value, tail⟩, inside, same⟩ := Option.map_eq_some_iff.mp read
    cases same
    unfold readScalar? at inside
    split at inside
    · rename_i word named found
      cases inside
      have starts := List.find?_some found
      have member := List.mem_of_find?_eq_some found
      have flat : ∀ entry ∈ namedValues, entry.2.depth = 0 := by simp [namedValues, depth]
      exact ⟨word, (List.prefix_iff_eq_append.mp (List.isPrefixOf_iff_prefix.mp starts)).symm,
        .scalar (.word member) (flat _ member)⟩
    · obtain ⟨⟨n, tail⟩, numeral, same⟩ := Option.map_eq_some_iff.mp inside
      cases same
      obtain ⟨text, split, written⟩ := numeralWritten_of_read numeral
      exact ⟨text, split, .scalar (.num written) rfl⟩
  all_goals cases read
  · exact ⟨['['], rfl, .openBracket⟩
  · exact ⟨[']'], rfl, .closeBracket⟩
  · exact ⟨['\x7b'], rfl, .openBrace⟩
  · exact ⟨['\x7d'], rfl, .closeBrace⟩
  · exact ⟨[','], rfl, .comma⟩
  · exact ⟨[':'], rfl, .colon⟩

/-! ## Containers -/

theorem depth_arr_le {items : List Json} {outside most : Nat} (room : outside ≤ most)
    (each : ∀ item ∈ items, item.depth + outside < most) :
    (Json.arr items).depth + outside ≤ most := by
  rw [depth]
  induction items with
  | nil => simpa [itemsDepth] using room
  | cons item rest ih =>
    simp only [List.forall_mem_cons] at each
    have others := ih each.2
    rw [itemsDepth]
    omega

theorem depth_obj_le {members : List (String × Json)} {outside most : Nat} (room : outside ≤ most)
    (each : ∀ member ∈ members, member.2.depth + outside < most) :
    (Json.obj members).depth + outside ≤ most := by
  rw [depth]
  induction members with
  | nil => simpa [membersDepth] using room
  | cons member rest ih =>
    simp only [List.forall_mem_cons] at each
    have others := ih each.2
    rw [membersDepth]
    omega

/-- The texts of items inside an array that has `outside` other containers around it. -/
structure ItemsFit (limits : Limits) (outside : Nat) (items : List (Json × List Char)) : Prop where
  each : ∀ item ∈ items, Written limits.digits false item.1 item.2
  shallow : ∀ item ∈ items, item.1.depth + outside < limits.depth

structure MembersFit (limits : Limits) (outside : Nat) (members : List MemberText) : Prop where
  keys : ∀ member ∈ members, KeyWritten false member.key member.keyText
  each : ∀ member ∈ members, Written limits.digits false member.value member.valueText
  shallow : ∀ member ∈ members, member.value.depth + outside < limits.depth

inductive ArrayStart (limits : Limits) (outside : Nat) : List Json → List Char → Prop
  | mk {lead : List Char} {items : List (Json × List Char)} (blank : Blank lead)
    (fit : ItemsFit limits outside items) :
    ArrayStart limits outside (items.map Prod.fst).reverse
      (lead ++ '[' :: items.flatMap fun item => item.2 ++ [','])

inductive ObjectStart (limits : Limits) (outside : Nat) : List (String × Json) → List Char → Prop
  | mk {lead : List Char} {members : List MemberText} (blank : Blank lead)
    (fit : MembersFit limits outside members) :
    ObjectStart limits outside (members.map fun member => (member.key, member.value)).reverse
      (lead ++ '\x7b' :: members.flatMap fun member =>
        member.keyText ++ ':' :: member.valueText ++ [','])

theorem ArrayStart.empty {outside : Nat} {lead : List Char} (blank : Blank lead) :
    ArrayStart limits outside [] (lead ++ ['[']) :=
  have none : ItemsFit limits outside [] := ⟨nofun, nofun⟩
  .mk blank none

theorem ObjectStart.empty {outside : Nat} {lead : List Char} (blank : Blank lead) :
    ObjectStart limits outside [] (lead ++ ['\x7b']) :=
  have none : MembersFit limits outside [] := ⟨nofun, nofun, nofun⟩
  .mk blank none

theorem joinWith_concat (pieces : List (List Char)) (last : List Char) :
    Text.joinWith ',' (pieces ++ [last]) = pieces.flatMap (· ++ [',']) ++ last := by
  induction pieces with
  | nil => rfl
  | cons piece rest ih => cases rest <;> simp_all [Text.joinWith]

section Starts

variable {outside : Nat} {value : Json} {text valueText : List Char}

theorem Written.lead {lead : List Char} (blank : Blank lead)
    (written : Written limits.digits false value text) : Written limits.digits false value (lead ++ text) := by
  simpa using Written.padded blank written (nofun : Blank [])

theorem Written.trail {trail : List Char} (written : Written limits.digits false value text)
    (blank : Blank trail) : Written limits.digits false value (text ++ trail) :=
  .padded (nofun : Blank []) written blank

variable (written : Written limits.digits false value valueText)
  (shallow : value.depth + outside < limits.depth)

section Array

include written shallow

theorem ItemsFit.concat {items : List (Json × List Char)} (fit : ItemsFit limits outside items) :
    ItemsFit limits outside (items ++ [(value, valueText)]) :=
  ⟨List.forall_mem_append.mpr ⟨fit.each, by simpa using written⟩,
    List.forall_mem_append.mpr ⟨fit.shallow, by simpa using shallow⟩⟩

variable {items : List Json} (start : ArrayStart limits outside items text)

include start

theorem ArrayStart.next :
    ArrayStart limits outside (value :: items) (text ++ valueText ++ [',']) := by
  obtain ⟨blank, fit⟩ := start
  simpa using ArrayStart.mk blank (fit.concat written shallow)

theorem ArrayStart.close :
    Written limits.digits false (.arr (value :: items).reverse) (text ++ valueText ++ [']']) ∧
      (Json.arr (value :: items).reverse).depth + outside ≤ limits.depth := by
  obtain ⟨blank, fit⟩ := start
  have all := fit.concat written shallow
  constructor
  · simpa [joinWith_concat, List.flatMap_map] using (Written.arr (by simp) all.each).lead blank
  · apply depth_arr_le (by omega)
    simpa only [List.mem_reverse, List.forall_mem_cons, List.forall_mem_map] using
      ⟨shallow, fit.shallow⟩

end Array

section Object

variable {key : String} {keyText : List Char} (keyed : KeyWritten false key keyText)

include keyed written shallow

theorem MembersFit.concat {members : List MemberText} (fit : MembersFit limits outside members) :
    MembersFit limits outside (members ++ [⟨key, keyText, value, valueText⟩]) :=
  ⟨List.forall_mem_append.mpr ⟨fit.keys, by simpa using keyed⟩,
    List.forall_mem_append.mpr ⟨fit.each, by simpa using written⟩,
    List.forall_mem_append.mpr ⟨fit.shallow, by simpa using shallow⟩⟩

variable {members : List (String × Json)} (start : ObjectStart limits outside members text)

include start

theorem ObjectStart.next :
    ObjectStart limits outside ((key, value) :: members)
      (text ++ keyText ++ ':' :: valueText ++ [',']) := by
  obtain ⟨blank, fit⟩ := start
  simpa using ObjectStart.mk blank (fit.concat written shallow keyed)

theorem ObjectStart.close :
    Written limits.digits false (.obj ((key, value) :: members).reverse)
        (text ++ keyText ++ ':' :: valueText ++ ['\x7d']) ∧
      (Json.obj ((key, value) :: members).reverse).depth + outside ≤ limits.depth := by
  obtain ⟨blank, fit⟩ := start
  have all := fit.concat written shallow keyed
  constructor
  · simpa [joinWith_concat, List.flatMap_map] using
      (Written.obj (by simp) all.keys all.each).lead blank
  · apply depth_obj_le (by omega)
    simpa only [List.mem_reverse, List.forall_mem_cons, List.forall_mem_map] using
      ⟨shallow, fit.shallow⟩

end Object

end Starts

/-! ## Steps -/

/-- What has been read when a value is awaited inside open containers. -/
inductive Opened (limits : Limits) : List Frame → List Char → Prop
  | nil : Opened limits [] []
  | array {outer : List Frame} {before text : List Char} {items : List Json}
    (opened : Opened limits outer before) (start : ArrayStart limits outer.length items text) :
    Opened limits (.array items :: outer) (before ++ text)
  | object {outer : List Frame} {before text keyText : List Char} {members : List (String × Json)}
    {key : String} (opened : Opened limits outer before)
    (start : ObjectStart limits outer.length members text) (keyed : KeyWritten false key keyText) :
    Opened limits (.object members key :: outer) (before ++ (text ++ keyText ++ [':']))

/-- What has been read when the machine is in a state. -/
inductive Holds (limits : Limits) : State → List Char → Prop
  | value {outer : List Frame} {before lead : List Char} (opened : Opened limits outer before)
    (blank : Blank lead) : Holds limits (.reading .value outer) (before ++ lead)
  | firstItem {outer : List Frame} {before lead inner : List Char}
    (opened : Opened limits outer before) (blank : Blank lead) (room : outer.length ≤ limits.depth)
    (blankInner : Blank inner) :
    Holds limits (.reading .firstItem outer) (before ++ (lead ++ '[' :: inner))
  | afterItem {outer : List Frame} {before text valueText : List Char} {items : List Json}
    {value : Json} (opened : Opened limits outer before)
    (start : ArrayStart limits outer.length items text)
    (written : Written limits.digits false value valueText)
    (shallow : value.depth + outer.length < limits.depth) :
    Holds limits (.reading (.afterItem (value :: items)) outer) (before ++ (text ++ valueText))
  | firstKey {outer : List Frame} {before lead inner : List Char}
    (opened : Opened limits outer before) (blank : Blank lead) (room : outer.length ≤ limits.depth)
    (blankInner : Blank inner) :
    Holds limits (.reading .firstKey outer) (before ++ (lead ++ '\x7b' :: inner))
  | key {outer : List Frame} {before text inner : List Char} {members : List (String × Json)}
    (opened : Opened limits outer before) (start : ObjectStart limits outer.length members text)
    (blank : Blank inner) :
    Holds limits (.reading (.key members) outer) (before ++ (text ++ inner))
  | colon {outer : List Frame} {before text keyText : List Char} {members : List (String × Json)}
    {key : String} (opened : Opened limits outer before)
    (start : ObjectStart limits outer.length members text) (keyed : KeyWritten false key keyText) :
    Holds limits (.reading (.colon members key) outer) (before ++ (text ++ keyText))
  | afterMember {outer : List Frame} {before text keyText valueText : List Char}
    {members : List (String × Json)} {key : String} {value : Json}
    (opened : Opened limits outer before) (start : ObjectStart limits outer.length members text)
    (keyed : KeyWritten false key keyText) (written : Written limits.digits false value valueText)
    (shallow : value.depth + outer.length < limits.depth) :
    Holds limits (.reading (.afterMember ((key, value) :: members)) outer)
      (before ++ (text ++ keyText ++ ':' :: valueText))
  | finished {text : List Char} {value : Json} (written : Written limits.digits false value text)
    (shallow : value.depth ≤ limits.depth) : Holds limits (.finished value) text

theorem Blank.append {first second : List Char} (blank : Blank first) (more : Blank second) :
    Blank (first ++ second) :=
  List.forall_mem_append.mpr ⟨blank, more⟩

theorem KeyWritten.trail {key : String} {text trail : List Char} (keyed : KeyWritten false key text)
    (blank : Blank trail) : KeyWritten false key (text ++ trail) := by
  obtain ⟨before, body, after, blankBefore, written, blankAfter, rfl⟩ := keyed
  exact ⟨before, body, after ++ trail, blankBefore, written, blankAfter.append blank, by simp⟩

theorem keyWritten_of_body {key : String} {lead body : List Char} (blank : Blank lead)
    (written : BodyWritten false key.toList body) :
    KeyWritten false key (lead ++ ('\x22' :: body ++ ['\x22'])) :=
  ⟨lead, body, [], blank, written, nofun, by simp⟩

theorem Holds.blanks {state : State} {text blanks : List Char} (holds : Holds limits state text)
    (blank : Blank blanks) : Holds limits state (text ++ blanks) := by
  cases holds with
  | value opened lead =>
    rw [List.append_assoc]
    exact .value opened (lead.append blank)
  | firstItem opened lead room inner =>
    simpa using Holds.firstItem opened lead room (inner.append blank)
  | afterItem opened start written shallow =>
    simpa using Holds.afterItem opened start (written.trail blank) shallow
  | firstKey opened lead room inner =>
    simpa using Holds.firstKey opened lead room (inner.append blank)
  | key opened start inner => simpa using Holds.key opened start (inner.append blank)
  | colon opened start keyed => simpa using Holds.colon opened start (keyed.trail blank)
  | afterMember opened start keyed written shallow =>
    simpa using Holds.afterMember opened start keyed (written.trail blank) shallow
  | finished written shallow => exact .finished (written.trail blank) shallow

theorem holds_deliver {outer : List Frame} {before text : List Char} {value : Json}
    (opened : Opened limits outer before) (written : Written limits.digits false value text)
    (shallow : value.depth + outer.length ≤ limits.depth) :
    Holds limits (State.deliver value outer) (before ++ text) := by
  cases opened with
  | nil => exact .finished written (by simpa using shallow)
  | array opened start =>
    rw [List.append_assoc]
    exact .afterItem opened start written shallow
  | object opened start keyed =>
    simpa [State.deliver] using Holds.afterMember opened start keyed written shallow

theorem holds_start {outer : List Frame} {before lead text : List Char} {token : Token}
    {next : State} (opened : Opened limits outer before) (blank : Blank lead)
    (read : TokenText limits.digits token text)
    (stepped : State.start limits outer token = some next) :
    Holds limits next (before ++ lead ++ text) := by
  rw [State.start, Option.ite_none_right_eq_some] at stepped
  obtain ⟨room, entered⟩ := stepped
  cases read with
  | scalar written flat =>
    cases entered
    rw [List.append_assoc]
    exact holds_deliver opened (written.lead blank) (by omega)
  | str written =>
    cases entered
    rw [List.append_assoc]
    exact holds_deliver opened ((Written.str written).lead blank) (by simpa [depth] using room)
  | openBracket =>
    cases entered
    rw [List.append_assoc]
    exact .firstItem opened blank room (List.forall_mem_nil _)
  | openBrace =>
    cases entered
    rw [List.append_assoc]
    exact .firstKey opened blank room (List.forall_mem_nil _)
  | _ => cases entered

theorem holds_step {state next : State} {before text : List Char} {token : Token}
    (holds : Holds limits state before) (read : TokenText limits.digits token text)
    (stepped : state.step limits token = some next) : Holds limits next (before ++ text) := by
  cases holds with
  | value opened blank => exact holds_start opened blank read stepped
  | firstItem opened blank room blankInner =>
    rename_i outer _ _ _
    -- Only at the first item may a bracket close the array where a value could begin.
    by_cases close : token = .closeBracket
    · subst close
      cases read
      cases stepped
      have fits : (Json.arr []).depth + outer.length ≤ limits.depth := depth_arr_le room nofun
      simpa using holds_deliver opened ((Written.emptyArray blankInner).lead blank) fits
    · rw [awaits_firstItem outer token close] at stepped
      simpa using holds_start (.array opened (.empty blank)) blankInner read stepped
  | afterItem opened start written shallow =>
    cases read with
    | comma =>
      cases stepped
      have awaiting := Holds.value (.array opened (start.next written shallow)) (nofun : Blank [])
      simpa using awaiting
    | closeBracket =>
      cases stepped
      obtain ⟨closed, fits⟩ := start.close written shallow
      simpa using holds_deliver opened closed fits
    | _ => cases stepped
  | firstKey opened blank room blankInner =>
    rename_i outer _ _ _
    cases read with
    | closeBrace =>
      cases stepped
      have fits : (Json.obj []).depth + outer.length ≤ limits.depth := depth_obj_le room nofun
      simpa using holds_deliver opened ((Written.emptyObject blankInner).lead blank) fits
    | str written =>
      cases stepped
      simpa using Holds.colon opened (.empty blank) (keyWritten_of_body blankInner written)
    | _ => cases stepped
  | key opened start blank =>
    cases read with
    | str written =>
      cases stepped
      simpa using Holds.colon opened start (keyWritten_of_body blank written)
    | _ => cases stepped
  | colon opened start keyed =>
    cases read with
    | colon =>
      cases stepped
      have awaiting := Holds.value (.object opened start keyed) (nofun : Blank [])
      simpa using awaiting
    | _ => cases stepped
  | afterMember opened start keyed written shallow =>
    cases read with
    | comma =>
      cases stepped
      have awaiting := Holds.key opened (start.next written shallow keyed) (nofun : Blank [])
      simpa using awaiting
    | closeBrace =>
      cases stepped
      obtain ⟨closed, fits⟩ := start.close written shallow keyed
      simpa using holds_deliver opened closed fits
    | _ => cases stepped
  | finished => cases stepped

theorem Holds.written {value : Json} {text : List Char}
    (holds : Holds limits (.finished value) text) :
    Written limits.digits false value text ∧ value.depth ≤ limits.depth := by
  cases holds with
  | finished written shallow => exact ⟨written, shallow⟩

theorem written_of_run {state : State} {before text : List Char} {value : Json}
    (holds : Holds limits state before) (read : state.run limits text = .ok value) :
    Written limits.digits false value (before ++ text) ∧ value.depth ≤ limits.depth := by
  have blank : Blank (text.takeWhile isBlank) := fun c member => List.mem_takeWhile_imp member
  have split := List.takeWhile_append_dropWhile (p := isBlank) (l := text)
  have spaced := holds.blanks blank
  rw [run_eq] at read
  cases rest : text.dropWhile isBlank with
  | nil =>
    rw [rest, List.append_nil] at split
    rw [split] at spaced
    simp only [rest] at read
    cases state with
    | finished => cases read; exact spaced.written
    | reading => cases read
  | cons first tail =>
    simp only [rest] at read
    cases taken : Token.read limits first tail with
    | none => simp [taken] at read
    | some result =>
      obtain ⟨token, left⟩ := result
      simp only [taken] at read
      cases stepped : state.step limits token with
      | none => simp [stepped] at read
      | some next =>
        simp only [stepped] at read
        obtain ⟨piece, cut, tokenText⟩ := tokenText_of_read taken
        have shorter : left.length < text.length := by
          have consumed := Token.length_of_read taken
          have dropped := congrArg List.length split
          rw [rest, List.length_append, List.length_cons] at dropped
          omega
        have whole := written_of_run (holds_step spaced tokenText stepped) read
        rwa [List.append_assoc, ← cut, ← rest, List.append_assoc, split] at whole
termination_by text.length

theorem parse_eq_ok_iff {text : String} {value : Json} :
    parse limits text = .ok value ↔
      Written limits.digits false value text.toList ∧ value.depth ≤ limits.depth := by
  constructor
  · intro read
    have ready : Holds limits (.reading .value []) ([] ++ []) := .value .nil nofun
    exact written_of_run ready read
  · exact fun ⟨written, shallow⟩ => parse_of_written written shallow

end DreamDoc.Json
