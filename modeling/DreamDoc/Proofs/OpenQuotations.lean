import DreamDoc.Loader
import Mathlib.Data.List.Induction

/-!
# Command lines that cannot be split

A command line is a row of pieces: characters, escaped characters and quotations. It can be split
unless the last piece is left open, and it has words unless all its characters are blanks. Whether a
split fails goes by the place that each character stands in, not by the words
(`splitFrom_eq_error_iff`).
-/

namespace DreamDoc.ShellWords

/-! ## Places -/

inductive Place where
  | outside
  | single
  | double
  | escape
  | escapeInDouble

def State.place : State → Place
  | between | plain _ => .outside
  | single _ => .single
  | double _ => .double
  | escape _ => .escape
  | escapeInDouble _ => .escapeInDouble

namespace Place

def next : Place → Char → Place
  | outside, c =>
    if c = '\x27' then single else if c = '\x22' then double else if c = '\x5c' then escape
    else outside
  | single, c => if c = '\x27' then outside else single
  | double, c => if c = '\x22' then outside else if c = '\x5c' then escapeInDouble else double
  | escape, _ => outside
  | escapeInDouble, _ => double

def failure? : Place → Option Failure
  | outside => none
  | single | double => some .openQuotation
  | escape | escapeInDouble => some .openEscape

theorem next_of_isBlank {c : Char} (blank : isBlank c = true) : outside.next c = outside := by
  simp only [isBlank, Bool.or_eq_true, decide_eq_true_eq] at blank
  rcases blank with ((rfl | rfl) | rfl) | rfl <;> rfl

end Place

theorem place_enter (word : List Char) (c : Char) :
    (enter word c).place = Place.outside.next c := by
  simp only [enter, apply_ite State.place]
  rfl

theorem map_eq_error_iff {α β : Type} {f : α → β} {result : Except Failure α} {failure : Failure} :
    f <$> result = .error failure ↔ result = .error failure := by
  cases result <;> simp [Functor.map, Except.map]

theorem exists_step (state : State) (c : Char) :
    ∃ later : State, later.place = state.place.next c ∧ ∀ rest failure,
      splitFrom state (c :: rest) = .error failure ↔ splitFrom later rest = .error failure := by
  cases state with
  | between =>
    by_cases blank : isBlank c = true
    · exact ⟨.between, (Place.next_of_isBlank blank).symm, by simp [splitFrom, blank]⟩
    · exact ⟨enter [] c, place_enter [] c, by simp [splitFrom, blank]⟩
  | plain word =>
    by_cases blank : isBlank c = true
    · exact ⟨.between, (Place.next_of_isBlank blank).symm,
        by simp [splitFrom, blank, map_eq_error_iff]⟩
    · exact ⟨enter word c, place_enter word c, by simp [splitFrom, blank]⟩
  | single word =>
    refine ⟨if c = '\x27' then .plain word else .single (c :: word), ?_, fun _ _ => Iff.rfl⟩
    exact apply_ite State.place ..
  | double word =>
    refine ⟨if c = '\x22' then .plain word else if c = '\x5c' then .escapeInDouble word
      else .double (c :: word), ?_, fun _ _ => Iff.rfl⟩
    simp only [apply_ite State.place]
    rfl
  | escape word => exact ⟨.plain (c :: word), rfl, fun _ _ => Iff.rfl⟩
  | escapeInDouble word => exact ⟨.double _, rfl, fun _ _ => Iff.rfl⟩

theorem splitFrom_eq_error_iff {state : State} {text : List Char} {failure : Failure} :
    splitFrom state text = .error failure ↔
      (text.foldl Place.next state.place).failure? = some failure := by
  induction text generalizing state with
  | nil => cases state <;> simp [splitFrom, State.place, Place.failure?]
  | cons c rest ih =>
    obtain ⟨later, place, same⟩ := exists_step state c
    rw [same, ih, place, List.foldl_cons]

/-! ## Pieces -/

inductive DoubleBody : List Char → Prop
  | nil : DoubleBody []
  | plain {body : List Char} {c : Char} (inner : DoubleBody body) (unquoted : c ≠ '\x22')
    (bare : c ≠ '\x5c') : DoubleBody (body ++ [c])
  | escaped {body : List Char} (inner : DoubleBody body) (c : Char) :
    DoubleBody (body ++ ['\x5c', c])

/-- A character, an escaped character or a quotation. -/
inductive Piece : List Char → Prop
  | plain {c : Char} (noSingle : c ≠ '\x27') (noDouble : c ≠ '\x22') (bare : c ≠ '\x5c') :
    Piece [c]
  | escaped (c : Char) : Piece ['\x5c', c]
  | single {body : List Char} (unquoted : '\x27' ∉ body) : Piece ('\x27' :: body ++ ['\x27'])
  | double {body : List Char} (inner : DoubleBody body) : Piece ('\x22' :: body ++ ['\x22'])

inductive Closed : List Char → Prop
  | nil : Closed []
  | concat {front piece : List Char} (before : Closed front) (last : Piece piece) :
    Closed (front ++ piece)

/-- Behind some pieces a quotation begins and is not ended. -/
inductive EndsInQuotation : List Char → Prop
  | single {front body : List Char} (before : Closed front) (unquoted : '\x27' ∉ body) :
    EndsInQuotation (front ++ '\x27' :: body)
  | double {front body : List Char} (before : Closed front) (inner : DoubleBody body) :
    EndsInQuotation (front ++ '\x22' :: body)

/-- The last character is a backslash that would take the next one along. -/
inductive EndsInEscape : List Char → Prop
  | outside {front : List Char} (before : Closed front) : EndsInEscape (front ++ ['\x5c'])
  | inDouble {front body : List Char} (before : Closed front) (inner : DoubleBody body) :
    EndsInEscape (front ++ '\x22' :: body ++ ['\x5c'])

def Ends (text : List Char) : Prop := Closed text ∨ EndsInQuotation text ∨ EndsInEscape text

section Grammar

variable {text front body : List Char}

theorem Closed.read (closed : Closed text) (c : Char) : Ends (text ++ [c]) := by
  by_cases single : c = '\x27'
  · subst single
    exact .inr (.inl (.single closed List.not_mem_nil))
  · by_cases double : c = '\x22'
    · subst double
      exact .inr (.inl (.double closed .nil))
    · by_cases backslash : c = '\x5c'
      · subst backslash
        exact .inr (.inr (.outside closed))
      · exact .inl (closed.concat (.plain single double backslash))

theorem EndsInQuotation.read (opened : EndsInQuotation text) (c : Char) : Ends (text ++ [c]) := by
  cases opened with
  | @single front body before unquoted =>
    rw [List.append_assoc, List.cons_append]
    by_cases single : c = '\x27'
    · subst single
      exact .inl (before.concat (.single unquoted))
    · have inside : '\x27' ∉ body ++ [c] := by simp [unquoted, Ne.symm single]
      exact .inr (.inl (.single before inside))
  | @double front body before inner =>
    by_cases backslash : c = '\x5c'
    · subst backslash
      exact .inr (.inr (.inDouble before inner))
    · rw [List.append_assoc, List.cons_append]
      by_cases double : c = '\x22'
      · subst double
        exact .inl (before.concat (.double inner))
      · exact .inr (.inl (.double before (inner.plain double backslash)))

theorem EndsInEscape.read (opened : EndsInEscape text) (c : Char) : Ends (text ++ [c]) := by
  cases opened with
  | outside before =>
    rw [List.append_assoc]
    exact .inl (before.concat (.escaped c))
  | @inDouble front body before inner =>
    have joined : front ++ '\x22' :: body ++ ['\x5c'] ++ [c] =
        front ++ '\x22' :: (body ++ ['\x5c', c]) := by simp
    exact joined ▸ .inr (.inl (.double before (inner.escaped c)))

theorem ends_total (text : List Char) : Ends text := by
  -- Each further character begins, continues or ends the last piece.
  induction text using List.reverseRecOn with
  | nil => exact .inl .nil
  | append_singleton front c ih =>
    rcases ih with closed | quotation | escape
    · exact closed.read c
    · exact quotation.read c
    · exact escape.read c

theorem foldl_single (unquoted : '\x27' ∉ body) : body.foldl Place.next .single = .single := by
  induction body with
  | nil => rfl
  | cons c rest ih =>
    obtain ⟨other, unquoted⟩ := not_or.mp (mt List.mem_cons.mpr unquoted)
    rw [List.foldl_cons, Place.next, if_neg (Ne.symm other), ih unquoted]

theorem DoubleBody.foldl (inner : DoubleBody body) : body.foldl Place.next .double = .double := by
  induction inner with
  | nil => rfl
  | plain inner unquoted bare ih => simp [ih, Place.next, unquoted, bare]
  | escaped inner c ih => simp [ih, Place.next]

theorem Piece.foldl {piece : List Char} (isPiece : Piece piece) :
    piece.foldl Place.next .outside = .outside := by
  cases isPiece with
  | plain noSingle noDouble bare => simp [Place.next, noSingle, noDouble, bare]
  | escaped c => rfl
  | single unquoted => simp [Place.next, foldl_single unquoted]
  | double inner => simp [Place.next, inner.foldl]

theorem Closed.foldl (closed : Closed text) : text.foldl Place.next .outside = .outside := by
  induction closed with
  | nil => rfl
  | concat before last ih => rw [List.foldl_append, ih, last.foldl]

theorem EndsInQuotation.failure? (opened : EndsInQuotation text) :
    (text.foldl Place.next .outside).failure? = some .openQuotation := by
  cases opened with
  | single before unquoted =>
    simp [before.foldl, Place.next, foldl_single unquoted, Place.failure?]
  | double before inner => simp [before.foldl, Place.next, inner.foldl, Place.failure?]

theorem EndsInEscape.failure? (opened : EndsInEscape text) :
    (text.foldl Place.next .outside).failure? = some .openEscape := by
  cases opened with
  | outside before => simp [before.foldl, Place.next, Place.failure?]
  | inDouble before inner => simp [before.foldl, Place.next, inner.foldl, Place.failure?]

end Grammar

theorem split_eq_error_iff {line : String} {failure : Failure} :
    split line = .error failure ↔
      (line.toList.foldl Place.next .outside).failure? = some failure :=
  splitFrom_eq_error_iff

theorem split_eq_openQuotation_iff {line : String} :
    split line = .error .openQuotation ↔ EndsInQuotation line.toList := by
  rw [split_eq_error_iff]
  refine ⟨fun failed => ?_, EndsInQuotation.failure?⟩
  rcases ends_total line.toList with closed | quotation | escape
  · simp [closed.foldl, Place.failure?] at failed
  · exact quotation
  · simp [escape.failure?] at failed

theorem split_eq_openEscape_iff {line : String} :
    split line = .error .openEscape ↔ EndsInEscape line.toList := by
  rw [split_eq_error_iff]
  refine ⟨fun failed => ?_, EndsInEscape.failure?⟩
  rcases ends_total line.toList with closed | quotation | escape
  · simp [closed.foldl, Place.failure?] at failed
  · simp [quotation.failure?] at failed
  · exact escape

theorem failure_of_splitFrom {state : State} {text : List Char} {failure : Failure}
    (torn : splitFrom state text = .error failure) :
    failure = .openQuotation ∨ failure = .openEscape := by
  rw [splitFrom_eq_error_iff] at torn
  cases place : text.foldl Place.next state.place <;> simp_all [Place.failure?]

/-! ## Words -/

theorem enter_ne_between (word : List Char) (c : Char) : enter word c ≠ .between := by
  grind [enter]

theorem splitFrom_ne_nil {state : State} (begun : state ≠ .between) (text : List Char) :
    splitFrom state text ≠ .ok [] := by
  induction text generalizing state with
  | nil => cases state <;> simp_all [splitFrom]
  | cons c rest ih =>
    cases state with
    | between => exact absurd rfl begun
    | plain word =>
      rw [splitFrom]
      split
      · cases splitFrom .between rest <;> simp [Functor.map, Except.map]
      · exact ih (enter_ne_between word c)
    | single word =>
      rw [splitFrom]
      exact ih (by grind)
    | double word =>
      rw [splitFrom]
      exact ih (by grind)
    | escape word => exact ih (by simp)
    | escapeInDouble word => exact ih (by simp)

theorem splitFrom_eq_nil_iff {text : List Char} :
    splitFrom .between text = .ok [] ↔ ∀ c ∈ text, isBlank c = true := by
  induction text with
  | nil => simp [splitFrom]
  | cons c rest ih =>
    rw [splitFrom, List.forall_mem_cons, ← ih]
    by_cases blank : isBlank c = true
    · simp [blank]
    · simp [blank, splitFrom_ne_nil (enter_ne_between [] c)]

def Blank (text : List Char) : Prop := ∀ c ∈ text, c = ' ' ∨ c = '\t' ∨ c = '\r' ∨ c = '\n'

theorem split_eq_nil_iff {line : String} : split line = .ok [] ↔ Blank line.toList := by
  have separates (c : Char) : isBlank c = true ↔ c = ' ' ∨ c = '\t' ∨ c = '\r' ∨ c = '\n' := by
    grind [isBlank]
  rw [split, splitFrom_eq_nil_iff]
  simp only [separates, Blank]

end DreamDoc.ShellWords

namespace DreamDoc.Command

open ShellWords (Blank EndsInQuotation EndsInEscape)

/-- A command line is empty exactly if it is blank, and it cannot be split exactly if its last piece
is open. Every other one has a first word, the program that a run names in what it reports. -/
theorem loader_of_line (text : String) :
    ((line text).loader = .error .emptyCommand ↔ Blank text.toList) ∧
      ((line text).loader = .error .openQuotation ↔ EndsInQuotation text.toList) ∧
      ((line text).loader = .error .openEscape ↔ EndsInEscape text.toList) ∧
      ((∃ program arguments, ShellWords.split text = .ok (program :: arguments) ∧
          (line text).loader = .ok (.command program arguments) ∧
          ∀ start source world, ((Loader.command program arguments).load start source world).2 =
            Loader.ofOutcome program (start (program :: arguments ++ [source.toString]))) ↔
        ¬Blank text.toList ∧ ¬EndsInQuotation text.toList ∧ ¬EndsInEscape text.toList) := by
  rw [← ShellWords.split_eq_nil_iff, ← ShellWords.split_eq_openQuotation_iff,
    ← ShellWords.split_eq_openEscape_iff]
  simp only [loader, words?]
  cases result : ShellWords.split text with
  | error failure =>
    rcases ShellWords.failure_of_splitFrom result with rfl | rfl <;> simp
  | ok words =>
    cases words with
    | nil => simp
    | cons program arguments => simp [Loader.load]

example :
    (line "''").loader = .ok (.command "" []) ∧ (line "\x5c\n").loader = .ok (.command "\n" []) ∧
      (line "a \x22b\x5c\x22").loader = .error .openQuotation ∧
      (line "a \x22b\x5c").loader = .error .openEscape ∧
      (line " \t\r\n").loader = .error .emptyCommand := by
  refine ⟨?_, ?_, ?_, ?_, ?_⟩ <;> rfl

end DreamDoc.Command
