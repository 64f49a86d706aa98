import DreamDoc.Json.Flaw

namespace DreamDoc

inductive Step where
  | member (name : String)
  | item (index : Nat)
  | key
deriving DecidableEq

inductive Cause where
  | malformed (flaw : Json.Flaw)
  | missing
  | notRecord
  | notLocation
  | notMap
  | notList
  | notText
  | notKind
  | notInteger
  | notIntegerText
  | fractional
  | tooLarge
  | notFinite
deriving DecidableEq

structure Fault where
  place : List Step
  cause : Cause
deriving DecidableEq

def Step.text : Step → String
  | member name => name
  | item index => toString index
  | key => "[key]"

def Cause.text : Cause → String
  | malformed flaw => flaw.text
  | missing => "the member is missing"
  | notRecord => "an object is expected"
  | notLocation => "a location is expected"
  | notMap => "an object with free keys is expected"
  | notList => "an array is expected"
  | notText => "a string is expected"
  | notKind => "proc, verb or null is expected"
  | notInteger => "an integer is expected"
  | notIntegerText => "the string denotes no integer"
  | fractional => "the number has a fraction"
  | tooLarge => "the number is too large"
  | notFinite => "the number is not finite"

def Cause.label : Cause → String
  | malformed _ => "json_invalid"
  | missing => "missing"
  | notRecord => "model_type"
  | notLocation => "dataclass_type"
  | notMap => "dict_type"
  | notList => "list_type"
  | notText => "string_type"
  | notKind => "literal_error"
  | notInteger => "int_type"
  | notIntegerText => "int_parsing"
  | fractional => "int_from_float"
  | tooLarge => "int_parsing_size"
  | notFinite => "finite_number"

def Fault.text (fault : Fault) : String :=
  ".".intercalate (fault.place.map Step.text) ++ ": " ++ fault.cause.text ++
    " [" ++ fault.cause.label ++ "]"

def Fault.report (faults : List Fault) : String := "\n".intercalate (faults.map Fault.text)

inductive Verdict (α : Type) where
  | accepted (value : α)
  | rejected (first : Fault) (others : List Fault)

namespace Verdict

variable {α β : Type}

def fail (cause : Cause) : Verdict α := .rejected ⟨[], cause⟩ []

def ofExcept : Except Cause α → Verdict α
  | .ok value => .accepted value
  | .error cause => fail cause

def faults : Verdict α → List Fault
  | .accepted _ => []
  | .rejected first others => first :: others

def value? : Verdict α → Option α
  | .accepted value => some value
  | .rejected _ _ => none

def map (f : α → β) : Verdict α → Verdict β
  | .accepted value => .accepted (f value)
  | .rejected first others => .rejected first others

def ap (f : Verdict (α → β)) (x : Verdict α) : Verdict β :=
  match f, x with
  | .accepted f, .accepted a => .accepted (f a)
  | .accepted _, .rejected first others => .rejected first others
  | .rejected first others, x => .rejected first (others ++ x.faults)

instance : Applicative Verdict where
  pure := .accepted
  map := map
  seq f x := ap f (x ())

theorem map_eq (f : α → β) (x : Verdict α) : f <$> x = x.map f := rfl

theorem seq_eq (f : Verdict (α → β)) (x : Verdict α) : f <*> x = ap f x := rfl

@[simp]
theorem faults_map (f : α → β) (x : Verdict α) : (x.map f).faults = x.faults := by
  cases x <;> rfl

@[simp]
theorem faults_ap (f : Verdict (α → β)) (x : Verdict α) :
    (ap f x).faults = f.faults ++ x.faults := by
  cases f <;> cases x <;> simp [ap, faults]

theorem faults_eq_nil_iff (x : Verdict α) : x.faults = [] ↔ ∃ value, x = .accepted value := by
  cases x <;> simp [faults]

def under (step : Step) : Verdict α → Verdict α
  | .accepted value => .accepted value
  | .rejected first others =>
    let outer (fault : Fault) : Fault := ⟨step :: fault.place, fault.cause⟩
    .rejected (outer first) (others.map outer)

@[simp]
theorem faults_under (step : Step) (x : Verdict α) :
    (x.under step).faults = x.faults.map fun fault => ⟨step :: fault.place, fault.cause⟩ := by
  cases x <;> rfl

def all : List (Verdict α) → Verdict (List α)
  | [] => .accepted []
  | first :: rest => ap (first.map List.cons) (all rest)

@[simp]
theorem faults_all (checks : List (Verdict α)) : (all checks).faults = checks.flatMap faults := by
  induction checks with
  | nil => rfl
  | cons first rest ih => simp [all, ih]

end Verdict

end DreamDoc
