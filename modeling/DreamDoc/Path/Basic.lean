import DreamDoc.Text.Split

namespace DreamDoc

inductive Root where
  | relative
  | slash
  | doubleSlash
deriving DecidableEq

def Root.text : Root → String
  | relative => ""
  | slash => "/"
  | doubleSlash => "//"

def IsName (name : String) : Prop := name ≠ "" ∧ name ≠ "." ∧ '/' ∉ name.toList

instance (name : String) : Decidable (IsName name) :=
  inferInstanceAs (Decidable (name ≠ "" ∧ name ≠ "." ∧ '/' ∉ name.toList))

structure Path where
  root : Root
  names : List String
  proper : ∀ name ∈ names, IsName name

namespace Path

@[ext]
theorem ext {p q : Path} (root : p.root = q.root) (names : p.names = q.names) : p = q := by
  cases p; cases q; simp_all

instance : DecidableEq Path := fun p q =>
  decidable_of_iff (p.root = q.root ∧ p.names = q.names)
    ⟨fun same => Path.ext same.1 same.2, by rintro rfl; exact ⟨rfl, rfl⟩⟩

def here : Path := ⟨.relative, [], by simp⟩

def rootOf (text : List Char) : Root :=
  match (text.takeWhile (· = '/')).length with
  | 0 => .relative
  | 2 => .doubleSlash
  | _ => .slash

def ofString (text : String) : Path where
  root := rootOf text.toList
  names := ((Text.splitAt '/' text.toList).map String.ofList).filter fun name =>
    name ≠ "" ∧ name ≠ "."
  proper := by
    intro name member
    simp only [ne_eq, List.mem_filter, List.mem_map, decide_eq_true_eq] at member
    obtain ⟨⟨piece, split, rfl⟩, nonempty, noDot⟩ := member
    exact ⟨nonempty, noDot, by simpa using Text.not_mem_of_mem_splitAt split⟩

def toString (path : Path) : String :=
  if path.root = .relative ∧ path.names = [] then "."
  else path.root.text ++ "/".intercalate path.names

instance : ToString Path := ⟨toString⟩

def isAbsolute (path : Path) : Bool := path.root ≠ .relative

def join (base path : Path) : Path :=
  if path.isAbsolute then path
  else
    { root := base.root
      names := base.names ++ path.names
      proper := by
        intro name member
        exact (List.mem_append.1 member).elim (base.proper name) (path.proper name) }

instance : HDiv Path Path Path := ⟨join⟩

def parent (path : Path) : Path where
  root := path.root
  names := path.names.dropLast
  proper := fun name member => path.proper name ((List.dropLast_sublist path.names).subset member)

/-- The last name, from its last dot. A dot that is the first or the last character counts for
nothing. -/
def suffix (path : Path) : String :=
  match path.names.getLast? with
  | none => ""
  | some name =>
    let extension := name.toList.reverse.takeWhile (· ≠ '.')
    let stem := name.toList.length - extension.length - 1
    if extension = [] ∨ stem = 0 then "" else String.ofList ('.' :: extension.reverse)

def relativeTo? (path base : Path) : Option Path :=
  if path.root = base.root ∧ base.names.isPrefixOf path.names then
    some
      { root := .relative
        names := path.names.drop base.names.length
        proper := fun name member => path.proper name (List.mem_of_mem_drop member) }
  else none

end Path

end DreamDoc
