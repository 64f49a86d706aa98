import Std.Data.ExtTreeMap

namespace DreamDoc

structure Location where
  file : Int
  line : Int
deriving DecidableEq

namespace Location

instance : Ord Location where
  compare := compareLex (compareOn file) (compareOn line)

theorem compare_def (a b : Location) :
    compare a b = (compare a.file b.file).then (compare a.line b.line) := rfl

instance : Std.TransOrd Location :=
  inferInstanceAs (Std.TransCmp (compareLex (compareOn file) (compareOn line)))

instance : Std.LawfulEqOrd Location where
  eq_of_compare {a b} same := by
    rw [compare_def, Ordering.then_eq_eq] at same
    cases a; cases b
    simpa using same

end Location

end DreamDoc
