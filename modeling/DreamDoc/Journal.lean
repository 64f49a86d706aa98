namespace DreamDoc

inductive Level where
  | debug
  | info
  | warning
deriving DecidableEq

def Level.rank : Level → Nat
  | debug => 0
  | info => 1
  | warning => 2

structure Record where
  level : Level
  message : String
deriving DecidableEq

def shownRecords (threshold : Level) (journal : List Record) : List Record :=
  journal.filter fun record => threshold.rank ≤ record.level.rank

end DreamDoc
