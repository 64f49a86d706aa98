import DreamDoc.Scaffold
import DreamDoc.World

namespace DreamDoc

/-- Definitions by location in ascending order; those of one location keep their order. -/
def indexDefinitions (definitions : List (Location × Definition)) : List Group :=
  (gather definitions).toList

def collate (env : Environment) : Tree Fragment :=
  scaffoldTree (indexDefinitions env.definitions) env.parents

def collationRecord (env : Environment) : Record where
  level := .debug
  message :=
    let definitions := env.definitions.length
    let locations := (indexDefinitions env.definitions).length
    s!"Collected {definitions} definitions at {locations} locations " ++
      s!"({env.parents.size} classes extend a parent)"

end DreamDoc
