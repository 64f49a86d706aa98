import DreamDoc.Gathering
import DreamDoc.Location

/-!
# Listings

A listing holds the fragments of one file under their lines, and a tree holds a listing for every
file. `Listing.render` writes a listing so that each line stands as near to its own number as the
line breaks inside earlier fragments allow.
-/

namespace DreamDoc

abbrev Listing (α : Type) := Std.ExtTreeMap Int (List α)

abbrev Tree (α : Type) := Std.ExtTreeMap Int (Listing α)

namespace Tree

variable {α β : Type}

def ofStream (stream : List (Location × α)) : Tree α :=
  (gather (stream.map fun (location, fragment) => (location.file, location.line, fragment))).map
    fun _ items => gather items

def mapFragments (f : α → β) (tree : Tree α) : Tree β :=
  tree.map fun _ listing => listing.map fun _ fragments => fragments.map f

end Tree

namespace Listing

def lineBreaks (fragments : List String) : Nat :=
  (fragments.flatMap String.toList).count '\n'

/-- The text of the lines still to come, when the line numbered `current` has been reached. -/
def layout (current : Int) : List (Int × List String) → String
  | [] => "\n"
  | (line, fragments) :: rest =>
    String.ofList (List.replicate (line - current).toNat '\n') ++ String.join fragments ++
      layout (max current line + lineBreaks fragments) rest

def gaps (current : Int) : List (Int × List String) → List Nat
  | [] => []
  | (line, fragments) :: rest =>
    (line - current).toNat :: gaps (max current line + lineBreaks fragments) rest

def longestGap : Nat := 0x7FFFFFFFFFFFFFFF

def isRenderable (listing : Listing String) : Bool :=
  (gaps 1 listing.toList).all (· ≤ longestGap)

def render (listing : Listing String) : String := layout 1 listing.toList

def fragmentCount (listing : Listing String) : Nat :=
  (listing.toList.flatMap Prod.snd).length

end Listing

end DreamDoc
