import LabIndex.Json.Printer
import LabIndex.Text.Alphabet
import LabIndex.Text.LowerCase
import LabIndex.Text.Utf8

/-!
# Words

What can be searched for in a document: the words of its strings and numbers. A word is a maximal
run of letters and digits, in lower case. A run of forty bytes or more is no word, but it keeps
its place: the words around it are not next to each other.

* `words`: the words of a text with their places;
* `searchText`: the text of a document, one string or number a line.
-/

namespace LabIndex.Search

/-! ## 1. Words of a text -/

/-- A word and its place among the runs of its text. -/
structure Word where
  position : Nat
  text : String
deriving DecidableEq, Repr, Inhabited

/-- The maximal runs of letters and digits, in order. -/
def runs : List Char → List (List Char)
  | [] => []
  | c :: rest =>
    if Text.isWordChar c then
      match rest.head?.map Text.isWordChar, runs rest with
      | some true, run :: more => (c :: run) :: more
      | _, more => [c] :: more
    else runs rest

/-- A run of this many bytes is no word. -/
def longRun : Nat := 40

/-- The word that a run at a place makes, if it is not too long. -/
def wordOfRun (run : List Char) (position : Nat) : Option Word :=
  if Text.byteLength run < longRun then some ⟨position, String.ofList (Text.lower run)⟩ else none

/-- The words of a text, in order. -/
def words (s : String) : List Word :=
  (runs s.toList).zipIdx.filterMap fun (run, position) => wordOfRun run position

/-! ## 2. Text of a document -/

mutual

/-- The texts of the strings, as far as they are not empty, and numbers of a value, in order. -/
def leaves : Json → List String
  | .str s => if s = "" then [] else [s]
  | .num n => [n.text]
  | .arr items => itemLeaves items
  | .obj fields => fieldLeaves fields
  | _ => []

/-- The leaves of elements. -/
def itemLeaves : List Json → List String
  | [] => []
  | v :: rest => leaves v ++ itemLeaves rest

/-- The leaves of fields' values. -/
def fieldLeaves : List (String × Json) → List String
  | [] => []
  | (_, v) :: rest => leaves v ++ fieldLeaves rest

end

/-- The text of a document: its leaves, one a line. -/
def searchText (document : Json) : String := "\n".intercalate (leaves document)

end LabIndex.Search
