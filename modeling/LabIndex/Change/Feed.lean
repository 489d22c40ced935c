import LabIndex.Change.Event
import LabIndex.Json.Skim
import LabIndex.Text.Utf8
import LabIndex.Text.Alphabet

/-!
# Change feeds

A feed entry holds a table's name and a row before and after a change; an insert has no row
before it, a delete none after. The event of an entry names the row by its key, taken from the
row before if that has one and otherwise from the row after; entries of tables that no document
is made from have none.

A feed is a text with one entry a line. Blank lines are passed over; a bad line spoils the feed,
and the failure names it by its number, blank lines counted, and may add a remark on its text.
-/

namespace LabIndex

open Text (Bytes)

/-! ## 1. Entries -/

namespace ChangeEvent

/-- The text in a column of a row. -/
def column? (row : Json) (key : String) : Option String := (row.get? key).bind Json.text?

/-- A row with a non-empty text in a column. -/
def hasKey (key : String) (row : Json) : Bool :=
  match column? row key with
  | some s => s != ""
  | none => false

/-- The row before or after that has a key, the one before first. -/
def pick (key : String) (old new : Json) : Option Json :=
  if hasKey key old then some old else if hasKey key new then some new else none

/-- The key of the row that has one. -/
def pickKey (key : String) (old new : Json) : Option String :=
  (pick key old new).bind (column? · key)

/-- The event of a change to a row of a table. -/
def ofFeed? (table : String) (old new : Json) : Option ChangeEvent :=
  match table with
  | "datafiles" => (pickKey "id" old new).map .file
  | "project2datafile" =>
    (pick "id" old new).bind fun row => (column? row "datafile_id").map .projectFile
  | "samples" => (pickKey "id" old new).map .sample
  | "sample2datafile" => (pickKey "sample_id" old new).map .sampleFile
  | "propertyset2property" =>
    (pick "id" old new).bind fun row => (column? row "property_set_id").map .propertySet
  | "processes" => (pickKey "id" old new).map .process
  | "projects" => (pickKey "id" old new).map .project
  | "users" => (pickKey "id" old new).map .user
  | "notes" => (pickKey "id" old new).map .note
  | "note2item" => (pick "item_id" old new).bind fun row =>
    (column? row "item_id").map (.noteItem ((column? row "item_type").getD ""))
  | "tag2item" => (pick "item_id" old new).bind fun row =>
    (column? row "item_id").map (.tag ((column? row "item_type").getD ""))
  | _ => none

end ChangeEvent

/-- An entry of a change feed. -/
structure FeedEntry where
  table : String
  old : Json
  new : Json
deriving Repr

namespace FeedEntry

/-- The event of an entry. -/
def event? (e : FeedEntry) : Option ChangeEvent := ChangeEvent.ofFeed? e.table e.old e.new

/-- The fields of an entry. -/
def fieldNames : List String := ["table", "old_val", "new_val"]

/-- The entry that a text spells: an object, in which no field of an entry occurs twice and other
    fields are passed over, or a list of up to three values. -/
def parse? (line : String) : Option FeedEntry :=
  match Json.parseRecord? fieldNames line with
  | some fields =>
    match Fields.get? "table" fields with
    | some (.str table) =>
      some ⟨table, (Fields.get? "old_val" fields).getD .null,
        (Fields.get? "new_val" fields).getD .null⟩
    | _ => none
  | none =>
    match Json.parse? line with
    | some (.arr [.str table]) => some ⟨table, .null, .null⟩
    | some (.arr [.str table, old]) => some ⟨table, old, .null⟩
    | some (.arr [.str table, old, new]) => some ⟨table, old, new⟩
    | _ => none

end FeedEntry

/-! ## 2. Feeds -/

/-- Why a feed cannot be read. -/
inductive FeedFault where
  /-- A line with this text is no entry. -/
  | badEntry (line : Nat) (text : String)
  /-- A line is no text. -/
  | notText
deriving DecidableEq, Repr

/-- The words for a fault. What is wrong with a text that is no entry is said in a remark on it. -/
def FeedFault.message (f : FeedFault) (remark : String → String := fun _ => "") : String :=
  match f with
  | badEntry line text => "Invalid change feed entry on line " ++ toString line ++ remark text
  | notText => "stream did not contain valid UTF-8"

namespace Feed

/-- The lines of a byte sequence. A newline ends a line, and takes a carriage return before it
    along; bytes after the last newline are a line too. -/
def lines : Bytes → List Bytes
  | [] => []
  | b :: rest =>
    if b = 10 then [] :: lines rest
    else if b = 13 ∧ rest.head? = some 10 then lines rest
    else
      match lines rest with
      | [] => [[b]]
      | line :: more => (b :: line) :: more

/-- The events of lines, of which the first has a number. -/
def eventsFrom (number : Nat) : List Bytes → Except FeedFault (List ChangeEvent)
  | [] => .ok []
  | line :: rest =>
    match Text.decode? line with
    | none => .error .notText
    | some text =>
      if Text.isAllBlank text.toList then eventsFrom (number + 1) rest
      else
        match FeedEntry.parse? text with
        | none => .error (.badEntry number text)
        | some entry =>
          match eventsFrom (number + 1) rest with
          | .error f => .error f
          | .ok events => .ok (entry.event?.toList ++ events)

/-- The events of a feed, in order. -/
def parse (bytes : Bytes) : Except FeedFault (List ChangeEvent) := eventsFrom 1 (lines bytes)

end Feed

end LabIndex
