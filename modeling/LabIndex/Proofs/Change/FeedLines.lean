import LabIndex.Command.Run
import Mathlib.Data.List.Basic

/-!
# The lines of a feed

A feed is read line by line, and is followed as a whole or not at all. A line is blank, spells an
entry, or spoils the feed; the first line that spoils it decides the fault, and lines before that
one only move its number.

* `Feed.lines_append_newline`: lines after a newline are read as if nothing stood before them;
* `Feed.eventsFrom_append`: lines of which none spoils the feed hand their events on;
* `Feed.follows_all_or_nothing`: a feed with a line that spoils it changes nothing and its fault
  names the first such line; any other feed gives the events of its entries, in order.
-/

namespace LabIndex

open Text (Bytes)

/-- The same fault after some more lines. -/
def FeedFault.later (k : Nat) : FeedFault → FeedFault
  | badEntry number text => .badEntry (number + k) text
  | notText => .notText

namespace Feed

/-! ## 1. Lines -/

theorem lines_ne_nil {b : UInt8} (hb : b ≠ 13) (bytes : Bytes) : lines (b :: bytes) ≠ [] := by
  rw [lines]
  split
  · simp
  · rw [if_neg fun h => hb h.1]
    split <;> simp

/-- A newline ends a line, whatever stands before it. -/
theorem lines_newline_ne_nil (a : Bytes) : lines (a ++ [10]) ≠ [] := by
  induction a with
  | nil => exact lines_ne_nil (by decide) []
  | cons b rest ih =>
      rw [List.cons_append, lines]
      split
      · simp
      · split
        · exact ih
        · split <;> simp

/-- **What comes after a newline is split on its own.** -/
theorem lines_append_newline (a b : Bytes) :
    lines (a ++ 10 :: b) = lines (a ++ [10]) ++ lines b := by
  induction a with
  | nil => simp [lines]
  | cons c rest ih =>
      have hhead : (rest ++ 10 :: b).head? = (rest ++ [10]).head? := by cases rest <;> rfl
      rw [List.cons_append, List.cons_append, lines, lines, hhead, ih]
      split
      · rfl
      · split
        · rfl
        · obtain ⟨line, more, h⟩ := List.exists_cons_of_ne_nil (lines_newline_ne_nil rest)
          rw [h]
          rfl

/-- Each newline ends one line. -/
theorem length_lines_newline (a : Bytes) :
    (lines (a ++ [10])).length = (a ++ [10]).count 10 := by
  induction a with
  | nil => rfl
  | cons c rest ih =>
      rw [List.cons_append, lines, List.count_cons]
      split
      · rename_i hc
        rw [List.length_cons, ih, if_pos (beq_iff_eq.mpr hc)]
      · rename_i hc
        rw [if_neg (fun h => hc (beq_iff_eq.mp h)), Nat.add_zero, ← ih]
        split
        · rfl
        · obtain ⟨line, more, h⟩ := List.exists_cons_of_ne_nil (lines_newline_ne_nil rest)
          rw [h]
          rfl

/-! ## 2. What a line is -/

/-- A line of blanks. -/
def isBlank (line : Bytes) : Bool :=
  (Text.decode? line).any fun text => Text.isAllBlank text.toList

/-- The entry that a line spells. -/
def entryOf? (line : Bytes) : Option FeedEntry := (Text.decode? line).bind FeedEntry.parse?

/-- A line that is not blank and spells no entry. -/
def Spoils (line : Bytes) : Prop := isBlank line = false ∧ entryOf? line = none

instance : DecidablePred Spoils := fun line =>
  inferInstanceAs (Decidable (isBlank line = false ∧ entryOf? line = none))

/-- The fault of a line that spoils a feed, by the line's number if it is a text. -/
def faultAt (number : Nat) (line : Bytes) : FeedFault :=
  match Text.decode? line with
  | some text => .badEntry number text
  | none => .notText

/-- The events of the entries that lines spell, in order. -/
def eventsOf (lines : List Bytes) : List ChangeEvent :=
  (lines.filter fun line => !isBlank line).filterMap fun line =>
    (entryOf? line).bind FeedEntry.event?

/-! ## 3. Reading line by line -/

variable {line : Bytes} {number : Nat} {before rest : List Bytes}

theorem eventsFrom_of_blank (h : isBlank line = true) :
    eventsFrom number (line :: rest) = eventsFrom (number + 1) rest := by
  obtain ⟨text, hdecode, hblank⟩ := (Option.any_eq_true _ _).mp h
  rw [eventsFrom, hdecode]
  exact if_pos hblank

theorem eventsFrom_of_entry {entry : FeedEntry} (hb : isBlank line = false)
    (h : entryOf? line = some entry) :
    eventsFrom number (line :: rest) =
      (eventsFrom (number + 1) rest).map (entry.event?.toList ++ ·) := by
  obtain ⟨text, hdecode, hparse⟩ := Option.bind_eq_some_iff.mp h
  rw [isBlank, hdecode, Option.any_some] at hb
  rw [eventsFrom, hdecode]
  simp only [hb, hparse, Bool.false_eq_true, if_false]
  cases eventsFrom (number + 1) rest <;> rfl

theorem eventsFrom_of_spoils (h : Spoils line) :
    eventsFrom number (line :: rest) = .error (faultAt number line) := by
  obtain ⟨hb, hentry⟩ := h
  rw [eventsFrom, faultAt]
  cases hdecode : Text.decode? line with
  | none => rfl
  | some text =>
      rw [isBlank, hdecode, Option.any_some] at hb
      rw [entryOf?, hdecode, Option.bind_some] at hentry
      simp only [hb, hentry, Bool.false_eq_true, if_false]

theorem eventsOf_cons_of_blank (h : isBlank line = true) :
    eventsOf (line :: rest) = eventsOf rest := by
  rw [eventsOf, List.filter_cons_of_neg (by simp [h]), eventsOf]

theorem eventsOf_cons_of_entry {entry : FeedEntry} (hb : isBlank line = false)
    (h : entryOf? line = some entry) :
    eventsOf (line :: rest) = entry.event?.toList ++ eventsOf rest := by
  rw [eventsOf, List.filter_cons_of_pos (by simp [hb]), List.filterMap_cons, h, Option.bind_some,
    eventsOf]
  cases entry.event? <;> rfl

/-- **Lines of which none spoils a feed hand their events on**, and are counted. -/
theorem eventsFrom_append (h : ∀ line ∈ before, ¬ Spoils line) (number : Nat)
    (rest : List Bytes) :
    eventsFrom number (before ++ rest) =
      (eventsFrom (number + before.length) rest).map (eventsOf before ++ ·) := by
  induction before generalizing number with
  | nil =>
      rw [List.nil_append, List.length_nil, Nat.add_zero]
      cases eventsFrom number rest <;> rfl
  | cons line before ih =>
      obtain ⟨hline, hbefore⟩ := List.forall_mem_cons.mp h
      have hnumber : number + (line :: before).length = number + 1 + before.length := by
        rw [List.length_cons]
        omega
      rw [List.cons_append, hnumber]
      cases hb : isBlank line with
      | true => rw [eventsFrom_of_blank hb, ih hbefore, eventsOf_cons_of_blank hb]
      | false =>
          obtain ⟨entry, hentry⟩ := Option.ne_none_iff_exists'.mp fun hn => hline ⟨hb, hn⟩
          rw [eventsFrom_of_entry hb hentry, ih hbefore, eventsOf_cons_of_entry hb hentry]
          cases eventsFrom (number + 1 + before.length) rest with
          | error f => rfl
          | ok events => exact congrArg Except.ok (List.append_assoc ..).symm

/-- The lines that count are those from the first on. -/
theorem eventsFrom_add (number k : Nat) (ls : List Bytes) :
    eventsFrom (number + k) ls = (eventsFrom number ls).mapError (.later k) := by
  induction ls generalizing number with
  | nil => rfl
  | cons line rest ih =>
      have hnext : eventsFrom (number + k + 1) rest =
          (eventsFrom (number + 1) rest).mapError (.later k) := by
        rw [← ih, Nat.add_right_comm]
      cases hb : isBlank line with
      | true => rw [eventsFrom_of_blank hb, eventsFrom_of_blank hb, hnext]
      | false =>
          cases hentry : entryOf? line with
          | none =>
              rw [eventsFrom_of_spoils ⟨hb, hentry⟩, eventsFrom_of_spoils ⟨hb, hentry⟩, faultAt,
                faultAt]
              split <;> rfl
          | some entry =>
              rw [eventsFrom_of_entry hb hentry, eventsFrom_of_entry hb hentry, hnext]
              cases eventsFrom (number + 1) rest <;> rfl

/-! ## 4. Whole feeds -/

variable {bytes : Bytes}

theorem parse_of_none_spoils (h : ∀ line ∈ lines bytes, ¬ Spoils line) :
    parse bytes = .ok (eventsOf (lines bytes)) := by
  have := eventsFrom_append h 1 []
  rwa [List.append_nil, eventsFrom, Except.map, List.append_nil] at this

/-- The first line that spoils a feed decides the fault. -/
theorem parse_of_first_spoils {after : List Bytes} (hlines : lines bytes = before ++ line :: after)
    (hbefore : ∀ line ∈ before, ¬ Spoils line) (hline : Spoils line) :
    parse bytes = .error (faultAt (before.length + 1) line) := by
  rw [parse, hlines, eventsFrom_append hbefore, eventsFrom_of_spoils hline, Nat.add_comm]
  rfl

/-- A feed fails exactly if a line spoils it. -/
theorem exists_parse_eq_error_iff :
    (∃ f, parse bytes = .error f) ↔ ∃ line ∈ lines bytes, Spoils line := by
  constructor
  · rintro ⟨f, hf⟩
    by_contra hnone
    rw [parse_of_none_spoils fun line hmem hspoils => hnone ⟨line, hmem, hspoils⟩] at hf
    cases hf
  · rintro ⟨line, hmem, hspoils⟩
    have hsome : ((lines bytes).find? fun line => decide (Spoils line)).isSome := by
      rw [List.find?_isSome]
      exact ⟨line, hmem, decide_eq_true hspoils⟩
    obtain ⟨first, hfirst⟩ := Option.isSome_iff_exists.mp hsome
    obtain ⟨hspoils, before, after, hlines, hbefore⟩ := List.find?_eq_some_iff_append.mp hfirst
    refine ⟨_, parse_of_first_spoils hlines (fun l hl => ?_) (of_decide_eq_true hspoils)⟩
    exact fun h => by simpa [h] using hbefore l hl

/-- A feed after another that ends with a newline and is read. -/
theorem parse_append {events : List ChangeEvent} (h : parse (bytes ++ [10]) = .ok events)
    (more : Bytes) :
    parse (bytes ++ 10 :: more) =
      ((parse more).mapError (.later (lines (bytes ++ [10])).length)).map (events ++ ·) := by
  have hnone : ∀ line ∈ lines (bytes ++ [10]), ¬ Spoils line := fun line hmem hspoils => by
    obtain ⟨f, hf⟩ := exists_parse_eq_error_iff.mpr ⟨line, hmem, hspoils⟩
    rw [hf] at h
    cases h
  rw [parse_of_none_spoils hnone] at h
  cases h
  rw [parse, lines_append_newline, eventsFrom_append hnone, eventsFrom_add, parse]

end Feed

/-! ## 5. Following a feed -/

namespace Command

variable {x : Opened} {format : Format} {bytes input : Bytes} {feed : Path}
  {remark : String → String}

/-- A feed that cannot be read changes nothing. -/
theorem sync_of_parse_eq_error {f : FeedFault} (hread : feedBytes x.disk.files input feed = .ok bytes)
    (h : Feed.parse bytes = .error f) :
    sync format x input feed remark = (.refused (f.message remark), x.disk) := by
  rw [sync, hread]
  simp only [h]

/-- A feed that can be read is followed event after event. -/
theorem sync_of_parse_eq_ok {events : List ChangeEvent}
    (hread : feedBytes x.disk.files input feed = .ok bytes) (h : Feed.parse bytes = .ok events) :
    (sync format x input feed remark).2 =
      x.saved (follow x.installation.indexers x.engine events x.directory).2.2 := by
  rw [sync, hread]
  simp only [h]

/-- **A feed is followed as a whole or not at all.** A line that is neither blank nor an entry
makes reading fail, and then nothing is followed and nothing on the disk changes; if the first such
line is a text, its number is named, and after it stands the remark on that text. A feed without such a line gives the events of its entries in
order. A feed that ends with a newline can be put before another one: the events are put together,
and a fault of the second moves on by the first one's lines, which are as many as its newlines. -/
theorem sync_follows_all_or_nothing (bytes : Bytes) :
    ((∃ line ∈ Feed.lines bytes, Feed.Spoils line) →
      ∃ f, Feed.parse bytes = .error f ∧
        ∀ (x : Opened) format input feed remark, feedBytes x.disk.files input feed = .ok bytes →
          sync format x input feed remark = (.refused (f.message remark), x.disk)) ∧
    (∀ before line after text, Feed.lines bytes = before ++ line :: after →
      (∀ earlier ∈ before, ¬ Feed.Spoils earlier) → Feed.Spoils line →
      Text.decode? line = some text →
      Feed.parse bytes = .error (.badEntry (before.length + 1) text) ∧
        ∀ (x : Opened) format input feed remark, feedBytes x.disk.files input feed = .ok bytes →
          sync format x input feed remark =
            (.refused ("Invalid change feed entry on line " ++ toString (before.length + 1) ++
              remark text), x.disk)) ∧
    ((∀ line ∈ Feed.lines bytes, ¬ Feed.Spoils line) →
      Feed.parse bytes = .ok (Feed.eventsOf (Feed.lines bytes)) ∧
        ∀ (x : Opened) format input feed remark, feedBytes x.disk.files input feed = .ok bytes →
          (sync format x input feed remark).2 =
            x.saved (follow x.installation.indexers x.engine
              (Feed.eventsOf (Feed.lines bytes)) x.directory).2.2) ∧
    (Feed.lines (bytes ++ [10])).length = (bytes ++ [10]).count 10 ∧
    ∀ events more, Feed.parse (bytes ++ [10]) = .ok events →
      (∀ others, Feed.parse more = .ok others →
        Feed.parse (bytes ++ 10 :: more) = .ok (events ++ others)) ∧
      ∀ f, Feed.parse more = .error f →
        Feed.parse (bytes ++ 10 :: more) =
          .error (f.later (Feed.lines (bytes ++ [10])).length) := by
  refine ⟨fun hspoils => ?_, fun before line after text hlines hbefore hline htext => ?_,
    fun hnone => ?_, Feed.length_lines_newline bytes, fun events more hevents => ⟨?_, ?_⟩⟩
  · obtain ⟨f, hf⟩ := Feed.exists_parse_eq_error_iff.mpr hspoils
    exact ⟨f, hf, fun x format input feed remark hread => sync_of_parse_eq_error hread hf⟩
  · have hf := Feed.parse_of_first_spoils hlines hbefore hline
    rw [Feed.faultAt, htext] at hf
    exact ⟨hf, fun x format input feed remark hread => sync_of_parse_eq_error hread hf⟩
  · have hparse := Feed.parse_of_none_spoils hnone
    exact ⟨hparse, fun x format input feed remark hread => sync_of_parse_eq_ok hread hparse⟩
  · intro others hothers
    rw [Feed.parse_append hevents, hothers]
    rfl
  · intro f hf
    rw [Feed.parse_append hevents, hf]
    rfl

/-- One change and a line of blanks, without the newline after it. -/
def oneChange : Bytes := Text.encode "[\"projects\",null,\x7b\"id\":\"p-1\"\x7d]\r\n  "

/-- An entry of a table that is not indexed, a number for a table's name, and a byte that is no
    text. -/
def spoilt : Bytes := Text.encode "[\"access\"]\n\x7b\"table\":7\x7d\n" ++ [0xFF]

/-- An open index with nothing in it. -/
def emptyOpened : Opened where
  installation := ⟨{}, ⟨"", [], []⟩, .ofStore .empty, ⟨[], [], []⟩, fun _ => .ok ""⟩
  disk := .ofFiles ⟨[], [], []⟩
  place := []
  directory := .ofIndex []
  engine := 0

theorem sync_follows_oneChange_spoilt :
    Feed.parse (oneChange ++ [10]) = .ok [.project "p-1"] ∧
      Feed.parse spoilt = .error (.badEntry 2 "\x7b\"table\":7\x7d") ∧
      Feed.parse (oneChange ++ 10 :: spoilt) = .error (.badEntry 4 "\x7b\"table\":7\x7d") ∧
      ∀ remark, sync .json emptyOpened (oneChange ++ 10 :: spoilt) "-" remark =
        (.refused ("Invalid change feed entry on line 4" ++ remark "\x7b\"table\":7\x7d"),
          emptyOpened.disk) := by
  have hlines : Feed.lines (oneChange ++ 10 :: spoilt) =
      [oneChange.dropLast.dropLast.dropLast.dropLast, [32, 32], Text.encode "[\"access\"]"] ++
        Text.encode "\x7b\"table\":7\x7d" :: [[0xFF]] := by decide +kernel
  have hone : ∀ line ∈ Feed.lines (oneChange ++ [10]), ¬ Feed.Spoils line := by decide +kernel
  have hspoilt : Feed.parse spoilt = .error (.badEntry 2 "\x7b\"table\":7\x7d") :=
    ((sync_follows_all_or_nothing spoilt).2.1 [Text.encode "[\"access\"]"]
      (Text.encode "\x7b\"table\":7\x7d") [[0xFF]] _ (by decide +kernel) (by decide +kernel)
      (by decide +kernel) (by decide +kernel)).1
  have hread : Feed.parse (oneChange ++ [10]) = .ok [.project "p-1"] := by
    rw [((sync_follows_all_or_nothing (oneChange ++ [10])).2.2.1 hone).1]
    have : Feed.eventsOf (Feed.lines (oneChange ++ [10])) = [.project "p-1"] := by decide +kernel
    rw [this]
  refine ⟨hread, hspoilt, ?_, fun remark => ?_⟩
  · exact ((sync_follows_all_or_nothing oneChange).2.2.2.2 _ spoilt hread).2 _ hspoilt
  · exact ((sync_follows_all_or_nothing _).2.1 _ _ _ _ hlines (by decide +kernel)
      (by decide +kernel) (by decide +kernel)).2 emptyOpened .json _ "-" remark rfl

end Command

end LabIndex
