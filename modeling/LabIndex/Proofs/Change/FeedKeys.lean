import LabIndex.Proofs.Change.Links

/-!
# The keys of feed entries

An entry of a followed table should make an event exactly if one of its two rows has a key, and the
event should carry that of the row before if this has one and otherwise that of the row after. Where
the row is chosen by the column of the key, that is so for all rows. In two tables of links the row
is chosen by the link's own id instead: a row with an id but without a key then hides the other
row's key, and a row with the empty key makes an event that names nothing.

* `ChangeEvent.Carries`: a row with a key in a column;
* `ChangeEvent.map_key_ofFeed?`: the row that is chosen, and the column that the key is taken from;
* `ChangeEvent.KeepsKey`: what an entry should come to;
* `ChangeEvent.keepsKey_iff`: the tables of which every entry comes to that, and the entries of the
  others that do;
* `ChangeEvent.linkedLater_lost`: an entry that does not.
-/

namespace LabIndex

namespace ChangeEvent

/-! ## 1. Keys -/

/-- The key of an event: the id that it names. -/
def key : ChangeEvent → String
  | file id | projectFile id | sample id | sampleFile id | propertySet id | process id | project id
  | user id | note id => id
  | noteItem _ id | tag _ id => id

/-- The column of a followed table that keys are taken from. -/
def keyColumn : String → String
  | "project2datafile" => "datafile_id"
  | "sample2datafile" => "sample_id"
  | "propertyset2property" => "property_set_id"
  | "note2item" | "tag2item" => "item_id"
  | _ => "id"

/-- The tables in which the row of an entry is chosen by its own id, whatever its key. -/
def chosenById : List String := ["project2datafile", "propertyset2property"]

/-- The column that the row of an entry is chosen by. -/
def choiceColumn (table : String) : String := if table ∈ chosenById then "id" else keyColumn table

/-- A row has a key in a column: a text that is not empty. -/
def Carries (column : String) (row : Json) (key : String) : Prop :=
  row.get? column = some (.str key) ∧ key ≠ ""

variable {table column key : String} {row old new : Json}

theorem column?_eq_some_iff :
    column? row column = some key ↔ row.get? column = some (.str key) := by
  refine ⟨fun h => ?_, column?_of_get?⟩
  obtain ⟨v, hv, hkey⟩ := Option.bind_eq_some_iff.mp h
  cases v <;> cases hkey
  exact hv

theorem hasKey_iff : hasKey column row = true ↔ ∃ key, Carries column row key := by
  rw [hasKey]
  cases h : column? row column with
  | none =>
      simp only [Bool.false_eq_true, false_iff, not_exists]
      intro key hkey
      rw [column?_of_get? hkey.1] at h
      cases h
  | some s =>
      rw [column?_eq_some_iff] at h
      simp only [Carries, h, Option.some.injEq, Json.str.injEq, exists_eq_left', bne_iff_ne]

/-! ## 2. The row that is chosen -/

/-- **The key of an event is what the chosen row has in the key column**, and the event is one of
    the table. -/
theorem map_key_ofFeed? (h : table ∈ followed) (old new : Json) :
    (ofFeed? table old new).map (fun e => (e.table, e.key)) =
      ((pick (choiceColumn table) old new).bind (column? · (keyColumn table))).map (table, ·) := by
  simp only [followed, forms, List.map_cons, List.map_nil, List.mem_cons, List.not_mem_nil,
    or_false] at h
  -- every table has its own way to an event, but all of them choose a row and read a column of it
  rcases h with rfl | rfl | rfl | rfl | rfl | rfl | rfl | rfl | rfl | rfl | rfl <;>
    simp [ofFeed?, pickKey, choiceColumn, chosenById, keyColumn, Option.map_bind, Function.comp_def,
      ChangeEvent.table, ChangeEvent.key]

/-- The row before is chosen if it has a text to be chosen by, otherwise the row after if that
    has. -/
theorem pick_eq_some_iff : pick column old new = some row ↔
    (row = old ∧ hasKey column old = true) ∨
      (row = new ∧ hasKey column old = false ∧ hasKey column new = true) := by
  rw [pick]
  cases hasKey column old <;> cases hasKey column new <;> simp [eq_comm]

/-! ## 3. What an entry comes to -/

/-- **No key of an entry is lost.** There is an event exactly if one of the rows has a key; it is
    one of the table and carries the key of the row before, or that of the row after if the row
    before has none. -/
structure KeepsKey (table : String) (old new : Json) : Prop where
  isSome_iff : (ofFeed? table old new).isSome ↔
    ∃ row ∈ [old, new], ∃ key, Carries (keyColumn table) row key
  key_of : ∀ e, ofFeed? table old new = some e → e.table = table ∧ e.key ≠ "" ∧
    (Carries (keyColumn table) old e.key ∨
      (∀ key, ¬ Carries (keyColumn table) old key) ∧ Carries (keyColumn table) new e.key)

/-- Whether an entry has an event, by the row that is chosen. -/
theorem isSome_ofFeed?_iff (h : table ∈ followed) : (ofFeed? table old new).isSome ↔
    ∃ row key, pick (choiceColumn table) old new = some row ∧
      row.get? (keyColumn table) = some (.str key) := by
  have hmap := congrArg Option.isSome (map_key_ofFeed? h old new)
  rw [Option.isSome_map, Option.isSome_map] at hmap
  simp only [hmap, Option.isSome_iff_exists, Option.bind_eq_some_iff, column?_eq_some_iff]
  exact exists_comm

/-- The event of an entry, by the row that is chosen. -/
theorem exists_pick_of_ofFeed? (h : table ∈ followed) {e : ChangeEvent}
    (he : ofFeed? table old new = some e) : e.table = table ∧
      ∃ row, pick (choiceColumn table) old new = some row ∧
        row.get? (keyColumn table) = some (.str e.key) := by
  have hmap := map_key_ofFeed? h old new
  rw [he, Option.map_some, eq_comm, Option.map_eq_some_iff] at hmap
  obtain ⟨key, hkey, heq⟩ := hmap
  obtain ⟨row, hpick, hcolumn⟩ := Option.bind_eq_some_iff.mp hkey
  obtain ⟨htable, rfl⟩ := Prod.mk.inj heq
  exact ⟨htable.symm, row, hpick, column?_eq_some_iff.mp hcolumn⟩

/-- **An entry keeps its key** where its rows have something to be chosen by exactly if they have a
    key. -/
theorem keepsKey_of_hasKey_eq (h : table ∈ followed)
    (hrows : ∀ row ∈ [old, new], hasKey (choiceColumn table) row = hasKey (keyColumn table) row) :
    KeepsKey table old new := by
  simp only [List.forall_mem_cons, List.not_mem_nil, false_imp_iff, implies_true, and_true] at hrows
  obtain ⟨hold, hnew⟩ := hrows
  -- the row is chosen as it would be by the key itself
  have hpick : pick (choiceColumn table) old new = pick (keyColumn table) old new := by
    rw [pick, pick, hold, hnew]
  constructor
  · rw [isSome_ofFeed?_iff h, hpick]
    constructor
    · rintro ⟨row, key, hrow, -⟩
      rcases pick_eq_some_iff.mp hrow with ⟨rfl, hkey⟩ | ⟨rfl, -, hkey⟩
      · exact ⟨row, by simp, hasKey_iff.mp hkey⟩
      · exact ⟨row, by simp, hasKey_iff.mp hkey⟩
    · rintro ⟨row, hmem, hcarries⟩
      have hsome : ∃ row, pick (keyColumn table) old new = some row := by
        have hkey := hasKey_iff.mpr hcarries
        cases ho : hasKey (keyColumn table) old with
        | true => exact ⟨old, pick_eq_some_iff.mpr (.inl ⟨rfl, ho⟩)⟩
        | false =>
            simp only [List.mem_cons, List.not_mem_nil, or_false] at hmem
            rcases hmem with rfl | rfl
            · rw [ho] at hkey
              cases hkey
            · exact ⟨row, pick_eq_some_iff.mpr (.inr ⟨rfl, ho, hkey⟩)⟩
      obtain ⟨chosen, hchosen⟩ := hsome
      have hkey : hasKey (keyColumn table) chosen = true := by
        rcases pick_eq_some_iff.mp hchosen with ⟨rfl, hkey⟩ | ⟨rfl, -, hkey⟩ <;> exact hkey
      obtain ⟨key, hget, -⟩ := hasKey_iff.mp hkey
      exact ⟨chosen, key, hchosen, hget⟩
  · intro e he
    obtain ⟨htable, row, hrow, hget⟩ := exists_pick_of_ofFeed? h he
    rw [hpick] at hrow
    -- the chosen row has a key, and this is what it has in the key column
    have hcarries : ∀ row, hasKey (keyColumn table) row = true →
        row.get? (keyColumn table) = some (.str e.key) → Carries (keyColumn table) row e.key := by
      intro row hkey hget
      obtain ⟨key, hkey', hne⟩ := hasKey_iff.mp hkey
      rw [hget, Option.some.injEq, Json.str.injEq] at hkey'
      exact ⟨hget, hkey' ▸ hne⟩
    rcases pick_eq_some_iff.mp hrow with ⟨rfl, hkey⟩ | ⟨rfl, hnone, hkey⟩
    · have := hcarries row hkey hget
      exact ⟨htable, this.2, .inl this⟩
    · have := hcarries row hkey hget
      refine ⟨htable, this.2, .inr ⟨fun key hc => ?_, this⟩⟩
      rw [hasKey_iff.mpr ⟨key, hc⟩] at hnone
      cases hnone

/-! ## 4. The tables that keep all keys -/

/-- A row of a link that has an id of its own and does not name the end that the feed goes by. -/
def unnamedLink : Json := .obj [("id", .str "l-1")]

/-- The same row once it names the ends. -/
def namedLink : Json :=
  .obj [("datafile_id", .str "f-9"), ("id", .str "l-1"), ("property_set_id", .str "ps-9")]

/-- **The followed tables whose entries all keep their key** are those in which the row is chosen by
    the column of the key. In the other two an entry keeps its key where its rows have an id of
    their own exactly if they have a key. -/
theorem keepsKey_iff (h : table ∈ followed) :
    ((∀ old new, KeepsKey table old new) ↔ table ∉ chosenById) ∧
      ∀ old new, (∀ row ∈ [old, new],
          hasKey (choiceColumn table) row = hasKey (keyColumn table) row) →
        KeepsKey table old new := by
  refine ⟨⟨fun hkeeps hchosen => ?_, fun hchosen old new => ?_⟩,
    fun old new hrows => keepsKey_of_hasKey_eq h hrows⟩
  · -- a link that is named later has a key, and yet there is no event
    have hsome := (hkeeps unnamedLink namedLink).isSome_iff
    simp only [chosenById, List.mem_cons, List.not_mem_nil, or_false] at hchosen
    rcases hchosen with rfl | rfl
    · have hnone : ofFeed? "project2datafile" unnamedLink namedLink = none := by decide
      rw [hnone] at hsome
      exact absurd (hsome.mpr ⟨namedLink, by simp, "f-9", rfl, by decide⟩) (by decide)
    · have hnone : ofFeed? "propertyset2property" unnamedLink namedLink = none := by decide
      rw [hnone] at hsome
      exact absurd (hsome.mpr ⟨namedLink, by simp, "ps-9", rfl, by decide⟩) (by decide)
  · refine keepsKey_of_hasKey_eq h fun row _ => ?_
    rw [choiceColumn, if_neg hchosen]

/-- A link that is removed: both of its columns are there. -/
theorem keepsKey_removedLink :
    "project2datafile" ∈ followed ∧
      (∀ row ∈ [namedLink, .null], hasKey (choiceColumn "project2datafile") row =
        hasKey (keyColumn "project2datafile") row) ∧
      KeepsKey "project2datafile" namedLink .null :=
  have hrows : ∀ row ∈ [namedLink, .null], hasKey (choiceColumn "project2datafile") row =
      hasKey (keyColumn "project2datafile") row := by decide
  ⟨by decide, hrows, (keepsKey_iff (by decide)).2 namedLink .null hrows⟩

/-- **A link that is named only later is lost**: its row before has an id and no key, so the key of
    the row after is not looked at. Where the row before has the empty key the event has none. -/
theorem linkedLater_lost :
    ofFeed? "project2datafile" unnamedLink namedLink = none ∧
      Carries (keyColumn "project2datafile") namedLink "f-9" ∧
      ofFeed? "project2datafile" (.obj [("datafile_id", .str ""), ("id", .str "l-1")]) namedLink =
        some (.projectFile "") ∧
      ¬ KeepsKey "project2datafile" unnamedLink namedLink := by
  refine ⟨by decide, ⟨rfl, by decide⟩, by decide, fun h => ?_⟩
  have hsome := h.isSome_iff.mpr ⟨namedLink, by simp, "f-9", rfl, by decide⟩
  exact absurd hsome (by decide)

end ChangeEvent

end LabIndex
