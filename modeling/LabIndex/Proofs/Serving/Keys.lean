import LabIndex.Proofs.Answers
import LabIndex.Proofs.Store.Evaluation
import LabIndex.Serving.Server

/-!
# Requests without a key

Whoever has no key of a user is told nothing of any file. The server asks for the key before it looks
at anything else, so its answer to such a request is one and the same, whatever files there are, where
they lie and what is recorded of them. The empty key is nobody's, even where a user's key is empty.

* `Admits`: the users let a key in;
* `firstRow_getAllBy`: the first row of a look-up in a store;
* `lookUp_eq`: looking up a file is asking for the key, and then for the record;
* `serveFile_of_not_admits`: the answer without a key, and `status_serveFile_eq_iff`: nobody else is
  answered so;
* `serveFile_unknownKey`: the answers of two servers with the same users;
* `respond_unknownKey`: the same of whole requests, whatever they ask for.
-/

namespace LabIndex.Serving

/-! ## 1. Keys -/

/-- The users let a key in: it is not empty, and some user has it. -/
def Admits (users : List Json) (key : String) : Prop :=
  key ≠ "" ∧ ∃ u ∈ users, u.key "apikey" = some key

instance (users : List Json) (key : String) : Decidable (Admits users key) :=
  inferInstanceAs (Decidable (_ ∧ _))

section Looking

variable {s : Store} {table : String} {rows users : List Json}

/-- The first row of a look-up is the first in the table that has the key. -/
theorem firstRow_getAllBy (h : s.rows? table = some rows) (index key : String) :
    firstRow (.ofStore s) (.getAllBy table index [key]) =
      .ok (rows.find? fun r => r.key index == some key) := by
  have hquery : s.query (.getAllBy table index [key]) = .ok (Store.withKey index key rows) := by
    rw [Store.query, Store.eval_getAllBy (by rw [h]; rfl), List.flatMap_singleton, Store.table, h]
    rfl
  rw [← List.head?_filter]
  simp only [firstRow, Source.ofStore, hquery, Except.map, Store.withKey]
  cases rows.filter fun r => r.key index == some key <;> rfl

/-- Without the table there is no row to look for. -/
theorem firstRow_getAllBy_of_missing (h : s.rows? table = none) (index key : String) :
    firstRow (.ofStore s) (.getAllBy table index [key]) =
      .error (.query ("Table `" ++ table ++ "` does not exist")) := by
  simp only [firstRow, Source.ofStore, Store.query, Query.getAllBy, Store.eval, Store.rows, h]
  rfl

/-- The record of a file, for someone who was let in. -/
def recordOf (s : Store) (id : String) : Except Failure FileRecord := do
  match ← firstRow (.ofStore s) (.get "datafiles" [id]) with
  | none => throw (.fileNotFound id)
  | some row =>
    match FileRecord.read row with
    | .ok file => return file
    | .error m => throw (.json m.message)

/-- **Looking up a file is asking for the key first**, and for the record only where that is one. -/
theorem lookUp_eq (h : s.rows? "users" = some users) (key id : String) :
    lookUp (.ofStore s) key id =
      if Admits users key then recordOf s id else .error .noAccess := by
  by_cases hempty : key = ""
  · subst hempty
    rw [if_neg fun h => h.1 rfl]
    rfl
  · have hkey : key.isEmpty = false := by simpa using hempty
    have hadmits : Admits users key ↔
        (users.find? fun u => u.key "apikey" == some key).isSome := by
      simp [Admits, hempty]
    simp only [lookUp, hkey, firstRow_getAllBy h, hadmits]
    cases users.find? fun u => u.key "apikey" == some key <;> rfl

/-- Looking for a record never says that there is no key. -/
theorem recordOf_ne_noAccess (s : Store) (id : String) : recordOf s id ≠ .error .noAccess := by
  intro h
  rcases bind_eq_error_iff.mp h with hrow | ⟨row, -, hread⟩
  · cases ht : s.rows? "datafiles" with
    | none =>
        rw [Query.get, firstRow_getAllBy_of_missing ht] at hrow
        cases hrow
    | some rows =>
        rw [Query.get, firstRow_getAllBy ht] at hrow
        cases hrow
  · split at hread
    · cases hread
    · split at hread <;> cases hread

end Looking

/-! ## 2. Answers -/

/-- The answer to someone without a key. -/
def refusal : Response where
  status := 401
  contentType := some "application/json"
  body := .data (Text.encode "\x7b\"error\":\"No access\",\"status\":401\x7d")

theorem ofFailure_noAccess : Response.ofFailure .noAccess = refusal := by decide +kernel

/-- Only that failure is answered so. -/
theorem statusOf_eq_iff (f : Failure) : statusOf f = 401 ↔ f = .noAccess := by
  cases f <;> simp [statusOf, Failure.isUnauthorized, Failure.isNotFound, Failure.isBadRequest]

namespace Server

/-- The server of a store and of files. -/
def ofStore (s : Store) (content : ContentStore) (files : FileTree) : Server :=
  ⟨content, lookUp (.ofStore s), files⟩

theorem access_ofStore (s : Store) (content : ContentStore) (files : FileTree) :
    (ofStore s content files).access = lookUp (.ofStore s) := rfl

/-- The bytes for a record and their type. -/
def openRecord (x : Server) (asStored : String) (file : FileRecord) :
    Except Failure (String × Body) := do
  let place ← x.content.resolvePath file.id file.mediaType.mime file.usesId (!asStored.isEmpty)
  match x.openBody place.path with
  | .ok body => return (place.contentType, body)
  | .error .notFound => throw (.fileNotFound file.id)
  | .error f => throw f.toFailure

theorem openFile_of_ne_empty (x : Server) {params : FileParams} (h : params.key ≠ "") (id : String) :
    x.openFile params id = x.access params.key id >>= x.openRecord params.asStored := by
  have hkey : params.key.isEmpty = false := by simpa using h
  simp only [openFile, hkey]
  rfl

theorem resolvePath_ne_noAccess (c : ContentStore) (id mime usesId : String) (asStored : Bool) :
    c.resolvePath id mime usesId asStored ≠ .error .noAccess := by
  simp only [ContentStore.resolvePath, ContentStore.conversionPath, ContentStore.filePath,
    ContentStore.fileDirectory, shardDirectory]
  split <;> split <;> exact nofun

theorem openRecord_ne_noAccess (x : Server) (asStored : String) (file : FileRecord) :
    x.openRecord asStored file ≠ .error .noAccess := by
  intro h
  rcases bind_eq_error_iff.mp h with hplace | ⟨place, -, hbody⟩
  · exact resolvePath_ne_noAccess _ _ _ _ _ hplace
  · split at hbody <;> cases hbody

variable {s : Store} {users : List Json} {content : ContentStore} {files : FileTree}

/-- **Without a key there is one answer**, whatever is asked for and whatever there is. -/
theorem serveFile_of_not_admits (h : s.rows? "users" = some users) {params : FileParams}
    (hkey : ¬ Admits users params.key) (id : String) :
    (ofStore s content files).serveFile params id = refusal := by
  have hopen : (ofStore s content files).openFile params id = .error .noAccess := by
    by_cases hempty : params.key = ""
    · rw [openFile, hempty]
      rfl
    · rw [openFile_of_ne_empty _ hempty, access_ofStore, lookUp_eq h, if_neg hkey]
      rfl
  rw [serveFile, hopen]
  exact ofFailure_noAccess

/-- **With a key nobody is answered so.** -/
theorem status_serveFile_eq_iff (h : s.rows? "users" = some users) (params : FileParams)
    (id : String) :
    ((ofStore s content files).serveFile params id).status = 401 ↔ ¬ Admits users params.key := by
  refine ⟨fun hstatus hkey => ?_, fun hkey => by rw [serveFile_of_not_admits h hkey]; rfl⟩
  rw [serveFile] at hstatus
  cases hopen : (ofStore s content files).openFile params id with
  | ok answer =>
      simp only [hopen] at hstatus
      split at hstatus <;> cases hstatus
  | error f =>
      simp only [hopen] at hstatus
      obtain rfl := (statusOf_eq_iff f).mp hstatus
      rw [openFile_of_ne_empty _ hkey.1, access_ofStore, lookUp_eq h, if_pos hkey] at hopen
      rcases bind_eq_error_iff.mp hopen with hrecord | ⟨file, -, hfile⟩
      · exact recordOf_ne_noAccess s id hrecord
      · exact openRecord_ne_noAccess _ _ _ hfile

/-! ## 3. Two worlds -/

section Worlds

variable {t : Store} (hs : s.rows? "users" = some users) (ht : t.rows? "users" = some users)
include hs ht

/-- **Requests without a valid key learn nothing.** Whatever else two servers with the same users
    differ in, the records of files and whether there are any, the roots, and the files in them, both
    give the same answer, in which nothing is of a file. The empty key is refused though a user have
    it. -/
theorem serveFile_unknownKey {key : String}
    (hkey : key = "" ∨ ∀ u ∈ users, u.key "apikey" ≠ some key)
    (content content' : ContentStore) (files files' : FileTree) (asStored id : String) :
    (ofStore s content files).serveFile ⟨key, asStored⟩ id =
        (ofStore t content' files').serveFile ⟨key, asStored⟩ id ∧
      (ofStore s content files).serveFile ⟨key, asStored⟩ id = refusal := by
  have hout : ¬ Admits users key := by
    rintro ⟨hne, u, hu, hrow⟩
    rcases hkey with hempty | hnone
    · exact hne hempty
    · exact hnone u hu hrow
  rw [serveFile_of_not_admits hs hout, serveFile_of_not_admits ht hout]
  exact ⟨rfl, rfl⟩

/-- **The same of whole requests**, of any method and for anything. -/
theorem respond_unknownKey {a : Address}
    (hkey : ∀ params, FileParams.ofQuery a.query = .ok params → ¬ Admits users params.key)
    (content content' : ContentStore) (files files' : FileTree) (method : String) :
    (ofStore s content files).respond method a = (ofStore t content' files').respond method a := by
  have hget : ∀ route, (ofStore s content files).get a.query route =
      (ofStore t content' files').get a.query route := by
    intro route
    cases route with
    | health => rfl
    | file segment =>
        rw [get, get]
        cases Text.decode? (percentDecode (Text.encode (String.ofList segment))) with
        | none => rfl
        | some id =>
            cases hparams : FileParams.ofQuery a.query with
            | error name => rfl
            | ok params =>
                have hout := hkey params hparams
                exact (serveFile_of_not_admits hs hout id).trans
                  (serveFile_of_not_admits ht hout id).symm
  simp only [respond, hget]

end Worlds

/-- Users with an empty key, none, no column for one, and a number. -/
def keylessUsers : List Json := [
  .obj [("apikey", .str ""), ("id", .str "alice@example.org")],
  .obj [("apikey", .null), ("id", .str "bob@example.org")],
  .obj [("id", .str "carol@example.org")],
  .obj [("apikey", .ofNat 7), ("id", .str "dave@example.org")]]

/-- A store with those users and a file, and one with those users alone. -/
def keylessStores : Store × Store :=
  (.ofTables [("users", keylessUsers), ("datafiles", [.obj [("id", .str "abc-defg-456")]])],
    .ofTables [("users", keylessUsers)])

theorem serveFile_keylessUsers :
    let served (s : Store) (root : Path) (files : FileTree) (key : String) : Response :=
      (ofStore s ⟨root, [], []⟩ files).serveFile ⟨key, "1"⟩ "abc-defg-456"
    let files := FileTree.empty.write "data/de/fg/abc-defg-456" [104, 101, 108, 100]
    keylessStores.1.rows? "users" = some keylessUsers ∧
      keylessStores.2.rows? "users" = some keylessUsers ∧
      (∀ key ∈ ["", "8"], (key = "" ∨ ∀ u ∈ keylessUsers, u.key "apikey" ≠ some key) ∧
        served keylessStores.1 "data" files key = served keylessStores.2 "other" .empty key ∧
        served keylessStores.1 "data" files key = refusal) := by
  have hs : keylessStores.1.rows? "users" = some keylessUsers := rfl
  have ht : keylessStores.2.rows? "users" = some keylessUsers := rfl
  refine ⟨hs, ht, fun key hmem => ?_⟩
  have hkey : key = "" ∨ ∀ u ∈ keylessUsers, u.key "apikey" ≠ some key := by
    revert key
    decide +kernel
  exact ⟨hkey, serveFile_unknownKey hs ht hkey ..⟩

end Server

end LabIndex.Serving
