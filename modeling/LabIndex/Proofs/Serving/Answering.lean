import LabIndex.Proofs.Document.Ids
import LabIndex.Proofs.Serving.Containment
import LabIndex.Proofs.Text.Decoding

/-!
# What a request for a file is answered with

Four things are asked one after another: is there a row with the id, is it a record of a file, does the
identifier of its bytes name two directories, and can they be opened where they should lie. The first
that fails decides the status; where none does the bytes are sent, as the type of the record or as a
preview. `Answered` says so case by case, without looking at how the server goes about it.

* `cutBytes_eq_some_iff`, `shards?_eq_some_iff`: the directories that an identifier names;
* `Wanted.resolvePath`: a preview and the stored bytes, by one equation;
* `Server.serveFile_eq`: the answer to someone with a key, from the first row with the id;
* `place_of_lies`: where the bytes lie, by the steps of the path;
* `Server.serveFile_answered_iff`: the answers are just the ones that `Answered` tells, and
  `Server.serveFile_absoluteAlias`: what lies below the root under an alias that begins with a slash is
  not among them.
-/

namespace LabIndex

open LabIndex.Path

/-! ## 1. The directories of an identifier -/

theorem cutBytes_zero (cs : List Char) : cutBytes 0 cs = some ([], cs) := by
  cases cs <;> rw [cutBytes, if_pos rfl]

theorem cutBytes_append (front rest : List Char) :
    cutBytes (Text.byteLength front) (front ++ rest) = some (front, rest) := by
  induction front with
  | nil => exact cutBytes_zero rest
  | cons c tail ih =>
      have hpos := Text.length_encodeChar_pos c
      rw [Text.byteLength_cons, List.cons_append, cutBytes, if_neg (by omega)]
      dsimp only
      rw [if_neg (by omega), Nat.add_sub_cancel_left, ih]
      rfl

theorem append_of_cutBytes {n : Nat} {cs front rest : List Char}
    (h : cutBytes n cs = some (front, rest)) : cs = front ++ rest ∧ Text.byteLength front = n := by
  induction cs generalizing n front with
  | nil =>
      rw [cutBytes] at h
      split at h
      · rename_i hn
        cases h
        exact ⟨rfl, hn.symm⟩
      · cases h
  | cons c tail ih =>
      rw [cutBytes] at h
      split at h
      · rename_i hn
        cases h
        exact ⟨rfl, hn.symm⟩
      · dsimp only at h
        split at h
        · cases h
        · obtain ⟨⟨a, b⟩, hcut, h⟩ := Option.map_eq_some_iff.mp h
          dsimp only at h
          cases h
          obtain ⟨rfl, hlen⟩ := ih hcut
          exact ⟨rfl, by rw [Text.byteLength_cons]; omega⟩

/-- **Bytes can be cut off where a character ends.** -/
theorem cutBytes_eq_some_iff {n : Nat} {cs front rest : List Char} :
    cutBytes n cs = some (front, rest) ↔ cs = front ++ rest ∧ Text.byteLength front = n := by
  refine ⟨append_of_cutBytes, ?_⟩
  rintro ⟨rfl, rfl⟩
  exact cutBytes_append front rest

/-- The second dash part of an identifier begins with these two texts, of two bytes each. -/
def Sharded (id first second : String) : Prop :=
  ∃ segment rest, (Text.split '-' id)[1]? = some segment ∧ segment = first ++ second ++ rest ∧
    Text.byteLength first.toList = 2 ∧ Text.byteLength second.toList = 2

/-- **The directories of an identifier are its first two pairs of bytes.** -/
theorem shards?_eq_some_iff {id first second : String} :
    shards? id = some (first, second) ↔ Sharded id first second := by
  simp only [shards?, Option.bind_eq_bind, Option.bind_eq_some_iff, Prod.exists,
    cutBytes_eq_some_iff]
  constructor
  · rintro ⟨segment, hsegment, a, rest, ⟨hcut, ha⟩, b, rest', ⟨rfl, hb⟩, h⟩
    cases h
    refine ⟨segment, String.ofList rest', hsegment, ?_, by simpa using ha, by simpa using hb⟩
    rw [← String.toList_inj, hcut]
    simp
  · rintro ⟨segment, rest, hsegment, rfl, hfirst, hsecond⟩
    refine ⟨_, hsegment, first.toList, (second ++ rest).toList, ⟨by simp, hfirst⟩, second.toList,
      rest.toList, ⟨by simp, hsecond⟩, by simp⟩

theorem FileIdentity.effective_of (id usesId : String) :
    (FileIdentity.of id usesId).effective = if usesId = "" then id else usesId := by
  simp only [FileIdentity.of, FileIdentity.effective]
  split <;> rfl

namespace Serving

/-! ## 2. What is wanted, and where it lies -/

namespace FileRecord

/-- The identifier that the bytes of a record lie under: its alias, or the id it was found by. -/
def effective (file : FileRecord) (id : String) : String :=
  if file.usesId = "" then id else file.usesId

theorem effective_eq (file : FileRecord) :
    (FileIdentity.of file.id file.usesId).effective = file.effective file.id :=
  FileIdentity.effective_of file.id file.usesId

open Shape in
/-- A record that was found by an id has that id. -/
theorem id_of_read {row : Json} {file : FileRecord} {id : String} (hkey : row.key "id" = some id)
    (h : FileRecord.read row = .ok file) : file.id = id := by
  obtain ⟨fs, rfl, -⟩ := Json.exists_obj_of_key hkey
  have hbuild := build_of_record h
  simp only [bind_eq_ok_iff] at hbuild
  obtain ⟨own, hown, hbuild⟩ := hbuild
  -- the other fields; the last step leaves the record itself for `file`
  repeat obtain ⟨_, _, hbuild⟩ := hbuild
  have htext : (Json.obj fs).key "id" = some own := Json.key_eq_of_text (Given.required_text hown)
  exact Option.some.inj (htext.symm.trans hkey)

end FileRecord

/-- What is wanted of the bytes of an identifier, by its parts below the directories and the type that
    it is sent as: the preview where the type has one and nothing else was asked for, the bytes as they
    are stored otherwise. -/
inductive Wanted (c : ContentStore) (asStored mime effective : String) : List String → String → Prop
  | preview (htype : mime ∈ c.convertible) (hasked : asStored = "") :
      Wanted c asStored mime effective [".conversion", effective ++ ".jpg"] "image/jpeg"
  | stored (h : mime ∉ c.convertible ∨ asStored ≠ "") :
      Wanted c asStored mime effective [effective] mime

theorem exists_wanted (c : ContentStore) (asStored mime effective : String) :
    ∃ behind type, Wanted c asStored mime effective behind type := by
  by_cases h : mime ∈ c.convertible ∧ asStored = ""
  · exact ⟨_, _, .preview h.1 h.2⟩
  · exact ⟨_, _, .stored (not_and_or.mp h)⟩

/-- Where what is wanted of a record lies, and the type that it is sent as. -/
def Lies (c : ContentStore) (asStored effective : String) (file : FileRecord) (place : Path)
    (type : String) : Prop :=
  ∃ first second behind, Sharded effective first second ∧
    Wanted c asStored file.mediaType.mime effective behind type ∧
    place = under c.primary (first :: second :: behind)

section Lying

variable {c : ContentStore} {asStored mime effective type : String} {file : FileRecord} {place : Path}

/-- The location of what is wanted. -/
theorem Wanted.resolvePath {id usesId : String} {behind : List String}
    (h : Wanted c asStored mime effective behind type)
    (heff : (FileIdentity.of id usesId).effective = effective) :
    c.resolvePath id mime usesId (!asStored.isEmpty) =
      (ContentStore.placeOf c.primary effective behind).map fun p => ⟨p, type⟩ := by
  subst heff
  cases h with
  | preview htype hasked =>
      subst hasked
      have hconvertible : c.isConvertible mime = true := by
        simpa [ContentStore.isConvertible] using htype
      rw [ContentStore.resolvePath, hconvertible]
      rfl
  | stored h =>
      have hnone : (c.isConvertible mime && !(!asStored.isEmpty)) = false := by
        simpa [ContentStore.isConvertible, or_iff_not_imp_left] using h
      rw [ContentStore.resolvePath, hnone]
      rfl

/-- **Where no part begins with a slash the bytes lie below the primary root**, in the two directories
    and under the identifier; a part that does stands for all before it. -/
theorem place_of_lies (h : Lies c asStored effective file place type) :
    ∃ first second behind, Sharded effective first second ∧
      Wanted c asStored file.mediaType.mime effective behind type ∧
      ((∀ part ∈ first :: second :: behind, isAbsolute part = false) →
        place.moves = c.primary.moves ++ (first :: second :: behind).flatMap moves) ∧
      ∀ before part after, first :: second :: behind = before ++ part :: after →
        isAbsolute part = true → place = under part after := by
  obtain ⟨first, second, behind, hshards, hwanted, rfl⟩ := h
  refine ⟨first, second, behind, hshards, hwanted, moves_under, ?_⟩
  intro before part after hparts habsolute
  rw [hparts, under_of_absolute habsolute]

theorem isHeaderText_of_lies (h : Lies c asStored effective file place type)
    (hmime : Server.isHeaderText file.mediaType.mime = true) : Server.isHeaderText type = true := by
  obtain ⟨first, second, behind, -, hwanted, -⟩ := h
  cases hwanted with
  | preview => decide
  | stored => exact hmime

end Lying

/-! ## 3. Answers -/

/-- A failure as an answer with this status. -/
def Response.refusing (status : Nat) (f : Failure) : Response :=
  .ofJson status (.obj [("error", .str f.message), ("status", .ofNat status)])

theorem Response.ofFailure_eq {f : Failure} {status : Nat} (h : statusOf f = status) :
    Response.ofFailure f = .refusing status f := by
  subst h
  rfl

/-- What reading the first row with an id gives. -/
def Recorded (rows : List Json) (id : String) (read : Except Mismatch FileRecord) : Prop :=
  ∃ row, rows.find? (fun row => row.key "id" == some id) = some row ∧ FileRecord.read row = read

/-- **What a request for a file is answered with**, if someone with a key asks. -/
inductive Answered (c : ContentStore) (files : FileTree) (rows : List Json) (asStored id : String) :
    Response → Prop
  /-- No row has the id. -/
  | noRow (h : ∀ row ∈ rows, row.key "id" ≠ some id) :
      Answered c files rows asStored id (.refusing 404 (.fileNotFound id))
  /-- The first row with it is no record. -/
  | noRecord {m : Mismatch} (h : Recorded rows id (.error m)) :
      Answered c files rows asStored id (.refusing 500 (.json m.message))
  /-- The identifier of the bytes names no directories. -/
  | noPlace {file : FileRecord} (h : Recorded rows id (.ok file))
      (hshards : ∀ first second, ¬ Sharded (file.effective id) first second) :
      Answered c files rows asStored id (.refusing 400 (.invalidFileId (file.effective id)))
  /-- Nothing is where they should lie. -/
  | missing {file : FileRecord} {place : Path} {type : String} (h : Recorded rows id (.ok file))
      (hplace : Lies c asStored (file.effective id) file place type)
      (hread : files.read place = .error .notFound) :
      Answered c files rows asStored id (.refusing 404 (.fileNotFound id))
  /-- What is there cannot be opened. -/
  | unreadable {file : FileRecord} {place : Path} {type : String} {fault : SystemFault}
      (h : Recorded rows id (.ok file)) (hplace : Lies c asStored (file.effective id) file place type)
      (hread : files.read place = .error fault) (hfault : fault ≠ .notFound) :
      Answered c files rows asStored id (.refusing 500 fault.toFailure)
  /-- The bytes are sent. -/
  | sent {file : FileRecord} {place : Path} {type : String} {bytes : Text.Bytes}
      (h : Recorded rows id (.ok file)) (hplace : Lies c asStored (file.effective id) file place type)
      (hread : files.read place = .ok bytes) :
      Answered c files rows asStored id
        { status := 200, contentType := some type, body := .data bytes }

/-- There is an answer to every request. -/
theorem exists_answered (c : ContentStore) (files : FileTree) (rows : List Json)
    (asStored id : String) : ∃ r, Answered c files rows asStored id r := by
  cases hfind : rows.find? fun row => row.key "id" == some id with
  | none =>
      rw [List.find?_eq_none] at hfind
      exact ⟨_, .noRow fun row hrow => by simpa using hfind row hrow⟩
  | some row =>
      cases hread : FileRecord.read row with
      | error m => exact ⟨_, .noRecord ⟨row, hfind, hread⟩⟩
      | ok file =>
          have hrecorded : Recorded rows id (.ok file) := ⟨row, hfind, hread⟩
          by_cases hshards : ∀ first second, ¬ Sharded (file.effective id) first second
          · exact ⟨_, .noPlace hrecorded hshards⟩
          · push Not at hshards
            obtain ⟨first, second, hshards⟩ := hshards
            obtain ⟨behind, type, hwanted⟩ :=
              exists_wanted c asStored file.mediaType.mime (file.effective id)
            have hplace : Lies c asStored (file.effective id) file
                (under c.primary (first :: second :: behind)) type :=
              ⟨first, second, behind, hshards, hwanted, rfl⟩
            cases hbytes : files.read (under c.primary (first :: second :: behind)) with
            | ok bytes => exact ⟨_, .sent hrecorded hplace hbytes⟩
            | error fault =>
                by_cases hfault : fault = .notFound
                · exact ⟨_, .missing hrecorded hplace (hfault ▸ hbytes)⟩
                · exact ⟨_, .unreadable hrecorded hplace hbytes hfault⟩

namespace Server

section Opening

variable {x : Server} {asStored : String} {file : FileRecord} {place : Path}

/-- What is no directory is sent as it is read. -/
theorem openBody_eq (h : ∀ entries, x.files.find true place ≠ .ok (.directory entries)) :
    x.openBody place = (x.files.read place).map .data := by
  rw [openBody, FileTree.read]
  cases hfind : x.files.find true place with
  | error f => rfl
  | ok node =>
      cases node with
      | directory entries => exact absurd hfind (h entries)
      | file | symlink | special => rfl

/-- The answer for a record, to someone who was let in. -/
def answerRecord (x : Server) (asStored : String) (file : FileRecord) : Response :=
  match x.openRecord asStored file with
  | .error f => .ofFailure f
  | .ok (type, body) =>
    if isHeaderText type then { status := 200, contentType := some type, body }
    else .ofText 500 "failed to parse header value"

theorem openRecord_of_lies {type : String}
    (h : Lies x.content asStored (file.effective file.id) file place type)
    (hdir : ∀ entries, x.files.find true place ≠ .ok (.directory entries)) :
    x.openRecord asStored file =
      match x.files.read place with
      | .ok bytes => .ok (type, .data bytes)
      | .error .notFound => .error (.fileNotFound file.id)
      | .error f => .error f.toFailure := by
  obtain ⟨first, second, behind, hshards, hwanted, rfl⟩ := h
  have hplace : ContentStore.placeOf x.content.primary (file.effective file.id) behind =
      .ok (under x.content.primary (first :: second :: behind)) :=
    ContentStore.placeOf_eq_ok_iff.mpr ⟨(first, second), shards?_eq_some_iff.mpr hshards, rfl⟩
  rw [openRecord, hwanted.resolvePath file.effective_eq, hplace]
  dsimp only [Except.map, bind, Except.bind]
  rw [openBody_eq hdir]
  cases x.files.read (under x.content.primary (first :: second :: behind)) with
  | ok bytes => rfl
  | error f => cases f <;> rfl

/-- The answer for a record whose bytes should lie somewhere, by what reading them gives. -/
theorem answerRecord_of_lies {type : String}
    (h : Lies x.content asStored (file.effective file.id) file place type)
    (hdir : ∀ entries, x.files.find true place ≠ .ok (.directory entries))
    (hmime : isHeaderText file.mediaType.mime = true) :
    x.answerRecord asStored file =
      match x.files.read place with
      | .ok bytes => { status := 200, contentType := some type, body := .data bytes }
      | .error .notFound => .refusing 404 (.fileNotFound file.id)
      | .error f => .refusing 500 f.toFailure := by
  rw [answerRecord, openRecord_of_lies h hdir]
  cases x.files.read place with
  | ok bytes => exact if_pos (isHeaderText_of_lies h hmime)
  | error f => cases f <;> exact Response.ofFailure_eq rfl

theorem openRecord_of_not_sharded
    (h : ∀ first second, ¬ Sharded (file.effective file.id) first second) :
    x.openRecord asStored file = .error (.invalidFileId (file.effective file.id)) := by
  have hnone : shards? (file.effective file.id) = none := by
    rw [Option.eq_none_iff_forall_ne_some]
    exact fun names hnames => h names.1 names.2 (shards?_eq_some_iff.mp hnames)
  obtain ⟨behind, type, hwanted⟩ := exists_wanted x.content asStored file.mediaType.mime
    (file.effective file.id)
  rw [openRecord, hwanted.resolvePath file.effective_eq, ContentStore.placeOf, shardDirectory, hnone]
  rfl

end Opening

section Asked

variable {s : Store} {users rows : List Json} {c : ContentStore} {files : FileTree}
  {params : FileParams} {id : String}
  (husers : s.rows? "users" = some users) (hrows : s.rows? "datafiles" = some rows)
  (hkey : Admits users params.key)
include husers hrows hkey

/-- **Whoever has a key is answered by the first row with the id.** -/
theorem serveFile_eq : (ofStore s c files).serveFile params id =
    match rows.find? fun row => row.key "id" == some id with
    | none => .refusing 404 (.fileNotFound id)
    | some row =>
      match FileRecord.read row with
      | .error m => .refusing 500 (.json m.message)
      | .ok file => (ofStore s c files).answerRecord params.asStored file := by
  have hopen : (ofStore s c files).openFile params id =
      recordOf s id >>= (ofStore s c files).openRecord params.asStored := by
    rw [openFile_of_ne_empty _ hkey.1, access_ofStore, lookUp_eq husers, if_pos hkey]
  rw [serveFile, hopen, recordOf, Query.get, firstRow_getAllBy hrows]
  cases rows.find? fun row => row.key "id" == some id with
  | none => rfl
  | some row =>
      dsimp only [bind, Except.bind]
      cases FileRecord.read row <;> rfl

variable (hmime : ∀ file, Recorded rows id (.ok file) → isHeaderText file.mediaType.mime = true)
  (hdir : ∀ file place type, Recorded rows id (.ok file) →
    Lies c params.asStored (file.effective id) file place type →
    ∀ entries, files.find true place ≠ .ok (.directory entries))
include hmime hdir

theorem serveFile_of_answered {r : Response} (h : Answered c files rows params.asStored id r) :
    (ofStore s c files).serveFile params id = r := by
  -- the answer for a record, once the first row with the id has been read
  have hrecord : ∀ {file}, Recorded rows id (.ok file) → file.id = id ∧
      (ofStore s c files).serveFile params id =
        (ofStore s c files).answerRecord params.asStored file := by
    rintro file ⟨row, hfind, hread⟩
    refine ⟨FileRecord.id_of_read (by simpa using List.find?_some hfind) hread, ?_⟩
    rw [serveFile_eq husers hrows hkey, hfind]
    simp only [hread]
  -- and once its place is known
  have hlies : ∀ {file place type}, Recorded rows id (.ok file) →
      Lies c params.asStored (file.effective id) file place type →
      (ofStore s c files).serveFile params id =
        match files.read place with
        | .ok bytes => { status := 200, contentType := some type, body := .data bytes }
        | .error .notFound => .refusing 404 (.fileNotFound id)
        | .error f => .refusing 500 f.toFailure := by
    intro file place type hfile hplace
    obtain ⟨rfl, hanswer⟩ := hrecord hfile
    rw [hanswer]
    exact answerRecord_of_lies (x := ofStore s c files) hplace (hdir _ _ _ hfile hplace) (hmime _ hfile)
  cases h with
  | noRow h =>
      have hnone : (rows.find? fun row => row.key "id" == some id) = none := by
        rw [List.find?_eq_none]
        exact fun row hrow => by simpa using h row hrow
      rw [serveFile_eq husers hrows hkey, hnone]
  | noRecord h =>
      obtain ⟨row, hfind, hread⟩ := h
      rw [serveFile_eq husers hrows hkey, hfind]
      simp only [hread]
  | noPlace h hshards =>
      obtain ⟨rfl, hanswer⟩ := hrecord h
      rw [hanswer, answerRecord, openRecord_of_not_sharded (x := ofStore s c files) hshards]
      exact Response.ofFailure_eq rfl
  | missing h hplace hread => rw [hlies h hplace, hread]
  | unreadable h hplace hread hfault =>
      rw [hlies h hplace, hread]
      split
      · rename_i hok
        cases hok
      · rename_i hnone
        exact absurd (Except.error.inj hnone) hfault
      · rename_i hread
        rw [Except.error.inj hread]
  | sent h hplace hread => rw [hlies h hplace, hread]

/-- **The right bytes are sent, and everything else is refused for the first reason there is.** The
    answer to someone with a key is the one that `Answered` tells: of the first row with the id, whose
    alias counts for the stored bytes and for the preview alike. What is sent lies below the primary
    root, in the directories that the identifier names, where none of its parts begins with a slash;
    one that does stands for the root and all else before it. -/
theorem serveFile_answered_iff :
    (∀ r, (ofStore s c files).serveFile params id = r ↔
      Answered c files rows params.asStored id r) ∧
      ∀ file place type, Lies c params.asStored (file.effective id) file place type →
        ∃ first second behind, Sharded (file.effective id) first second ∧
          Wanted c params.asStored file.mediaType.mime (file.effective id) behind type ∧
          ((∀ part ∈ first :: second :: behind, isAbsolute part = false) →
            place.moves = c.primary.moves ++ (first :: second :: behind).flatMap moves) ∧
          ∀ before part after, first :: second :: behind = before ++ part :: after →
            isAbsolute part = true → place = under part after := by
  refine ⟨fun r => ⟨?_, serveFile_of_answered husers hrows hkey hmime hdir⟩,
    fun file place type => place_of_lies⟩
  rintro rfl
  obtain ⟨r, hr⟩ := exists_answered c files rows params.asStored id
  rwa [serveFile_of_answered husers hrows hkey hmime hdir hr]

end Asked

/-! ## 4. An alias -/

/-- The record of a picture whose bytes lie under an alias. -/
def aliased (usesId : String) : FileRecord := ⟨"xyz-wxyz-1", "", { mime := "image/tiff" }, usesId, 0⟩

/-- The row of that record. -/
def aliasedRows (usesId : String) : List Json :=
  [.obj [("id", .str "xyz-wxyz-1"), ("mediatype", .obj [("mime", .str "image/tiff")]),
    ("usesid", .str usesId)]]

/-- A user with a key. -/
def keyedUsers : List Json := [.obj [("apikey", .str "k-1"), ("id", .str "alice@example.org")]]

/-- A store with that user and that row. -/
def aliasedStore (usesId : String) : Store :=
  .ofTables [("users", keyedUsers), ("datafiles", aliasedRows usesId)]

/-- A root on which pictures have previews. -/
def pictures : ContentStore := ⟨"a", [], ["image/tiff"]⟩

/-- On that root, in two directories: a picture with its preview, and one whose name an alias from the
    top would be read as. -/
def pictureFiles : FileTree :=
  ⟨[("a", .directory [
      ("de", .directory [("fg", .directory [("abc-defg-456", .file 0),
        (".conversion", .directory [("abc-defg-456.jpg", .file 1)])])]),
      ("ab", .directory [("cd", .directory [("x-abcd-y", .file 0)])])])],
    [Installation.heldBytes, [74, 80, 71]], []⟩

theorem recorded_aliased {usesId : String} {read : Except Mismatch FileRecord} :
    Recorded (aliasedRows usesId) "xyz-wxyz-1" read ↔ .ok (aliased usesId) = read := by
  constructor
  · rintro ⟨row, hfind, rfl⟩
    obtain rfl := Option.some.inj hfind
    rfl
  · rintro rfl
    exact ⟨_, rfl, rfl⟩

/-- The files under the alias, with the type of each. -/
theorem lies_aliased {asStored type : String} {place : Path} :
    Lies pictures asStored "abc-defg-456" (aliased "abc-defg-456") place type ↔
      (asStored = "" ∧ place = "a/de/fg/.conversion/abc-defg-456.jpg" ∧ type = "image/jpeg") ∨
      (asStored ≠ "" ∧ place = "a/de/fg/abc-defg-456" ∧ type = "image/tiff") := by
  have hshards := shards?_eq_some_iff.mp Installation.shards?_held
  have hpreview : under "a" ["de", "fg", ".conversion", "abc-defg-456" ++ ".jpg"] =
      "a/de/fg/.conversion/abc-defg-456.jpg" := by decide +kernel
  have hstored : under "a" ["de", "fg", "abc-defg-456"] = "a/de/fg/abc-defg-456" := by decide +kernel
  constructor
  · rintro ⟨first, second, behind, hnames, hwanted, rfl⟩
    have hnames := shards?_eq_some_iff.mpr hnames
    rw [Installation.shards?_held] at hnames
    cases hnames
    cases hwanted with
    | preview htype hasked => exact .inl ⟨hasked, hpreview, rfl⟩
    | stored h => exact .inr ⟨h.resolve_left (by decide), hstored, rfl⟩
  · rintro (⟨rfl, rfl, rfl⟩ | ⟨hasked, rfl, rfl⟩)
    · exact ⟨_, _, _, hshards, .preview (by decide) rfl, hpreview.symm⟩
    · exact ⟨_, _, _, hshards, .stored (.inr hasked), hstored.symm⟩

/-- A file of the tree, found by the names on the way to it. -/
theorem read_pictureFiles (place : Path) (names : List String) (name : String) (number : Nat)
    (hplace : FileTree.Admissible place ∧ FileTree.steps place = names.map .name)
    (h : (FileTree.along pictureFiles.top names).head? = some (name, .file number)) :
    pictureFiles.find true place = .ok (.file number) ∧
      pictureFiles.read place = .ok (pictureFiles.contentsOf number) := by
  have hfind := FileTree.find_of_along (t := pictureFiles) hplace.1 hplace.2 h nofun
  rw [FileTree.read, hfind]
  exact ⟨rfl, rfl⟩

/-- A preview is there. -/
theorem read_preview : pictureFiles.find true "a/de/fg/.conversion/abc-defg-456.jpg" = .ok (.file 1) ∧
    pictureFiles.read "a/de/fg/.conversion/abc-defg-456.jpg" = .ok [74, 80, 71] :=
  read_pictureFiles _ ["a", "de", "fg", ".conversion", "abc-defg-456.jpg"] "abc-defg-456.jpg" 1
    (by decide +kernel) (by simp [pictureFiles, FileTree.along, FileTree.top, Node.child?])

/-- The picture is there. -/
theorem read_picture : pictureFiles.find true "a/de/fg/abc-defg-456" = .ok (.file 0) ∧
    pictureFiles.read "a/de/fg/abc-defg-456" = .ok Installation.heldBytes :=
  read_pictureFiles _ ["a", "de", "fg", "abc-defg-456"] "abc-defg-456" 0
    (by decide +kernel) (by simp [pictureFiles, FileTree.along, FileTree.top, Node.child?])

/-- A picture under an alias, as its preview and as it is stored. -/
theorem serveFile_answered_aliased :
    let served (asStored : String) : Response :=
      (ofStore (aliasedStore "abc-defg-456") pictures pictureFiles).serveFile ⟨"k-1", asStored⟩
        "xyz-wxyz-1"
    (aliasedStore "abc-defg-456").rows? "users" = some keyedUsers ∧
      (aliasedStore "abc-defg-456").rows? "datafiles" = some (aliasedRows "abc-defg-456") ∧
      Admits keyedUsers "k-1" ∧
      served "" = { status := 200, contentType := some "image/jpeg", body := .data [74, 80, 71] } ∧
      served "1" = { status := 200, contentType := some "image/tiff",
                     body := .data Installation.heldBytes } := by
  have husers : (aliasedStore "abc-defg-456").rows? "users" = some keyedUsers := rfl
  have hrows : (aliasedStore "abc-defg-456").rows? "datafiles" =
      some (aliasedRows "abc-defg-456") := rfl
  have hkey : Admits keyedUsers "k-1" := by decide +kernel
  have hmime : ∀ file, Recorded (aliasedRows "abc-defg-456") "xyz-wxyz-1" (.ok file) →
      isHeaderText file.mediaType.mime = true := by
    intro file hfile
    cases recorded_aliased.mp hfile
    decide
  have hdir : ∀ asStored file place type,
      Recorded (aliasedRows "abc-defg-456") "xyz-wxyz-1" (.ok file) →
      Lies pictures asStored (file.effective "xyz-wxyz-1") file place type →
      ∀ entries, pictureFiles.find true place ≠ .ok (.directory entries) := by
    intro asStored file place type hfile hplace entries
    cases recorded_aliased.mp hfile
    rcases lies_aliased.mp hplace with ⟨-, rfl, -⟩ | ⟨-, rfl, -⟩
    · rw [read_preview.1]
      exact nofun
    · rw [read_picture.1]
      exact nofun
  refine ⟨husers, hrows, hkey, ?_, ?_⟩
  · exact ((serveFile_answered_iff husers hrows hkey hmime (hdir "")).1 _).mpr
      (.sent (recorded_aliased.mpr rfl) (lies_aliased.mpr (.inl ⟨rfl, rfl, rfl⟩)) read_preview.2)
  · exact ((serveFile_answered_iff husers hrows hkey hmime (hdir "1")).1 _).mpr
      (.sent (recorded_aliased.mpr rfl) (lies_aliased.mpr (.inr ⟨by decide, rfl, rfl⟩))
        read_picture.2)

/-- What the alias from the top names is not there. -/
theorem find_fromTop : pictureFiles.find true "/x-abcd-y" = .error .notFound := by
  have hpath : FileTree.Admissible "/x-abcd-y" ∧
      FileTree.steps "/x-abcd-y" = [.root, .name "x-abcd-y"] := by decide +kernel
  exact FileTree.find_of_missing_at_top hpath.1 rfl hpath.2 (by decide) rfl

/-- **What lies below the root under an alias that begins with a slash is not sent.** The alias names
    the directories `ab` and `cd`, and the bytes are there under it; but it is looked for at the top of
    the file system, where nothing is. -/
theorem serveFile_absoluteAlias :
    let file := aliased "/x-abcd-y"
    (aliasedStore "/x-abcd-y").rows? "users" = some keyedUsers ∧ Admits keyedUsers "k-1" ∧
      (aliasedStore "/x-abcd-y").rows? "datafiles" = some (aliasedRows "/x-abcd-y") ∧
      Recorded (aliasedRows "/x-abcd-y") "xyz-wxyz-1" (.ok file) ∧
      Sharded (file.effective "xyz-wxyz-1") "ab" "cd" ∧
      isHeaderText file.mediaType.mime = true ∧
      pictureFiles.read ("a" ++ "/" ++ "ab" ++ "/" ++ "cd" ++ "/" ++ file.effective "xyz-wxyz-1") =
        .ok Installation.heldBytes ∧
      (ofStore (aliasedStore "/x-abcd-y") pictures pictureFiles).serveFile ⟨"k-1", "1"⟩ "xyz-wxyz-1" =
        .refusing 404 (.fileNotFound "xyz-wxyz-1") := by
  intro file
  have hkey : Admits keyedUsers "k-1" := by decide +kernel
  have hrecorded : Recorded (aliasedRows "/x-abcd-y") "xyz-wxyz-1" (.ok file) :=
    recorded_aliased.mpr rfl
  have hshards : Sharded (file.effective "xyz-wxyz-1") "ab" "cd" :=
    shards?_eq_some_iff.mp (by decide +kernel)
  have hread : pictureFiles.read "a/ab/cd//x-abcd-y" = .ok Installation.heldBytes :=
    (read_pictureFiles _ ["a", "ab", "cd", "x-abcd-y"] "x-abcd-y" 0
      (by decide +kernel) (by simp [pictureFiles, FileTree.along, FileTree.top, Node.child?])).2
  have hlies : Lies pictures "1" (file.effective "xyz-wxyz-1") file "/x-abcd-y" "image/tiff" :=
    ⟨_, _, _, hshards, .stored (.inr (by decide)), by decide +kernel⟩
  have hdir : ∀ entries, pictureFiles.find true "/x-abcd-y" ≠ .ok (.directory entries) := by
    intro entries hfound
    rw [find_fromTop] at hfound
    cases hfound
  have hread' : pictureFiles.read "/x-abcd-y" = .error .notFound := by
    rw [FileTree.read, find_fromTop]
  refine ⟨rfl, hkey, rfl, hrecorded, hshards, by decide, hread, ?_⟩
  obtain ⟨row, hfind, hfile⟩ := hrecorded
  rw [serveFile_eq rfl rfl hkey, hfind]
  simp only [hfile]
  rw [answerRecord_of_lies (x := ofStore _ pictures pictureFiles) hlies hdir (by decide)]
  simp only [ofStore, hread']
  rfl

end Server

end Serving

end LabIndex
