import LabIndex.Installation
import LabIndex.Proofs.Serving.Keys

/-!
# Where the bytes of a file are taken from

The bytes of one file are asked for in two ways. Text is taken from the first root that holds them;
a request is answered from the primary root, and no other root is asked. Both go by the identifier
that the record's alias stands for. So on the primary root, and there alone, the two ways come to
the same bytes.

* `FileTree.find_of_along`: what is at a path of names, directory by directory;
* `ContentStore.locate_eq`: the place that text is taken from, as the first of the roots' places;
* `Server.serveFile_otherRoots`: an answer does not depend on the roots behind the first;
* `Installation.serves_located`: what lies on the primary root is served and extracted alike, and
  `Installation.located_not_served`: what lies elsewhere is not served at all.
-/

namespace LabIndex

open Serving

/-! ## 1. Paths of names -/

namespace FileTree

/-- Names lead on only from a directory. -/
theorem exists_directory_of_along {way : Way} {name : String} {rest : List String}
    (h : along way (name :: rest) ≠ []) :
    ∃ here entries outer, way = (here, .directory entries) :: outer := by
  cases way with
  | nil => simp [along] at h
  | cons last outer =>
      obtain ⟨here, node⟩ := last
      cases node with
      | directory entries => exact ⟨here, entries, outer, rfl⟩
      | file => simp [along] at h
      | symlink => simp [along] at h
      | special => simp [along] at h

/-- **Through directories a path of names leads to what lies there.** -/
theorem walk_names {follow : Bool} {links : Nat} {way : Way} {names : List String} {name : String}
    {node : Node} (h : (along way names).head? = some (name, node))
    (hnode : ∀ target, node ≠ .symlink target) :
    walk follow links way (names.map .name) = .ok (along way names) := by
  induction names generalizing way with
  | nil =>
      obtain ⟨outer, rfl⟩ : ∃ outer, way = (name, node) :: outer := by
        rw [along] at h
        exact ⟨way.tail, (List.cons_head?_tail h).symm⟩
      rw [List.map_nil, walk, along]
  | cons next rest ih =>
      obtain ⟨here, entries, outer, rfl⟩ :=
        exists_directory_of_along fun hnone => by rw [hnone] at h; cases h
      rw [along] at h ⊢
      cases hchild : Node.child? next entries with
      | none =>
          rw [hchild] at h
          cases h
      | some inner =>
          simp only [hchild] at h
          -- a link would have to be the last on the way, since no name leads on from it
          have hlink : ∀ target, inner ≠ .symlink target := by
            rintro target rfl
            cases rest with
            | nil =>
                rw [along] at h
                cases h
                exact hnode target rfl
            | cons _ _ => simp [along] at h
          rw [List.map_cons, walk]
          simp only [hchild]
          exact ih h

/-- A path that can be looked up. -/
def Admissible (p : Path) : Prop :=
  p ≠ "" ∧ '\x00' ∉ p.toList ∧ Text.byteLength p.toList ≤ maxPathBytes

instance (p : Path) : Decidable (Admissible p) := inferInstanceAs (Decidable (_ ∧ _ ∧ _))

theorem wayTo_of_admissible {p : Path} (h : Admissible p) (t : FileTree) (follow : Bool) :
    t.wayTo follow p = walk follow maxLinks (along t.top t.here) (steps p) := by
  obtain ⟨hne, hnul, hshort⟩ := h
  have hnul' : p.contains '\x00' = false := by simpa using hnul
  have hempty : p.isEmpty = false := by simpa using hne
  rw [wayTo, hnul', hempty, if_neg (by simp), if_neg (by simp), if_neg (by omega)]

variable {t : FileTree} {p : Path} {names : List String} {name : String}

theorem find_of_along (hp : Admissible p) (hsteps : steps p = names.map .name) {node : Node}
    (h : (along (along t.top t.here) names).head? = some (name, node))
    (hnode : ∀ target, node ≠ .symlink target) : t.find true p = .ok node := by
  rw [find, wayTo_of_admissible hp, hsteps, walk_names h hnode, ← List.cons_head?_tail h]

/-- What is in no directory is not found. -/
theorem find_of_missing (hp : Admissible p) {more : List Path.Component}
    (hsteps : steps p = .name name :: more) (hshort : Text.byteLength name.toList ≤ maxNameBytes)
    {here : String} {entries : Entries} {outer : Way}
    (h : along t.top t.here = (here, .directory entries) :: outer)
    (hnone : Node.child? name entries = none) : t.find true p = .error .notFound := by
  rw [find, wayTo_of_admissible hp, hsteps, h, walk]
  simp only [hnone, if_pos hshort]

/-- Neither is what a path from the top names. -/
theorem find_of_missing_at_top (hp : Admissible p) (hhere : t.here = [])
    {more : List Path.Component} (hsteps : steps p = .root :: .name name :: more)
    (hshort : Text.byteLength name.toList ≤ maxNameBytes)
    (hnone : Node.child? name t.entries = none) : t.find true p = .error .notFound := by
  have hroot : walk true maxLinks t.top (.root :: .name name :: more) =
      walk true maxLinks t.top (.name name :: more) := by
    rw [top, walk]
    rfl
  rw [find, wayTo_of_admissible hp, hsteps, hhere, along, hroot, top, walk]
  simp only [hnone, if_pos hshort]

/-- A regular file's bytes are those that reading it gives. -/
theorem byteStore_of_find {number : Nat} (h : t.find true p = .ok (.file number)) :
    t.byteStore p = some (.readable ⟨t.contentsOf number, false⟩) := by
  rw [byteStore, h]

theorem exists_find_of_byteStore {data : FileData} (h : t.byteStore p = some (.readable data)) :
    ∃ number, t.find true p = .ok (.file number) ∧ data = ⟨t.contentsOf number, false⟩ := by
  rw [byteStore] at h
  split at h
  · rename_i number hfind
    cases h
    exact ⟨number, hfind, rfl⟩
  · cases h

end FileTree

/-! ## 2. Places -/

namespace ContentStore

/-- The place of a file below a root, given the names of its two directories. -/
def placeIn (first second id : String) (root : Path) : Path :=
  ((root.join first).join second).join id

section Locating

variable {s : ContentStore} {id first second : String} {isThere : Path → Bool}

theorem filePath_eq_ok_iff {p : Path} : s.filePath id = .ok p ↔
    ∃ first second, shards? id = some (first, second) ∧ p = placeIn first second id s.primary := by
  rw [filePath, fileDirectory, shardDirectory]
  cases shards? id with
  | none => simp [Except.map]
  | some names =>
      obtain ⟨first, second⟩ := names
      simp [Except.map, placeIn, eq_comm]

theorem locateIn_eq (h : shards? id = some (first, second)) (roots : List Path) :
    s.locateIn isThere id roots =
      .ok (((roots.map (placeIn first second id)).find? isThere).getD
        (placeIn first second id s.primary)) := by
  induction roots with
  | nil => exact filePath_eq_ok_iff.mpr ⟨first, second, h, rfl⟩
  | cons root rest ih =>
      have hdir : shardDirectory root id = .ok ((root.join first).join second) := by
        rw [shardDirectory, h]
      rw [locateIn, hdir, List.map_cons, List.find?_cons]
      by_cases hthere : isThere (placeIn first second id root)
      · rw [hthere]
        exact if_pos hthere
      · rw [Bool.not_eq_true] at hthere
        rw [hthere, ← ih]
        exact if_neg (by rw [Bool.not_eq_true]; exact hthere)

/-- **Bytes are taken from the first root that holds them**, and looked for on the primary root where
    none does. -/
theorem locate_eq {identity : FileIdentity}
    (h : shards? identity.effective = some (first, second)) :
    s.locate isThere identity =
      .ok (((s.roots.map (placeIn first second identity.effective)).find? isThere).getD
        (placeIn first second identity.effective s.primary)) := locateIn_eq h s.roots

/-- With one root there is one place. -/
theorem filePath_of_locate (hone : s.others = []) {identity : FileIdentity} {p : Path}
    (h : s.locate isThere identity = .ok p) : s.filePath identity.effective = .ok p := by
  rw [locate, roots, hone] at h
  cases hshards : shards? identity.effective with
  | none => simp [locateIn, shardDirectory, hshards] at h
  | some names =>
      obtain ⟨first, second⟩ := names
      rw [locateIn_eq hshards, List.map_singleton, List.find?_singleton] at h
      refine filePath_eq_ok_iff.mpr ⟨first, second, hshards, ?_⟩
      rw [← Except.ok.inj h]
      split <;> rfl

/-- What the primary root holds is taken from there. -/
theorem locate_of_primary {identity : FileIdentity} {p : Path}
    (h : s.filePath identity.effective = .ok p) (hthere : isThere p = true) :
    s.locate isThere identity = .ok p := by
  obtain ⟨first, second, hshards, rfl⟩ := filePath_eq_ok_iff.mp h
  rw [locate_eq hshards, roots, List.map_cons, List.find?_cons, hthere]
  rfl

/-- The bytes of an alias are located like those of an entry of their own. -/
theorem locate_effective (s : ContentStore) (isThere : Path → Bool) (identity : FileIdentity) :
    s.locate isThere (.of identity.effective "") = s.locate isThere identity := rfl

/-- The bytes as they are stored lie on the primary root, under the alias if there is one. -/
theorem resolvePath_asStored (s : ContentStore) (id mime usesId : String) :
    s.resolvePath id mime usesId true =
      (s.filePath (FileIdentity.of id usesId).effective).map fun p => ⟨p, mime⟩ := by
  rw [resolvePath, Bool.not_true, Bool.and_false, if_neg Bool.false_ne_true]

end Locating

end ContentStore

/-! ## 3. Answers -/

namespace Serving.Server

/-- **An answer does not depend on the roots behind the first.** -/
theorem serveFile_otherRoots (x : Server) (others : List Path) (params : FileParams) (id : String) :
    serveFile ⟨⟨x.content.primary, others, x.content.convertible⟩, x.access, x.files⟩ params id =
      x.serveFile params id := rfl

/-- A record whose stored bytes are asked for is looked for on the primary root. -/
theorem openRecord_asStored {x : Server} {file : FileRecord} {p : Path} {asStored : String}
    (hstored : asStored ≠ "")
    (hplace : x.content.filePath (FileIdentity.of file.id file.usesId).effective = .ok p) :
    x.openRecord asStored file =
      match x.openBody p with
      | .ok body => .ok (file.mediaType.mime, body)
      | .error .notFound => .error (.fileNotFound file.id)
      | .error f => .error f.toFailure := by
  have hflag : (!asStored.isEmpty) = true := by simpa using hstored
  rw [openRecord, hflag, ContentStore.resolvePath_asStored, hplace]
  rfl

end Serving.Server

theorem Serving.ne_empty_of_lookUp {src : Source} {key id : String} {file : FileRecord}
    (h : lookUp src key id = .ok file) : key ≠ "" := by
  rintro rfl
  cases h

namespace Installation

section Agreeing

variable {x : Installation} {params : FileParams} {id : String} {file : FileRecord} {p : Path}

/-- Text is taken from where the bytes are located. -/
theorem fileData_of_locate {identity : FileIdentity} {data : FileData}
    (h : x.content.locate (fun q => (x.files.byteStore q).isSome) identity = .ok p)
    (hbytes : x.files.byteStore p = some (.readable data)) :
    x.extractor.fileData identity.effective = some data := by
  have hown : x.extractor.store.locate (fun q => (x.extractor.bytes q).isSome)
      (.of identity.effective "") = .ok p := (ContentStore.locate_effective ..).trans h
  have hsource : x.extractor.sourcePath identity.effective = some p := by
    rw [Extractor.sourcePath, hown]
  rw [Extractor.fileData, hsource]
  simp [extractor, hbytes]

section Asked

variable (haccess : lookUp x.source params.key id = .ok file) (hstored : params.asStored ≠ "")
  (hplace : x.content.filePath (FileIdentity.of file.id file.usesId).effective = .ok p)
include haccess hstored hplace

theorem openFile_asStored : x.server.openFile params id =
    match x.server.openBody p with
    | .ok body => .ok (file.mediaType.mime, body)
    | .error .notFound => .error (.fileNotFound file.id)
    | .error f => .error f.toFailure := by
  have haccess' : x.server.access params.key id = .ok file := haccess
  rw [Server.openFile_of_ne_empty _ (ne_empty_of_lookUp haccess), haccess']
  exact Server.openRecord_asStored hstored hplace

/-- **Where nothing is at the primary place the answer is that there is no such file**, whatever
    another root holds. -/
theorem serveFile_of_missing (hmissing : x.files.find true p = .error .notFound) :
    x.server.serveFile params id = .ofFailure (.fileNotFound file.id) := by
  have hbody : x.server.openBody p = .error .notFound := by
    rw [Server.openBody, server, hmissing]
  rw [Server.serveFile, openFile_asStored haccess hstored hplace, hbody]

/-- A regular file on the primary root is sent, unless its type cannot be told. -/
theorem serveFile_of_file {number : Nat} (hfind : x.files.find true p = .ok (.file number)) :
    x.server.serveFile params id =
      if Server.isHeaderText file.mediaType.mime then
        { status := 200, contentType := some file.mediaType.mime,
          body := .data (x.files.contentsOf number) }
      else .ofText 500 "failed to parse header value" := by
  have hbody : x.server.openBody p = .ok (.data (x.files.contentsOf number)) := by
    rw [Server.openBody, server, hfind]
  rw [Server.serveFile, openFile_asStored haccess hstored hplace, hbody]

theorem serveFile_of_byteStore (htype : Server.isHeaderText file.mediaType.mime = true)
    {data : FileData} (hbytes : x.files.byteStore p = some (.readable data)) :
    x.server.serveFile params id =
      { status := 200, contentType := some file.mediaType.mime, body := .data data.bytes } := by
  obtain ⟨number, hfind, rfl⟩ := FileTree.exists_find_of_byteStore hbytes
  rw [serveFile_of_file haccess hstored hplace hfind, if_pos htype]

/-- **The bytes on the primary root are served and extracted alike.** Whatever the other roots hold,
    the bytes of a record that lie there as a regular file are the ones located, text is taken from
    them, and whoever has a key and asks for them as they are stored is answered with just them. -/
theorem serves_located (htype : Server.isHeaderText file.mediaType.mime = true) {data : FileData}
    (hbytes : x.files.byteStore p = some (.readable data)) :
    x.content.locate (fun q => (x.files.byteStore q).isSome) (.of file.id file.usesId) = .ok p ∧
      x.extractor.fileData (FileIdentity.of file.id file.usesId).effective = some data ∧
      x.server.serveFile params id =
        { status := 200, contentType := some file.mediaType.mime, body := .data data.bytes } := by
  have hlocate : x.content.locate (fun q => (x.files.byteStore q).isSome)
      (.of file.id file.usesId) = .ok p :=
    ContentStore.locate_of_primary hplace (by rw [hbytes]; rfl)
  exact ⟨hlocate, fileData_of_locate hlocate hbytes,
    serveFile_of_byteStore haccess hstored hplace htype hbytes⟩

end Asked

/-- **On one root whatever is located is served.** -/
theorem serves_located_of_single (hone : x.content.others = [])
    (haccess : lookUp x.source params.key id = .ok file) (hstored : params.asStored ≠ "")
    (htype : Server.isHeaderText file.mediaType.mime = true) {data : FileData}
    (hlocate : x.content.locate (fun q => (x.files.byteStore q).isSome) (.of file.id file.usesId) =
      .ok p)
    (hbytes : x.files.byteStore p = some (.readable data)) :
    x.server.serveFile params id =
      { status := 200, contentType := some file.mediaType.mime, body := .data data.bytes } :=
  serveFile_of_byteStore haccess hstored (ContentStore.filePath_of_locate hone hlocate) htype hbytes

end Agreeing

/-! ## 4. Two roots -/

/-- The bytes of a file: `held`. -/
def heldBytes : Text.Bytes := [104, 101, 108, 100]

/-- The record of a file of a type, and of another that shares its bytes. -/
def heldRows (mime : String) : List Json :=
  let mediaType : String × Json := ("mediatype", .obj [("mime", .str mime)])
  [.obj [("id", .str "abc-defg-456"), mediaType],
    .obj [("id", .str "xyz-wxyz-1"), mediaType, ("usesid", .str "abc-defg-456")]]

/-- The two roots `a` and `b`, and the bytes under one of them. -/
def heldOn (root mime : String) : Installation where
  settings := {}
  content := ⟨"a", ["b"], ["image/tiff"]⟩
  source := .ofStore (.ofTables [
    ("users", [.obj [("apikey", .str "k-1"), ("id", .str "alice@example.org")]]),
    ("datafiles", heldRows mime)])
  files := ⟨[(root, .directory [("de", .directory [("fg", .directory
    [("abc-defg-456", .file 0)])])])], [heldBytes], []⟩
  tool _ := .error (.extraction "no tool")

/-- The place of those bytes. -/
def heldPlace (root : String) : Path := root ++ "/de/fg/abc-defg-456"

theorem shards?_held : shards? "abc-defg-456" = some ("de", "fg") := by decide +kernel

theorem placeIn_held {root : String} (hroot : root = "a" ∨ root = "b") :
    ContentStore.placeIn "de" "fg" "abc-defg-456" root = heldPlace root := by
  rcases hroot with rfl | rfl <;> decide +kernel

theorem filePath_held (root mime : String) :
    (heldOn root mime).content.filePath "abc-defg-456" = .ok (heldPlace "a") :=
  ContentStore.filePath_eq_ok_iff.mpr ⟨"de", "fg", shards?_held, (placeIn_held (.inl rfl)).symm⟩

theorem find_heldPlace {root : String} (hroot : root = "a" ∨ root = "b") (mime : String) :
    (heldOn root mime).files.find true (heldPlace root) = .ok (.file 0) := by
  have hsteps : FileTree.Admissible (heldPlace root) ∧ FileTree.steps (heldPlace root) =
      [root, "de", "fg", "abc-defg-456"].map .name := by
    rcases hroot with rfl | rfl <;> decide +kernel
  have hway : (FileTree.along (heldOn root mime).files.top [root, "de", "fg", "abc-defg-456"]).head? =
      some ("abc-defg-456", .file 0) := by
    simp [heldOn, FileTree.along, FileTree.top, Node.child?]
  exact FileTree.find_of_along hsteps.1 hsteps.2 hway nofun

theorem find_heldPlace_of_second (mime : String) :
    (heldOn "b" mime).files.find true (heldPlace "a") = .error .notFound := by
  have hsteps : FileTree.Admissible (heldPlace "a") ∧ FileTree.steps (heldPlace "a") =
      .name "a" :: ["de", "fg", "abc-defg-456"].map .name := by decide +kernel
  exact FileTree.find_of_missing hsteps.1 hsteps.2 (by decide) rfl rfl

/-- With the primary place empty the bytes are located on the second root. -/
theorem locate_heldPlace_of_second (mime : String) :
    (heldOn "b" mime).content.locate (fun q => ((heldOn "b" mime).files.byteStore q).isSome)
      (.of "abc-defg-456" "") = .ok (heldPlace "b") := by
  have hfirst : ((heldOn "b" mime).files.byteStore (heldPlace "a")).isSome = false := by
    rw [FileTree.byteStore, find_heldPlace_of_second]
    rfl
  have hsecond : ((heldOn "b" mime).files.byteStore (heldPlace "b")).isSome = true := by
    rw [FileTree.byteStore_of_find (find_heldPlace (.inr rfl) mime)]
    rfl
  have hroots : (heldOn "b" mime).content.roots.map (ContentStore.placeIn "de" "fg" "abc-defg-456") =
      [heldPlace "a", heldPlace "b"] := by
    rw [← placeIn_held (.inl rfl), ← placeIn_held (.inr rfl)]
    rfl
  refine (ContentStore.locateIn_eq shards?_held _).trans ?_
  rw [hroots, List.find?_cons, hfirst, List.find?_singleton, if_pos hsecond]
  rfl

/-- The primary root's bytes are served for the record that shares them. -/
theorem serves_located_sharedBytes :
    let x := heldOn "a" "image/tiff"
    let file : FileRecord := ⟨"xyz-wxyz-1", "", { mime := "image/tiff" }, "abc-defg-456", 0⟩
    lookUp x.source "k-1" "xyz-wxyz-1" = .ok file ∧ "1" ≠ "" ∧
      x.content.filePath (FileIdentity.of file.id file.usesId).effective = .ok (heldPlace "a") ∧
      Server.isHeaderText file.mediaType.mime = true ∧
      x.files.byteStore (heldPlace "a") = some (.readable ⟨heldBytes, false⟩) ∧
      x.content.locate (fun q => (x.files.byteStore q).isSome) (.of file.id file.usesId) =
        .ok (heldPlace "a") ∧
      x.extractor.fileData (FileIdentity.of file.id file.usesId).effective =
        some ⟨heldBytes, false⟩ ∧
      x.server.serveFile ⟨"k-1", "1"⟩ "xyz-wxyz-1" =
        { status := 200, contentType := some "image/tiff", body := .data heldBytes } := by
  intro x file
  have haccess : lookUp x.source "k-1" "xyz-wxyz-1" = .ok file := rfl
  have hplace : x.content.filePath (FileIdentity.of file.id file.usesId).effective =
      .ok (heldPlace "a") := filePath_held "a" "image/tiff"
  have htype : Server.isHeaderText file.mediaType.mime = true := by decide
  have hbytes := FileTree.byteStore_of_find (find_heldPlace (.inl rfl) "image/tiff")
  exact ⟨haccess, by decide, hplace, htype, hbytes,
    @serves_located x ⟨"k-1", "1"⟩ _ file _ haccess (by decide) hplace htype _ hbytes⟩

/-- **Bytes that are located are not always served.** Those that lie on the second root alone are
    not found; and a type that no header can hold is answered with a failure, wherever they lie. -/
theorem located_not_served :
    let located (x : Installation) (root mime : String) : Prop :=
      lookUp x.source "k-1" "abc-defg-456" = .ok ⟨"abc-defg-456", "", { mime := mime }, "", 0⟩ ∧
        x.content.locate (fun q => (x.files.byteStore q).isSome) (.of "abc-defg-456" "") =
          .ok (heldPlace root) ∧
        x.files.byteStore (heldPlace root) = some (.readable ⟨heldBytes, false⟩)
    let status (x : Installation) : Nat := (x.server.serveFile ⟨"k-1", "1"⟩ "abc-defg-456").status
    (located (heldOn "b" "text/plain") "b" "text/plain" ∧ status (heldOn "b" "text/plain") = 404) ∧
      located (heldOn "a" "text\nplain") "a" "text\nplain" ∧
        status (heldOn "a" "text\nplain") = 500 := by
  intro located status
  have hsecond := FileTree.byteStore_of_find (find_heldPlace (.inr rfl) "text/plain")
  have hfind := find_heldPlace (.inl rfl) "text\nplain"
  have hbytes := FileTree.byteStore_of_find hfind
  refine ⟨⟨⟨rfl, locate_heldPlace_of_second "text/plain", hsecond⟩, ?_⟩, ⟨rfl, ?_, hbytes⟩, ?_⟩
  · have hanswer := @serveFile_of_missing (heldOn "b" "text/plain") ⟨"k-1", "1"⟩ "abc-defg-456" _ _
      rfl (by decide) (filePath_held "b" "text/plain") (find_heldPlace_of_second "text/plain")
    exact congrArg Response.status hanswer
  · exact ContentStore.locate_of_primary (filePath_held "a" "text\nplain") (by rw [hbytes]; rfl)
  · have hanswer := @serveFile_of_file (heldOn "a" "text\nplain") ⟨"k-1", "1"⟩ "abc-defg-456" _ _
      rfl (by decide) (filePath_held "a" "text\nplain") _ hfind
    exact congrArg Response.status hanswer

end Installation

end LabIndex
