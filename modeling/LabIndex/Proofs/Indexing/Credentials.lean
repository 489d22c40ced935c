import LabIndex.Proofs.Change.Dependencies
import LabIndex.Proofs.Change.LookUps
import LabIndex.Proofs.Indexing.FileRows
import LabIndex.Proofs.Search.Engines

/-!
# Credentials

The rows of users hold keys and passwords, and the documents of users have no fields for these. A
row is looked at for its id and for the fields of the document, so rows that differ in other columns
make the same documents or fail with the same words. No other kind and no plan reads the users. So
whatever is asked of an index and of the runs that fill it, in whatever order, the answers are those
of a store with other credentials.

* `Shape.Record.fault_congr`: a record sees the fields that it declares, and nothing else;
* `Store.SameButCredentials`: stores whose users differ in other columns than those of documents;
* `Indexers.run_sameButCredentials`, `Indexers.apply_sameButCredentials`: one run, and one change;
* `Indexers.session_sameButCredentials`: all that is asked, in any order.
-/

namespace LabIndex

open Shape

/-! ## 1. What a record sees -/

namespace Fields

/-- The fields with some names. -/
def only (names : List String) (fs : Fields) : Fields := fs.filter fun e => e.1 ∈ names

section Only

variable {names : List String} {k : String} {v : Json} {rest : Fields}

theorem only_cons_of_mem (h : k ∈ names) : only names ((k, v) :: rest) = (k, v) :: only names rest :=
  List.filter_cons_of_pos (by simpa using h)

theorem only_cons_of_not_mem (h : k ∉ names) : only names ((k, v) :: rest) = only names rest :=
  List.filter_cons_of_neg (by simpa using h)

end Only

theorem get?_only (names : List String) (fs : Fields) (key : String) :
    get? key (only names fs) = if key ∈ names then get? key fs else none := by
  induction fs with
  | nil => exact (ite_self none).symm
  | cons e rest ih =>
      obtain ⟨k, v⟩ := e
      rw [get?_cons]
      by_cases hmem : k ∈ names
      · rw [only_cons_of_mem hmem, get?_cons, ih]
        split
        · rename_i hk
          rw [if_pos (hk ▸ hmem)]
        · rfl
      · rw [only_cons_of_not_mem hmem, ih]
        split
        · rename_i hkey
          rw [if_neg fun hk : k = key => hmem (hk ▸ hkey)]
        · rfl

theorem ordered_only {fs : Fields} (h : Ordered fs) (names : List String) :
    Ordered (only names fs) :=
  h.sublist (List.filter_sublist.map _)

/-- **Fields in order that are looked up alike under some names** are the same under these. -/
theorem only_congr {names : List String} {fs fs' : Fields} (ho : Ordered fs) (ho' : Ordered fs')
    (h : ∀ name ∈ names, get? name fs = get? name fs') : only names fs = only names fs' := by
  refine ext (ordered_only ho names) (ordered_only ho' names) fun key => ?_
  rw [get?_only, get?_only]
  split
  · rename_i hkey
    exact h key hkey
  · rfl

end Fields

namespace Shape.Record

/-- The names of the fields that a record declares. -/
def names (r : Record) : List String := r.slots.map (·.name)

/-- The first bad field is among those that are declared. -/
theorem firstFault_only (slots : List Slot) (fs : Fields) :
    firstFault slots (Fields.only (slots.map (·.name)) fs) = firstFault slots fs := by
  induction fs with
  | nil => rfl
  | cons e rest ih =>
      obtain ⟨k, v⟩ := e
      by_cases hk : k ∈ slots.map (·.name)
      · rw [Fields.only_cons_of_mem hk, firstFault, firstFault, ih]
      · have hnone : slots.find? (·.name == k) = none := by
          rw [List.find?_eq_none]
          exact fun s hs he => hk (List.mem_map.mpr ⟨s, hs, beq_iff_eq.mp he⟩)
        rw [Fields.only_cons_of_not_mem hk, ih, firstFault, hnone]

theorem firstMissing_congr {slots : List Slot} {fs fs' : Fields}
    (h : ∀ name ∈ slots.map (·.name), Fields.get? name fs = Fields.get? name fs') :
    firstMissing fs slots = firstMissing fs' slots := by
  induction slots with
  | nil => rfl
  | cons s rest ih =>
      rw [List.map_cons, List.forall_mem_cons] at h
      rw [firstMissing, firstMissing, h.1, ih h.2]

/-- **A record sees the fields that it declares**, and no others: what is wrong with fields in order
    is settled by those. -/
theorem fault_congr {r : Record} {fs fs' : Fields} (ho : Fields.Ordered fs)
    (ho' : Fields.Ordered fs') (h : ∀ name ∈ r.names, Fields.get? name fs = Fields.get? name fs') :
    r.fault (.obj fs) = r.fault (.obj fs') := by
  have honly : Fields.only (r.slots.map (·.name)) fs = Fields.only (r.slots.map (·.name)) fs' :=
    Fields.only_congr ho ho' h
  rw [fault, fault, ← firstFault_only r.slots fs, honly, firstFault_only, firstMissing_congr h]

end Shape.Record

/-! ## 2. Rows of users -/

/-- Two rows that are the same to a document of a user: equal, or objects with the same columns for
    the fields of the document. -/
def Json.SameUser (row row' : Json) : Prop :=
  row = row' ∨ ∃ fs fs', row = .obj fs ∧ row' = .obj fs' ∧
    ∀ name ∈ UserDocument.shape.names, Fields.get? name fs = Fields.get? name fs'

/-- A column that no field is declared for makes no difference. -/
theorem Json.sameUser_put {column : String} (h : column ∉ UserDocument.shape.names) (v v' : Json)
    (fs : Fields) :
    (Json.obj (Fields.put column v fs)).SameUser (.obj (Fields.put column v' fs)) := by
  refine .inr ⟨_, _, rfl, rfl, fun name hname => ?_⟩
  have hne : name ≠ column := fun he => h (he ▸ hname)
  rw [Fields.get?_put_of_ne hne, Fields.get?_put_of_ne hne]

/-- The fields that a user document is built from are those that are declared. -/
theorem UserDocument.build_congr {g g' : Given}
    (h : ∀ name ∈ UserDocument.shape.names, g name = g' name) :
    UserDocument.build g = UserDocument.build g' := by
  have hnames : UserDocument.shape.names = ["id", "_type", "email", "fullname", "admin", "avatar",
      "description", "affiliation", "homepage", "birthtime", "mtime"] := rfl
  rw [hnames] at h
  simp only [List.forall_mem_cons] at h
  obtain ⟨h1, h2, h3, h4, h5, h6, h7, h8, h9, h10, h11, -⟩ := h
  simp only [UserDocument.build, Given.required, Given.optional, h1, h2, h3, h4, h5, h6, h7, h8, h9,
    h10, h11]

/-- Two rows are looked up alike, and read as the same document or with the same words about what is
    wrong. -/
def Json.ReadsAsSameUser (row row' : Json) : Prop :=
  row.key "id" = row'.key "id" ∧ UserDocument.read row = UserDocument.read row'

/-- **Other columns are not seen.** -/
theorem Json.SameUser.readsAsSameUser {row row' : Json} (h : row.SameUser row') (hs : row.Sorted)
    (hs' : row'.Sorted) : row.ReadsAsSameUser row' := by
  obtain rfl | ⟨fs, fs', rfl, rfl, hnames⟩ := h
  · exact ⟨rfl, rfl⟩
  · have hbuild : UserDocument.build (UserDocument.shape.value? (.obj fs)) =
        UserDocument.build (UserDocument.shape.value? (.obj fs')) := UserDocument.build_congr hnames
    have hfault := Record.fault_congr (Fields.ordered_of_sorted hs) (Fields.ordered_of_sorted hs')
      hnames
    refine ⟨?_, ?_⟩
    · rw [Json.key, Json.key, Json.get?, Json.get?, hnames "id" (by decide)]
    · rw [UserDocument.read, record, record, hbuild, hfault]

theorem forall₂_readsAsSameUser {rows rows' : List Json} (h : List.Forall₂ Json.SameUser rows rows')
    (hs : ∀ row ∈ rows, row.Sorted) (hs' : ∀ row ∈ rows', row.Sorted) :
    List.Forall₂ Json.ReadsAsSameUser rows rows' := by
  induction h with
  | nil => exact .nil
  | cons hrow _ ih =>
      obtain ⟨hfirst, hrest⟩ := List.forall_mem_cons.mp hs
      obtain ⟨hfirst', hrest'⟩ := List.forall_mem_cons.mp hs'
      exact .cons (hrow.readsAsSameUser hfirst hfirst') (ih hrest hrest')

/-! ## 3. Stores -/

/-- Two stores that are the same but for columns of users that documents of users have no fields for. -/
structure Store.SameButCredentials (s s' : Store) : Prop where
  others : ∀ t, t ≠ "users" → s'.rows? t = s.rows? t
  /-- Both have a table of users or neither has. -/
  haveUsers : (s'.rows? "users").isSome = (s.rows? "users").isSome
  users : List.Forall₂ Json.SameUser (s.table "users") (s'.table "users")

namespace Store

variable {s s' : Store}

theorem sameButCredentials_withRows (s : Store) {rows rows' : List Json}
    (h : List.Forall₂ Json.SameUser rows rows') :
    (s.withRows "users" rows).SameButCredentials (s.withRows "users" rows') where
  others t ht := by rw [rows?_withRows, rows?_withRows, if_neg ht, if_neg ht]
  haveUsers := by
    rw [rows?_withRows, rows?_withRows, if_pos rfl, if_pos rfl, Option.isSome_map, Option.isSome_map]
  users := by
    rw [table, table, rows?_withRows, rows?_withRows, if_pos rfl, if_pos rfl]
    cases s.rows? "users" with
    | none => exact .nil
    | some found => exact h

/-- The users that a scope covers, where there is a table of users. -/
theorem query_users (h : (s.rows? "users").isSome) (scope : Scope) :
    s.query (Kind.user.query scope) = .ok (s.members .user scope) := by
  have hspine : ∀ t ∈ (Kind.user.query scope).spine, (s.rows? t).isSome := by
    intro t ht
    obtain rfl : t = "users" := List.mem_singleton.mp (Kind.user.mem_spine_all scope ht)
    exact h
  rw [query_eq_plain rfl scope hspine, rowsOf_of_plain rfl, Kind.attachments, mapM_attachAll_nil]

/-- **The users that a scope covers are read alike** in stores that differ in credentials. -/
theorem members_readAsSameUser (hs : s.Sorted) (hs' : s'.Sorted) (h : s.SameButCredentials s')
    (scope : Scope) :
    List.Forall₂ Json.ReadsAsSameUser (s.members .user scope) (s'.members .user scope) := by
  have hread := forall₂_readsAsSameUser h.users (fun row hrow => hs.of_mem_table hrow)
    fun row hrow => hs'.of_mem_table hrow
  rw [members, members]
  cases scope.ids? with
  | none => exact hread
  | some ids =>
      refine forall₂_flatMap fun id _ => List.rel_filter ?_ hread
      rintro row row' ⟨hkey, -⟩
      simp only [Kind.memberColumn, hkey]

end Store

/-! ## 4. Runs -/

/-- Rows that are prepared alike make the same requests and stop at the same place. -/
theorem Indexing.requests_congr {x y : Indexing} {rows rows' : List Json}
    (h : List.Forall₂ (fun row row' => x.prepare row = y.prepare row') rows rows') :
    x.requests rows = y.requests rows' ∧ x.fault? rows = y.fault? rows' := by
  induction h with
  | nil => exact ⟨rfl, rfl⟩
  | @cons row row' rest rest' hrow _ ih =>
      cases hp : y.prepare row' with
      | error f =>
          rw [hp] at hrow
          rw [requests_cons_error x hrow, requests_cons_error y hp, fault?_cons_error x hrow,
            fault?_cons_error y hp]
          exact ⟨rfl, rfl⟩
      | ok r =>
          rw [hp] at hrow
          rw [requests_cons_ok x hrow, requests_cons_ok y hp, fault?_cons_ok x hrow,
            fault?_cons_ok y hp, ih.1, ih.2]
          exact ⟨rfl, rfl⟩

namespace Indexers

variable {σ : Type} {x : Indexers} {s s' : Store} (hx : x.source = .ofStore s) (hs : s.Sorted)
  (hs' : s'.Sorted) (h : s.SameButCredentials s') (b : Backend σ)
include hx hs hs' h

/-- A run of users over stores that both have some. -/
theorem run_users (husers : (s.rows? "users").isSome) (scope : Scope) (state : σ) :
    (x.onto s').run b .user scope state = x.run b .user scope state := by
  have hx' : (x.onto s').source = .ofStore s' := rfl
  have hquery := Store.query_users husers scope
  have hquery' := Store.query_users (h.haveUsers.trans husers) scope
  have hprepare : List.Forall₂
      (fun row row' => (x.indexing .user scope).prepare row =
        ((x.onto s').indexing .user scope).prepare row')
      (s.members .user scope) (s'.members .user scope) := by
    refine (Store.members_readAsSameUser hs hs' h scope).imp ?_
    rintro row row' ⟨-, hread⟩
    simp only [Indexing.prepare, indexing, onto, Document.read, hread]
  obtain ⟨hrequests, hfault⟩ := Indexing.requests_congr hprepare
  rw [(run_eq_of_query hx hquery b state).2, (run_eq_of_query hx' hquery' b state).2, ← hrequests,
    ← hfault]
  rfl

/-- **A run does not see credentials**: neither its report or failure nor what it does to its
    backend. -/
theorem run_sameButCredentials (k : Kind) (scope : Scope) (state : σ) :
    (x.onto s').run b k scope state = x.run b k scope state := by
  cases husers : (s.rows? "users").isSome with
  | false =>
      -- neither store has users, so no table is different
      have hnone := h.haveUsers.trans husers
      rw [Option.isSome_eq_false_iff, Option.isNone_iff_eq_none] at husers hnone
      refine run_congr hx (fun t _ => ?_) b scope state
      by_cases ht : t = "users"
      · rw [ht, husers, hnone]
      · exact h.others t ht
  | true =>
      by_cases hk : k = .user
      · subst hk
        exact run_users hx hs hs' h b husers scope state
      · -- no other kind reads the table
        have hnames : ∀ t ∈ k.tables, t ≠ "users" := by
          cases k <;> first | decide | exact absurd rfl hk
        exact run_congr hx (fun t ht => h.others t (hnames t ht)) b scope state

/-- Runs of several kinds do not. -/
theorem runKinds_sameButCredentials (kinds : List Kind) (state : σ) :
    (x.onto s').runKinds b kinds state = x.runKinds b kinds state := by
  induction kinds generalizing state with
  | nil => rfl
  | cons k rest ih => simp only [runKinds, run_sameButCredentials hx hs hs' h, ih]

/-- Nor do the runs of a plan. -/
theorem runAll_sameButCredentials (targets : List Target) (state : σ) :
    (x.onto s').runAll b targets state = x.runAll b targets state := by
  induction targets generalizing state with
  | nil => rfl
  | cons t rest ih => simp only [runAll, run_sameButCredentials hx hs hs' h, ih]

/-- **A plan does not see users at all**, and following it does not see their credentials. -/
theorem apply_sameButCredentials (e : ChangeEvent) (state : σ) :
    (x.onto s').apply b e state = x.apply b e state := by
  have hplan : e.plan (.ofStore s') = e.plan (.ofStore s) := by
    refine ChangeEvent.plan_eq_of_plansAlike (fun table ht index ids _ => ?_) e
    have hquery : s'.query (.getAllBy table index ids) = s.query (.getAllBy table index ids) := by
      refine Store.eval_congr _ none fun t hmem => ?_
      obtain rfl := List.mem_singleton.mp hmem
      exact h.others t fun he => absurd (he ▸ ht) (by decide)
    simp only [Source.allRows, Source.ofStore, hquery]
  rw [apply, apply, hx, ← hplan]
  simp only [runAll_sameButCredentials hx hs hs' h]
  rfl

end Indexers

/-! ## 5. Sessions -/

/-- What can be asked of an index and of the runs that fill it. Runs name the engine that they write
    with. -/
inductive Operation where
  | index (n : Nat) (kind : Kind) (scope : Scope)
  | rebuild (n : Nat)
  | change (n : Nat) (e : ChangeEvent)
  | ask (call : Search.Call)

/-- The answer to an operation. -/
inductive Operation.Answer where
  | report (r : Except Failure Report)
  | reports (r : Except Failure (List Report))
  | answer (a : Search.Answer)

namespace Indexers

open Search (IndexDirectory)

/-- Performs an operation. -/
def perform (x : Indexers) (d : IndexDirectory) : Operation → Operation.Answer × IndexDirectory
  | .index n kind scope =>
    let (r, d) := x.run (IndexDirectory.backend n) kind scope d
    (.report r, d)
  | .rebuild n =>
    let (r, d) := x.rebuild (IndexDirectory.backend n) d
    (.reports r, d)
  | .change n e =>
    let (r, d) := x.apply (IndexDirectory.backend n) e d
    (.reports r, d)
  | .ask call =>
    let (a, d) := d.ask call
    (.answer a, d)

/-- The answers to operations, one after the other, and the directory after them. -/
def session (x : Indexers) :
    List Operation → IndexDirectory → List Operation.Answer × IndexDirectory
  | [], d => ([], d)
  | o :: rest, d =>
    let (a, d) := x.perform d o
    let (answers, d) := x.session rest d
    (a :: answers, d)

variable {x : Indexers} {s s' : Store}

/-- One operation. -/
theorem perform_sameButCredentials (hx : x.source = .ofStore s) (hs : s.Sorted) (hs' : s'.Sorted)
    (h : s.SameButCredentials s') (d : IndexDirectory) (o : Operation) :
    (x.onto s').perform d o = x.perform d o := by
  cases o with
  | index n kind scope => simp only [perform, run_sameButCredentials hx hs hs' h]
  | rebuild n => simp only [perform, rebuild, runKinds_sameButCredentials hx hs hs' h]
  | change n e => simp only [perform, apply_sameButCredentials hx hs hs' h]
  | ask call => rfl

/-- **Credentials never come out.** Two stores that are the same but for columns of users that are no
fields of their documents answer every session alike: the reports and failures of all runs, the hits of
all searches with their scores and documents, the counts and the documents that are fetched; and the
index is the same after it. -/
theorem session_sameButCredentials (hx : x.source = .ofStore s) (hs : s.Sorted) (hs' : s'.Sorted)
    (h : s.SameButCredentials s') (operations : List Operation) (d : IndexDirectory) :
    (x.onto s').session operations d = x.session operations d := by
  induction operations generalizing d with
  | nil => rfl
  | cons o rest ih => simp only [session, perform_sameButCredentials hx hs hs' h, ih]

end Indexers

/-- The rows of a user with a key, and of one with a password whose row is no document. -/
def Store.userRows (key password : String) : List Json := [
  .obj (Fields.put "apikey" (.str key) [("email", .str "alice@example.org"), ("id", .str "u-1")]),
  .obj (Fields.put "password" (.str password) [("admin", .str "yes"), ("id", .str "u-2")])]

/-- A store with these users, and a project. -/
def Store.usersWith (key password : String) : Store :=
  (filled [("projects", [.obj [("id", .str "p-1"), ("name", .str "weld")]])]).withRows "users"
    (userRows key password)

namespace Indexers

open Search (IndexDirectory)

/-- A rebuild that stops at the second user, a change, a run of one user, and what is found then. -/
def userSession : List Operation :=
  [.ask (.opening 15000000), .rebuild 0, .change 0 (.user "u-1"), .index 0 .user (.one "u-2"),
    .ask (.search 0 "alice" none 10), .ask (.search 0 "k-1" (some .user) 10),
    .ask (.get 0 ⟨"mc", .user, "u-1"⟩), .ask (.count 0 ⟨"mc", .user, "u-2"⟩)]

theorem session_sameButCredentials_usersWith :
    let x := onStore (.usersWith "k-1" "one")
    x.source = .ofStore (.usersWith "k-1" "one") ∧ (Store.usersWith "k-1" "one").Sorted ∧
      (Store.usersWith "k-2" "two").Sorted ∧
      (Store.usersWith "k-1" "one").SameButCredentials (.usersWith "k-2" "two") ∧
      ((Store.usersWith "k-1" "one").table "users").map Json.text ≠
        ((Store.usersWith "k-2" "two").table "users").map Json.text ∧
      (x.onto (.usersWith "k-2" "two")).session userSession (.ofIndex []) =
        x.session userSession (.ofIndex []) := by
  intro x
  have hs : ∀ key password, (∀ row ∈ Store.userRows key password, row.Sorted) →
      (Store.usersWith key password).Sorted :=
    fun key password hrows => (Store.sorted_filled (by decide)).withRows "users" hrows
  have hsame : (Store.usersWith "k-1" "one").SameButCredentials (.usersWith "k-2" "two") :=
    Store.sameButCredentials_withRows _ (.cons (Json.sameUser_put (by decide) ..)
      (.cons (Json.sameUser_put (by decide) ..) .nil))
  have hsorted := hs "k-1" "one" (by decide)
  have hsorted' := hs "k-2" "two" (by decide)
  exact ⟨rfl, hsorted, hsorted', hsame, by decide +kernel,
    session_sameButCredentials rfl hsorted hsorted' hsame userSession (.ofIndex [])⟩

end Indexers

end LabIndex
