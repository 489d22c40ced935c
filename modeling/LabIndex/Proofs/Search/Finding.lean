import LabIndex.Proofs.Answers
import LabIndex.Proofs.Json.Depth
import LabIndex.Proofs.Json.Sorted
import LabIndex.Proofs.Search.Upsert
import LabIndex.Proofs.Search.Words

/-!
# Finding a word

A search for one word of lower-case letters and digits finds the documents that mention it in one of
their leaves, and no others. A document that it finds is shown as it is read back from the text that
it is stored as; where that text cannot be read, the whole search fails.

* `IsPlainWord`, `Language.read_of_plain`: such a word is an expression that asks for itself. The
  reader of expressions goes over it as over one word: no character of it is a sign (`MeansItself`);
* `Criterion.accepts_term_iff`: it is met by the documents that mention it;
* `Index.Readable`, `Index.readable_iff_depth_le`: which documents can be read back;
* `Hit.Shows`, `Index.ShownBy`: hits that show just the documents of an index, each once;
* `Index.matching`, `Index.search_matching`: the documents that a search ranks when it has room for
  all; `IndexDirectory.search_shows_matching` and `IndexDirectory.search_shows_nothing`, what comes
  of it, in any language;
* `IndexDirectory.search_finds_mentioning`: searches for a word, with
  `IndexDirectory.search_deepRequest`, a document that is nested too deep to be shown.
-/

namespace LabIndex.Search

/-! ## 1. A word as a search -/

/-- The lower-case letters and the digits of ASCII. -/
def plainChars : List Char := "abcdefghijklmnopqrstuvwxyz0123456789".toList

/-- A word of one to thirty-nine of those. -/
structure IsPlainWord (w : String) : Prop where
  pos : 1 ≤ w.length
  short : w.length < longRun
  plain : ∀ c ∈ w.toList, c ∈ plainChars

/-- What is checked of each character of a list holds of each. -/
theorem forall_mem_of_all {p : Char → Prop} [DecidablePred p] {cs : List Char}
    (h : cs.all (fun c => decide (p c)) = true) : ∀ c ∈ cs, p c := by simpa using h

instance (w : String) : Decidable (IsPlainWord w) :=
  decidable_of_iff
    (1 ≤ w.length ∧ w.length < longRun ∧ w.toList.all (fun c => decide (c ∈ plainChars)) = true)
    ⟨fun h => ⟨h.1, h.2.1, forall_mem_of_all h.2.2⟩,
      fun h => ⟨h.pos, h.short, by simpa using h.plain⟩⟩

section Plain

variable {c : Char} {cs : List Char}

theorem isWordChar_of_plain (h : c ∈ plainChars) : Text.isWordChar c = true :=
  forall_mem_of_all (p := fun c => Text.isWordChar c = true) (by decide +kernel) c h

theorem lowerChar_of_plain (h : c ∈ plainChars) : Text.lowerChar c = [c] :=
  forall_mem_of_all (p := fun c => Text.lowerChar c = [c]) (by decide +kernel) c h

theorem length_encodeChar_of_plain (h : c ∈ plainChars) : (Text.encodeChar c).length = 1 :=
  forall_mem_of_all (p := fun c => (Text.encodeChar c).length = 1) (by decide +kernel) c h

/-- A character that stands for itself wherever it is in an expression. -/
structure MeansItself (c : Char) : Prop where
  notBlank : Text.isBlank c = false
  notGap : Expression.isGap c = false
  notMark : Expression.fieldMarks.contains c = false
  inWord : Expression.isPlainWordChar c = true
  notSign : c ≠ '-' ∧ c ≠ '+' ∧ c ≠ '(' ∧ c ≠ '*' ∧ c ≠ 'N' ∧ c ≠ '"' ∧ c ≠ '\'' ∧ c ≠ '\\' ∧ c ≠ ':'

instance (c : Char) : Decidable (MeansItself c) :=
  decidable_of_iff
    (Text.isBlank c = false ∧ Expression.isGap c = false ∧
      Expression.fieldMarks.contains c = false ∧ Expression.isPlainWordChar c = true ∧
      c ≠ '-' ∧ c ≠ '+' ∧ c ≠ '(' ∧ c ≠ '*' ∧ c ≠ 'N' ∧ c ≠ '"' ∧ c ≠ '\'' ∧ c ≠ '\\' ∧ c ≠ ':')
    ⟨fun h => ⟨h.1, h.2.1, h.2.2.1, h.2.2.2.1, h.2.2.2.2⟩,
      fun h => ⟨h.notBlank, h.notGap, h.notMark, h.inWord, h.notSign⟩⟩

theorem meansItself_of_plain (h : c ∈ plainChars) : MeansItself c :=
  forall_mem_of_all (p := MeansItself) (by decide +kernel) c h

theorem lower_of_plain (h : ∀ c ∈ cs, c ∈ plainChars) : Text.lower cs = cs := by
  induction cs with
  | nil => rfl
  | cons c rest ih =>
      have hrest := ih fun d hd => h d (List.mem_cons_of_mem c hd)
      rw [Text.lower, List.flatMap_cons, lowerChar_of_plain (h c List.mem_cons_self),
        ← Text.lower, hrest]
      rfl

theorem byteLength_of_plain (h : ∀ c ∈ cs, c ∈ plainChars) : Text.byteLength cs = cs.length := by
  induction cs with
  | nil => rfl
  | cons c rest ih =>
      have hrest := ih fun d hd => h d (List.mem_cons_of_mem c hd)
      rw [Text.byteLength] at hrest ⊢
      rw [List.flatMap_cons, List.length_append, hrest,
        length_encodeChar_of_plain (h c List.mem_cons_self), List.length_cons]
      omega

end Plain

namespace Expression

section Plain

variable {c : Char} {cs rest : List Char} (h : ∀ c ∈ cs, c ∈ plainChars)

theorem readSign_cons (hc : MeansItself c) : readSign (c :: rest) = (none, c :: rest) := by
  have hne := hc.notSign
  rw [readSign] <;> simp_all

theorem readNegative_cons (hc : MeansItself c) : readNegative (c :: rest) = none := by
  have hne := hc.notSign
  rw [readNegative]
  simp_all

theorem readNegation_cons (hc : MeansItself c) (fuel : Nat) :
    readNegation fuel (c :: rest) = none := by
  have hne := hc.notSign
  cases fuel <;> rw [readNegation]
  simp_all

include h

theorem readFieldRest_of_plain : readFieldRest cs = (cs, []) := by
  induction cs with
  | nil => rfl
  | cons c rest ih =>
      have hc := meansItself_of_plain (h c List.mem_cons_self)
      have hrest := ih fun d hd => h d (List.mem_cons_of_mem c hd)
      have hne := hc.notSign
      have hmark := hc.notMark
      rw [readFieldRest] <;> simp_all

/-- Without a colon there is no field. -/
theorem readField_of_plain : readField cs = none := by
  cases cs with
  | nil => rfl
  | cons c rest =>
      have hc := meansItself_of_plain (h c List.mem_cons_self)
      have hrest := readFieldRest_of_plain fun d hd => h d (List.mem_cons_of_mem c hd)
      have hne := hc.notSign
      have hmark := hc.notMark
      simp_all [readField]

theorem readWordRest_of_plain : readWordRest cs = (cs, []) := by
  induction cs with
  | nil => rfl
  | cons c rest ih =>
      have hc := meansItself_of_plain (h c List.mem_cons_self)
      have hrest := ih fun d hd => h d (List.mem_cons_of_mem c hd)
      have hne := hc.notSign
      rw [readWordRest]
      · simp [hc.inWord, hrest]
      · simp_all

theorem unescape_of_plain : unescape cs = cs := by
  induction cs with
  | nil => rfl
  | cons c rest ih =>
      have hc := meansItself_of_plain (h c List.mem_cons_self)
      have hrest := ih fun d hd => h d (List.mem_cons_of_mem c hd)
      have hne := hc.notSign
      rw [unescape, hrest] <;> simp_all

/-- Every reserved word holds a capital. -/
theorem not_reserved_of_plain : String.ofList cs ∉ reserved := by
  intro hmem
  have hcapital : ∀ w ∈ reserved, ¬ w.toList.all (fun c => decide (c ∈ plainChars)) = true := by
    decide +kernel
  refine hcapital _ hmem ?_
  rw [String.toList_ofList]
  simpa using h

theorem readWord_of_plain (hne : cs ≠ []) : readWord cs = some (String.ofList cs, []) := by
  obtain ⟨c, rest, rfl⟩ := List.exists_cons_of_ne_nil hne
  have hsign := (meansItself_of_plain (h c List.mem_cons_self)).notSign
  have hreserved : reserved.contains (String.ofList (c :: rest)) = false := by
    simpa using not_reserved_of_plain h
  rw [readWord, readWordRest_of_plain h]
  · simp only [hreserved, unescape_of_plain h]
    rfl
  · simp_all

theorem readTerm_of_plain (hne : cs ≠ []) : readTerm cs = some (String.ofList cs, []) := by
  have hword := readWord_of_plain h hne
  obtain ⟨c, rest, rfl⟩ := List.exists_cons_of_ne_nil hne
  have hc := meansItself_of_plain (h c List.mem_cons_self)
  have hsign := hc.notSign
  rw [readTerm, readNegative_cons hc] <;> simp_all

theorem readLeaf_of_plain (hne : cs ≠ []) (fuel : Nat) :
    readLeaf (fuel + 1) cs = some (.literal none (String.ofList cs), []) := by
  have hfield := readField_of_plain h
  have hterm := readTerm_of_plain h hne
  obtain ⟨c, rest, rfl⟩ := List.exists_cons_of_ne_nil hne
  have hc := meansItself_of_plain (h c List.mem_cons_self)
  have hsign := hc.notSign
  have hliteral : readLiteral (c :: rest) =
      some (.literal none (String.ofList (c :: rest)), []) := by
    rw [readLiteral, hfield]
    simp only [hterm]
  rw [readLeaf, readNegation_cons hc] <;> simp_all

/-- **A word is a search for itself.** -/
theorem parse?_of_plain (hne : cs ≠ []) :
    parse? (String.ofList cs) = some (.literal none (String.ofList cs)) := by
  have hleaf := readLeaf_of_plain h hne
  obtain ⟨c, rest, rfl⟩ := List.exists_cons_of_ne_nil hne
  have hc := meansItself_of_plain (h c List.mem_cons_self)
  have hskip : skipGap (c :: rest) = c :: rest := by
    rw [skipGap, List.dropWhile_cons, if_neg (by rw [hc.notGap]; exact Bool.false_ne_true)]
  have hoperand : ∀ fuel, readOperand (fuel + 2) (c :: rest) =
      some (none, .literal none (String.ofList (c :: rest)), []) := fun fuel => by
    rw [readOperand, readSign_cons hc]
    simp only [hleaf]
    rfl
  have hlist : ∀ fuel, readList (fuel + 3) (c :: rest) =
      some (.literal none (String.ofList (c :: rest)), []) := fun fuel => by
    rw [readList, hskip, hoperand]
    rfl
  rw [parse?, String.toList_ofList, hskip]
  have hfuel : 4 * (c :: rest).length + 4 = 4 * (c :: rest).length + 1 + 3 := by omega
  simp only [hfuel, hlist]

end Plain

end Expression

theorem IsPlainWord.ne_nil {w : String} (h : IsPlainWord w) : w.toList ≠ [] := by
  intro hnil
  have hlength := h.pos
  rw [← String.length_toList, hnil] at hlength
  cases hlength

/-- Such a word is the one word of itself. -/
theorem words_of_plain {w : String} (h : IsPlainWord w) : words w = [⟨0, w⟩] := by
  have hruns : runs w.toList = [w.toList] :=
    runs_of_forall h.ne_nil fun c hc => isWordChar_of_plain (h.plain c hc)
  have hshort : Text.byteLength w.toList < longRun := by
    rw [byteLength_of_plain h.plain, String.length_toList]
    exact h.short
  have hword : wordOfRun w.toList 0 = some ⟨0, w⟩ := by
    rw [wordOfRun, if_pos hshort, lower_of_plain h.plain, String.ofList_toList]
  rw [words, hruns]
  simp [hword]

namespace Criterion

/-- **A word is asked for as such.** -/
theorem parse_of_plain {w : String} (h : IsPlainWord w) : parse w = .ok (.term .text w) := by
  have hexpression : Expression.parse? w = some (.literal none w) := by
    have hparse := Expression.parse?_of_plain h.plain h.ne_nil
    rwa [String.ofList_toList] at hparse
  have hcriterion : ofExpression (.literal none w) = .ok (.term .text w) := by
    rw [ofExpression, ofLiteral, words_of_plain h]
  rw [parse, hexpression]
  simp only [hcriterion]
  rfl

/-- A document is met by a word that it mentions. -/
theorem accepts_term_iff {corpus : Corpus} {r : Request} {w : String} :
    accepts corpus (.ofRequest r) (.term .text w) = true ↔ Mentions r.document w := by
  rw [mentions_iff, accepts, bne_iff_ne, Profile.frequency, Profile.ofRequest, ne_eq,
    List.countP_eq_zero, List.mem_map]
  simp

end Criterion

theorem Language.read_of_plain {w : String} (h : IsPlainWord w) :
    standard.read w = .ok (.term .text w) := by
  have hblank : Text.isAllBlank w.toList = false := by
    obtain ⟨c, rest, hcs⟩ := List.exists_cons_of_ne_nil h.ne_nil
    have hc := meansItself_of_plain (h.plain c (by rw [hcs]; exact List.mem_cons_self))
    rw [Text.isAllBlank, hcs, List.all_cons, hc.notBlank, Bool.false_and]
  have hparse : standard.parse w = .ok (.term .text w) := by
    simp only [standard, Criterion.parse_of_plain h]
    rfl
  rw [read, hblank, hparse]
  rfl

/-! ## 2. Hits -/

/-- A hit shows a document as it is read back. -/
def Hit.Shows (h : Hit) (r : Request) : Prop :=
  h.kind = r.kind ∧ h.id = r.id ∧ Index.stored r = .ok h.document

/-- The text that a document is stored as can be read back. -/
def Index.Readable (r : Request) : Prop := ∃ v, stored r = .ok v

theorem Index.readable_iff {r : Request} :
    Readable r ↔ (Json.parse? r.document.text).isSome = true := by
  rw [Readable, stored]
  cases Json.parse? r.document.text <;> simp

instance (r : Request) : Decidable (Index.Readable r) := decidable_of_iff _ Index.readable_iff.symm

/-- The text of a document whose numbers are read back is read where it is not nested too deep. -/
theorem Index.readable_iff_depth_le {r : Request} (hs : r.document.Sorted)
    (hn : r.document.NumbersReadBack) : Readable r ↔ r.document.depth ≤ Json.maxDepth :=
  readable_iff.trans (Json.isSome_parse?_text_iff hs hn)

/-- Reading back fails in one way. -/
theorem Index.stored_eq_error {r : Request} {f : Failure} (h : stored r = .error f) :
    f = .malformedJson := by
  rw [stored] at h
  split at h
  · cases h
  · exact (Except.error.inj h).symm

/-- Hits show just the documents of an index, each once. -/
def Index.ShownBy (x : Index) (hits : List Hit) : Prop :=
  ∃ found : List Request, found.Perm x ∧ List.Forall₂ Hit.Shows hits found

/-- Hits for documents that are read back as they were are those documents. -/
theorem Index.ShownBy.documents {x : Index} {hits : List Hit} (h : x.ShownBy hits)
    (hx : ∀ r ∈ x, stored r = .ok r.document) :
    (hits.map fun h => (h.kind, h.id, h.document)).Perm
      (x.map fun r => (r.kind, r.id, r.document)) := by
  obtain ⟨found, hperm, hshows⟩ := h
  have hfound : ∀ r ∈ found, stored r = .ok r.document := fun r hr => hx r (hperm.mem_iff.mp hr)
  refine .trans (.of_eq ?_) (hperm.map _)
  clear hperm
  induction hshows with
  | nil => rfl
  | @cons hit r _ _ hshow _ ih =>
      obtain ⟨hkind, hid, hdocument⟩ := hshow
      have hsame : hit.document = r.document := by
        rw [hfound r List.mem_cons_self] at hdocument
        exact (Except.ok.inj hdocument).symm
      rw [List.map_cons, List.map_cons, ih fun s hs => hfound s (List.mem_cons_of_mem r hs),
        hkind, hid, hsame]

section Hits

variable {ranked : List (Float32 × Request)} {hits : List Hit}

theorem shows_of_ofScored {s : Float32 × Request} {h : Hit} (hs : Hit.ofScored s = .ok h) :
    h.Shows s.2 := by
  obtain ⟨v, hv, rfl⟩ := exists_of_map_eq_ok hs
  exact ⟨rfl, rfl, hv⟩

theorem forall₂_shows_of_mapM (h : ranked.mapM Hit.ofScored = .ok hits) :
    List.Forall₂ Hit.Shows hits (ranked.map (·.2)) := by
  rw [mapM_eq_ok_iff] at h
  induction ranked generalizing hits with
  | nil =>
      obtain rfl := List.map_eq_nil_iff.mp h.symm
      exact .nil
  | cons s rest ih =>
      cases hits with
      | nil => cases h
      | cons first more =>
          obtain ⟨hfirst, hmore⟩ := List.cons.inj h
          exact .cons (shows_of_ofScored hfirst) (ih hmore)

/-- Where every document can be read back there are hits. -/
theorem exists_hits (h : ∀ r ∈ ranked.map (·.2), Index.Readable r) :
    ∃ hits, ranked.mapM Hit.ofScored = .ok hits ∧ List.Forall₂ Hit.Shows hits (ranked.map (·.2)) := by
  have heach : ∀ s ∈ ranked, ∃ hit, Hit.ofScored s = .ok hit := fun s hs => by
    obtain ⟨v, hv⟩ := h s.2 (List.mem_map_of_mem hs)
    exact ⟨⟨s.1, s.2.kind, s.2.id, v⟩, by rw [Hit.ofScored, hv]; rfl⟩
  obtain ⟨hits, hhits⟩ := exists_mapM_eq_ok_iff.mpr heach
  exact ⟨hits, hhits, forall₂_shows_of_mapM hhits⟩

/-- Where one cannot be there are none. -/
theorem mapM_of_unreadable (h : ¬ ∀ r ∈ ranked.map (·.2), Index.Readable r) :
    ranked.mapM Hit.ofScored = .error .malformedJson := by
  cases hanswer : ranked.mapM Hit.ofScored with
  | ok hits =>
      refine absurd (fun r hr => ?_) h
      obtain ⟨s, hs, rfl⟩ := List.mem_map.mp hr
      obtain ⟨hit, hhit⟩ := exists_mapM_eq_ok_iff.mp ⟨hits, hanswer⟩ s hs
      exact ⟨hit.document, (shows_of_ofScored hhit).2.2⟩
  | error f =>
      obtain ⟨s, -, hs⟩ := exists_mem_of_mapM_eq_error hanswer
      rw [Hit.ofScored] at hs
      cases hstored : Index.stored s.2 with
      | ok v =>
          rw [hstored] at hs
          cases hs
      | error g =>
          rw [hstored] at hs
          rw [← Except.error.inj hs, Index.stored_eq_error hstored]

end Hits

/-! ## 3. Searches -/

/-- The documents of an index that meet a criterion. -/
def Index.matching (x : Index) (c : Criterion) : Index :=
  x.filter fun r => c.accepts x.corpus (.ofRequest r)

/-- **A search with room for all ranks the documents that meet its criterion**, each once. -/
theorem Index.search_matching (x : Index) (c : Criterion) {limit : Nat} (hroom : x.length ≤ limit) :
    ∃ ranked : List (Float32 × Request), (ranked.map (·.2)).Perm (x.matching c) ∧
      x.search c limit = ranked.mapM Hit.ofScored := by
  have hscored : (scored x c).map (·.2) = x.matching c := by
    simp only [scored, matching, corpus, List.filter_map, List.map_map]
    have hsame : (Prod.snd ∘ (fun p : Profile => (c.score (x.map .ofRequest) p 1.0, p.request)) ∘
        Profile.ofRequest) = id := rfl
    rw [hsame, List.map_id]
    rfl
  have hlength : (scored x c).length ≤ limit := by
    have hmap := congrArg List.length hscored
    rw [List.length_map] at hmap
    exact hmap ▸ (List.length_filter_le _ x).trans hroom
  have hall : ((scored x c).mergeSort fun a b => decide (b.1 ≤ a.1)).take limit =
      (scored x c).mergeSort fun a b => decide (b.1 ≤ a.1) :=
    List.take_of_length_le (by rwa [List.length_mergeSort])
  have hperm : (((scored x c).mergeSort fun a b => decide (b.1 ≤ a.1)).map (·.2)).Perm
      (x.matching c) := by
    rw [← hscored]
    exact (List.mergeSort_perm _ _).map _
  exact ⟨_, hperm, by rw [Index.search, hall]⟩

namespace IndexDirectory

section Searching

variable {d : IndexDirectory} {n : Nat} {e : Engine} {language : Language} {text : String}
  {c : Criterion} {limit : Nat} (hopen : d.engine? n = some e) (hc : language.read text = .ok c)
  (kind : Option Kind) (hpos : 1 ≤ limit) (hroom : d.published.length ≤ limit)
include hopen hc hpos

/-- A text that spells a criterion is searched for in what is published. -/
theorem search_of_read : (d.search n text kind limit language).1 =
    match d.published.search (c.narrow kind) limit with
    | .ok hits => .ok hits
    | .error f => .error (.failure f) := by
  have hzero : limit ≠ 0 := by omega
  rw [search, hc]
  simp only [if_neg hzero, view_refresh hopen]
  cases d.published.search (c.narrow kind) limit <;> rfl

include hroom

/-- Where each document that meets the criterion can be read back, these are shown. -/
theorem search_shows_matching (h : ∀ r ∈ d.published.matching (c.narrow kind), Index.Readable r) :
    ∃ hits, (d.search n text kind limit language).1 = .ok hits ∧
      (d.published.matching (c.narrow kind)).ShownBy hits := by
  obtain ⟨ranked, hperm, hsearch⟩ := d.published.search_matching (c.narrow kind) hroom
  obtain ⟨hits, hhits, hshows⟩ := exists_hits fun r hr => h r (hperm.mem_iff.mp hr)
  refine ⟨hits, ?_, _, hperm, hshows⟩
  rw [search_of_read hopen hc kind hpos, hsearch, hhits]

/-- Where one cannot be, nothing is. -/
theorem search_shows_nothing (h : ∃ r ∈ d.published.matching (c.narrow kind), ¬ Index.Readable r) :
    (d.search n text kind limit language).1 = .error (.failure .malformedJson) := by
  obtain ⟨r, hr, hunreadable⟩ := h
  obtain ⟨ranked, hperm, hsearch⟩ := d.published.search_matching (c.narrow kind) hroom
  have hanswer := mapM_of_unreadable fun hall => hunreadable (hall r (hperm.mem_iff.mpr hr))
  rw [search_of_read hopen hc kind hpos, hsearch, hanswer]

end Searching

end IndexDirectory

/-! ## 4. Searches for a word -/

/-- The documents of an index that mention a word. -/
def Index.mentioning (x : Index) (w : String) : Index := x.filter fun r => Mentions r.document w

/-- They are those that meet the word. -/
theorem Index.matching_term (x : Index) (w : String) :
    x.matching (.term .text w) = x.mentioning w := by
  refine List.filter_congr fun r _ => ?_
  rw [← Bool.decide_coe (Criterion.accepts _ _ _)]
  exact decide_eq_decide.mpr Criterion.accepts_term_iff

namespace IndexDirectory

section Words

variable {d : IndexDirectory} {n : Nat} {e : Engine} {w : String} {limit : Nat}
  (hopen : d.engine? n = some e) (hw : IsPlainWord w) (hpos : 1 ≤ limit)
  (hroom : d.published.length ≤ limit)
include hopen hw hpos hroom

theorem search_of_readable (h : ∀ r ∈ d.published.mentioning w, Index.Readable r) :
    ∃ hits, (d.search n w none limit).1 = .ok hits ∧ (d.published.mentioning w).ShownBy hits := by
  rw [← Index.matching_term] at h ⊢
  exact search_shows_matching hopen (Language.read_of_plain hw) none hpos hroom h

theorem search_of_unreadable (h : ∃ r ∈ d.published.mentioning w, ¬ Index.Readable r) :
    (d.search n w none limit).1 = .error (.failure .malformedJson) := by
  rw [← Index.matching_term] at h
  exact search_shows_nothing hopen (Language.read_of_plain hw) none hpos hroom h

/-- **Every word is found where it is mentioned, and nowhere else.** Whatever came before, an open
    engine that searches for a word of letters and digits, with room for all documents, gives a hit
    for each live document that mentions it, and no other, if the text of each of these can be read
    back; and if that of one cannot be, the search fails. Where numbers are read back, the hits are
    the documents themselves, and there are hits just if no document that mentions the word is
    nested too deep. -/
theorem search_finds_mentioning :
    ((∀ r ∈ d.published.mentioning w, Index.Readable r) →
      ∃ hits, (d.search n w none limit).1 = .ok hits ∧ (d.published.mentioning w).ShownBy hits) ∧
    ((∃ r ∈ d.published.mentioning w, ¬ Index.Readable r) →
      (d.search n w none limit).1 = .error (.failure .malformedJson)) ∧
    ((∀ r ∈ d.published.mentioning w, r.document.Sorted ∧ r.document.NumbersReadBack) →
      if ∀ r ∈ d.published.mentioning w, r.document.depth ≤ Json.maxDepth then
        ∃ hits, (d.search n w none limit).1 = .ok hits ∧
          (hits.map fun h => (h.kind, h.id, h.document)).Perm
            ((d.published.mentioning w).map fun r => (r.kind, r.id, r.document))
      else (d.search n w none limit).1 = .error (.failure .malformedJson)) := by
  refine ⟨search_of_readable hopen hw hpos hroom, search_of_unreadable hopen hw hpos hroom,
    fun hsteady => ?_⟩
  split
  · rename_i hshallow
    have hstored : ∀ r ∈ d.published.mentioning w, Index.stored r = .ok r.document := fun r hr =>
      Index.stored_eq (hsteady r hr).1 (hsteady r hr).2 (hshallow r hr)
    obtain ⟨hits, hhits, hshown⟩ := search_of_readable hopen hw hpos hroom fun r hr =>
      ⟨_, hstored r hr⟩
    exact ⟨hits, hhits, hshown.documents hstored⟩
  · rename_i hdeep
    simp only [not_forall] at hdeep
    obtain ⟨r, hr, hdepth⟩ := hdeep
    have hunreadable := mt (Index.readable_iff_depth_le (hsteady r hr).1 (hsteady r hr).2).mp hdepth
    exact search_of_unreadable hopen hw hpos hroom ⟨r, hr, hunreadable⟩

end Words

/-- Documents with a word in their names, in a key, in a run of letters, and in a name that was
    replaced. -/
def mentioningSteps : List (List Request × Fate) :=
  let project (id : String) (fields : Fields) : Request := ⟨"mc", .project, id, .obj fields⟩
  [([project "p-1" [("name", .str "an Alloy-2")], project "p-2" [("alloy", .bool true)],
      project "p-3" [("name", .str "alloy")]], .taken),
    ([project "p-3" [("name", .str "weld")], project "p-4" [("name", .str "alloys"),
      ("runs", .arr [.ofNat 3, .obj [("of", .str "alloy")]])]], .taken)]

theorem search_finds_mentioningSteps :
    let d := (((ofIndex []).openEngine leastThreadMemory).2.submitEach 0 mentioningSteps).2
    d.engine? 0 = some ⟨mostThreads, leastThreadMemory, d.published⟩ ∧ IsPlainWord "alloy" ∧ 1 ≤ 4 ∧
      d.published.length ≤ 4 ∧ (d.published.mentioning "alloy").map (·.id) = ["p-1", "p-4"] ∧
      (∀ r ∈ d.published.mentioning "alloy", Index.Readable r) ∧
      ∃ hits, (d.search 0 "alloy" none 4).1 = .ok hits ∧
        (d.published.mentioning "alloy").ShownBy hits := by
  intro d
  have hopen : d.engine? 0 = some ⟨mostThreads, leastThreadMemory, d.published⟩ := rfl
  have hw : IsPlainWord "alloy" := by decide +kernel
  have hroom : d.published.length ≤ 4 := by decide +kernel
  have hreadable : ∀ r ∈ d.published.mentioning "alloy", Index.Readable r := by decide +kernel
  exact ⟨hopen, hw, by decide, hroom, by decide +kernel, hreadable,
    (search_finds_mentioning hopen hw (by decide) hroom).1 hreadable⟩

/-- A document that is nested 128 levels deep: a value of a process is a word in 125 lists. -/
def deepRequest : Request :=
  ⟨"mc", .process, "pc-1", .obj [("setup", .arr [.obj
    [("value", Nat.repeat (fun v => .arr [v]) 125 (.str "alloy"))]])]⟩

theorem numbersReadBack_deepRequest : deepRequest.document.NumbersReadBack := by
  have hlists : ∀ k, (Nat.repeat (fun v => Json.arr [v]) k (.str "alloy")).NumbersReadBack := by
    intro k
    induction k with
    | zero => trivial
    | succ k ih => exact ⟨ih, trivial⟩
  exact ⟨⟨⟨hlists 125, trivial⟩, trivial⟩, trivial⟩

/-- It cannot be read back. -/
theorem not_readable_deepRequest : ¬ Index.Readable deepRequest :=
  mt (Index.readable_iff_depth_le (by decide +kernel) numbersReadBack_deepRequest).mp
    (by decide +kernel)

theorem mentions_deepRequest : Mentions deepRequest.document "alloy" := by decide +kernel

/-- **A word is not always found where it is mentioned.** The document is taken and live, and the
    search for its word fails. -/
theorem search_deepRequest :
    let (answer, d) := ((ofIndex []).openEngine leastThreadMemory).2.submit 0 [deepRequest]
    answer = .ok 1 ∧ d.published.map Request.uid = [deepRequest.uid] ∧
      deepRequest.document.depth = 128 ∧ IsPlainWord "alloy" ∧
      (∀ r ∈ d.published, Mentions r.document "alloy") ∧
      (d.search 0 "alloy" none 10).1 = .error (.failure .malformedJson) := by
  have hw : IsPlainWord "alloy" := by decide +kernel
  refine ⟨rfl, rfl, by decide +kernel, hw, fun r hr => List.mem_singleton.mp hr ▸ mentions_deepRequest,
    search_of_unreadable rfl hw (by decide) (by decide) ⟨deepRequest, ?_, not_readable_deepRequest⟩⟩
  exact List.mem_filter.mpr ⟨List.mem_singleton_self _, decide_eq_true mentions_deepRequest⟩

end IndexDirectory

end LabIndex.Search
