import LabIndex.Proofs.Search.Finding
import Mathlib.Data.List.Perm.Basic

/-!
# Searching one kind

A search that is narrowed to a kind asks for the criterion of its text and for the kind, both of
which must be met. Whatever language the text is in and whatever the criterion is made of, and also
where it asks for nothing, everything or only for what is not there, it is met or not as a whole: the
narrowed search shows just those of the hits that are of the kind.

What can be read back is looked at among the documents that are met only. So a document of another
kind that cannot be read back makes a search fail, and not the one that is narrowed.

* `Criterion.accepts_narrow`, `Index.matching_narrow`: the documents that a narrowed search is for;
* `Index.ShownBy.filter`, `Index.ShownBy.contents_perm`: the hits for some of the documents, and that
  documents are shown in one way;
* `IndexDirectory.search_ok_iff`: when a search shows hits;
* `IndexDirectory.search_narrow_filters`: narrowed searches, with
  `IndexDirectory.search_beside_deepRequest`, one that shows hits where the wider one fails.
-/

namespace LabIndex.Search

/-! ## 1. Criteria -/

/-- A document holds the label of its kind and no other. -/
theorem Profile.frequency_kind (p : Profile) (k : Kind) :
    p.frequency .kind k.label = if p.request.kind = k then 1 else 0 := by
  have hterm : p.term? .kind = some p.request.kind.label := by
    rw [term?]
    cases p.request.kind <;> decide
  rw [frequency, hterm]
  · refine if_congr ⟨fun h => ?_, fun h => congrArg (some ∘ Kind.label) h⟩ rfl rfl
    exact Kind.label_injective (Option.some.inj h)
  · intro hfield
    cases hfield

/-- **A criterion narrowed to a kind is met by what meets it and is of the kind.** -/
theorem Criterion.accepts_narrow (corpus : Corpus) (p : Profile) (c : Criterion) (k : Kind) :
    accepts corpus p (c.narrow (some k)) = (accepts corpus p c && decide (p.request.kind = k)) := by
  have hkind : accepts corpus p (.term .kind k.label) = decide (p.request.kind = k) := by
    rw [accepts, p.frequency_kind]
    by_cases h : p.request.kind = k <;> simp [h]
  rw [narrow, accepts, tally, tally, tally, hkind]
  cases accepts corpus p c <;> cases decide (p.request.kind = k) <;> rfl

theorem Index.matching_narrow (x : Index) (c : Criterion) (k : Kind) :
    x.matching (c.narrow (some k)) = (x.matching c).filter (·.kind = k) := by
  rw [matching, matching, List.filter_filter]
  refine List.filter_congr fun r _ => ?_
  rw [Criterion.accepts_narrow, Bool.and_comm]
  rfl

/-! ## 2. Hits -/

/-- What a hit says of a document, its score aside. -/
def Hit.content (h : Hit) : Kind × String × Json := (h.kind, h.id, h.document)

namespace Index.ShownBy

variable {x : Index} {hits more : List Hit}

/-- The hits of a kind show the documents of the kind. -/
theorem filter (h : x.ShownBy hits) (k : Kind) :
    Index.ShownBy (x.filter (·.kind = k)) (hits.filter (·.kind = k)) := by
  obtain ⟨found, hperm, hshows⟩ := h
  refine ⟨found.filter (·.kind = k), hperm.filter _, List.rel_filter ?_ hshows⟩
  intro hit r hshow
  simp only [hshow.1]

/-- The hits for the same documents say the same of each. -/
theorem contents_perm (h : x.ShownBy hits) (hmore : x.ShownBy more) :
    (hits.map Hit.content).Perm (more.map Hit.content) := by
  -- reading is compared with its answer around it, which a document that was read determines
  let read (v : Kind × String × Json) : Kind × String × Except Failure Json := (v.1, v.2.1, .ok v.2.2)
  have hread : Function.Injective read := by
    rintro ⟨k, i, v⟩ ⟨l, j, w⟩ heq
    simpa [read] using heq
  have hcontent : ∀ {hits : List Hit} {found : List Request}, List.Forall₂ Hit.Shows hits found →
      (hits.map Hit.content).map read = found.map fun r => (r.kind, r.id, stored r) := by
    intro hits found hshows
    induction hshows with
    | nil => rfl
    | cons hshow _ ih =>
        obtain ⟨hkind, hid, hstored⟩ := hshow
        rw [List.map_cons, List.map_cons, List.map_cons, ih, ← hkind, ← hid, hstored]
        rfl
  obtain ⟨found, hperm, hshows⟩ := h
  obtain ⟨others, hothers, hshowsMore⟩ := hmore
  rw [← List.map_perm_map_iff hread, hcontent hshows, hcontent hshowsMore]
  exact (hperm.trans hothers.symm).map _

end Index.ShownBy

/-! ## 3. Narrowed searches -/

namespace IndexDirectory

section Narrowed

variable {d : IndexDirectory} {n : Nat} {e : Engine} {limit : Nat}

/-- A text that spells no criterion is searched for in no kind. -/
theorem search_of_fault {language : Language} {text : String} {f : QueryFault}
    (hf : language.read text = .error f) (kind : Option Kind) :
    (d.search n text kind limit language).1 = .error (.failure (.query f.message)) := by
  rw [search, hf]

variable (hopen : d.engine? n = some e) (hpos : 1 ≤ limit) (hroom : d.published.length ≤ limit)
include hopen hpos hroom

/-- A search shows hits just if each document that it is for can be read back. -/
theorem search_ok_iff {language : Language} {text : String} {c : Criterion}
    (hc : language.read text = .ok c) (kind : Option Kind) :
    (∃ hits, (d.search n text kind limit language).1 = .ok hits) ↔
      ∀ r ∈ d.published.matching (c.narrow kind), Index.Readable r := by
  constructor
  · rintro ⟨hits, hhits⟩ r hr
    by_contra hunreadable
    rw [search_shows_nothing hopen hc kind hpos hroom ⟨r, hr, hunreadable⟩] at hhits
    cases hhits
  · intro hreadable
    obtain ⟨hits, hhits, -⟩ := search_shows_matching hopen hc kind hpos hroom hreadable
    exact ⟨hits, hhits⟩

/-- The hits of a search are for the documents that it is for. -/
theorem shownBy_of_search {language : Language} {text : String} {c : Criterion}
    (hc : language.read text = .ok c) {kind : Option Kind} {hits : List Hit}
    (hhits : (d.search n text kind limit language).1 = .ok hits) :
    (d.published.matching (c.narrow kind)).ShownBy hits := by
  have hreadable := (search_ok_iff hopen hpos hroom hc kind).mp ⟨hits, hhits⟩
  obtain ⟨shown, hanswer, hshown⟩ := search_shows_matching hopen hc kind hpos hroom hreadable
  obtain rfl : shown = hits := Except.ok.inj (hanswer.symm.trans hhits)
  exact hshown

/-- **A search that is narrowed to a kind shows the hits that are of the kind**, in any language.
    Whatever came before, let an open engine search for a text with room for all documents, in all
    kinds and in one. If the text spells no criterion both searches fail alike. Otherwise each shows
    hits just if every live document that it is for can be read back; so if all that meet the
    criterion can be, the one fails just if the other does. And wherever the wide search shows hits,
    the narrow one shows those of them that are of the kind, and no others. -/
theorem search_narrow_filters (language : Language) (text : String) (k : Kind) :
    (∀ f, language.read text = .error f → ∀ kind,
      (d.search n text kind limit language).1 = .error (.failure (.query f.message))) ∧
    (∀ c, language.read text = .ok c →
      ((∃ hits, (d.search n text none limit language).1 = .ok hits) ↔
        ∀ r ∈ d.published.matching c, Index.Readable r) ∧
      ((∃ hits, (d.search n text (some k) limit language).1 = .ok hits) ↔
        ∀ r ∈ d.published.matching c, r.kind = k → Index.Readable r)) ∧
    ((∀ c, language.read text = .ok c → ∀ r ∈ d.published.matching c, Index.Readable r) →
      ((∃ f, (d.search n text (some k) limit language).1 = .error f) ↔
        ∃ f, (d.search n text none limit language).1 = .error f)) ∧
    (∀ hits, (d.search n text none limit language).1 = .ok hits →
      ∃ narrowed, (d.search n text (some k) limit language).1 = .ok narrowed ∧
        (narrowed.map Hit.content).Perm ((hits.filter (·.kind = k)).map Hit.content)) := by
  cases hparse : language.read text with
  | error fault =>
      have hfault : ∀ kind,
          (d.search n text kind limit language).1 = .error (.failure (.query fault.message)) :=
        search_of_fault hparse
      refine ⟨fun f hf kind => ?_, fun c hc => ?_, fun _ => ?_, fun hits hhits => ?_⟩
      · rw [hfault kind, Except.error.inj hf]
      · cases hc
      · exact iff_of_true ⟨_, hfault (some k)⟩ ⟨_, hfault none⟩
      · rw [hfault none] at hhits
        cases hhits
  | ok c =>
      have hwide := search_ok_iff hopen hpos hroom hparse none
      have hnarrow : (∃ hits, (d.search n text (some k) limit language).1 = .ok hits) ↔
          ∀ r ∈ d.published.matching c, r.kind = k → Index.Readable r := by
        rw [search_ok_iff hopen hpos hroom hparse (some k), Index.matching_narrow]
        simp only [List.mem_filter, decide_eq_true_eq, and_imp]
      refine ⟨fun f hf => ?_, fun c' hc => ?_, fun hreadable => ?_, fun hits hhits => ?_⟩
      · cases hf
      · obtain rfl := Except.ok.inj hc
        exact ⟨hwide, hnarrow⟩
      · obtain ⟨hits, hhits⟩ := hwide.mpr (hreadable c rfl)
        obtain ⟨narrowed, hnarrowed⟩ := hnarrow.mpr fun r hr _ => hreadable c rfl r hr
        rw [hhits, hnarrowed]
        simp
      · have hshown := shownBy_of_search hopen hpos hroom hparse hhits
        obtain ⟨narrowed, hnarrowed⟩ := hnarrow.mpr fun r hr _ => hwide.mp ⟨hits, hhits⟩ r hr
        have hshownNarrow := shownBy_of_search hopen hpos hroom hparse hnarrowed
        rw [Index.matching_narrow] at hshownNarrow
        exact ⟨narrowed, hnarrowed, hshownNarrow.contents_perm (hshown.filter k)⟩

end Narrowed

/-- Documents of two kinds with one word, the other or both. -/
def alloyRequests : List Request :=
  let named (kind : Kind) (id name : String) : Request := ⟨"mc", kind, id, .obj [("name", .str name)]⟩
  [named .project "p-1" "alloy", named .project "p-2" "an alloy with a weld",
    named .sample "s-1" "an alloy", named .sample "s-2" "weld"]

/-- A word of the text field within bounds. -/
def wordBetween (low high : String) : Form where
  accepts _ p := p.words.any fun w => decide (low ≤ w.text) && decide (w.text ≤ high)
  score _ _ weight := weight

/-- The language of the expressions with a range of words in it. -/
def rangeLanguage : Language where
  parse text :=
    if text = "text:[alloy TO coupon]" then .ok (.other (wordBetween "alloy" "coupon"))
    else Language.standard.parse text

/-- Searches in two languages, each with the documents that it is for. -/
def alloySearches : List (Language × String × List String) :=
  [(.standard, "alloy -weld", ["p-1", "s-1"]),
    (rangeLanguage, "text:[alloy TO coupon]", ["p-1", "p-2", "s-1"])]

theorem search_narrow_alloyRequests :
    let d := (((ofIndex []).openEngine leastThreadMemory).2.submit 0 alloyRequests).2
    d.engine? 0 = some ⟨mostThreads, leastThreadMemory, d.published⟩ ∧ 1 ≤ 4 ∧
      d.published.length ≤ 4 ∧
      ∀ s ∈ alloySearches, ((s.1.read s.2.1).toOption.map fun c =>
          (d.published.matching c).map (·.id)) = some s.2.2 ∧
        ∃ hits narrowed, (d.search 0 s.2.1 none 4 s.1).1 = .ok hits ∧
          (d.search 0 s.2.1 (some .sample) 4 s.1).1 = .ok narrowed ∧
          (narrowed.map Hit.content).Perm ((hits.filter (·.kind = .sample)).map Hit.content) := by
  intro d
  have hopen : d.engine? 0 = some ⟨mostThreads, leastThreadMemory, d.published⟩ := rfl
  have hroom : d.published.length ≤ 4 := by decide +kernel
  have hreadable : ∀ r ∈ d.published, Index.Readable r := by decide +kernel
  refine ⟨hopen, by decide, hroom, fun s hs => ?_⟩
  have hmet : ((s.1.read s.2.1).toOption.map fun c =>
      (d.published.matching c).map (·.id)) = some s.2.2 := by
    simp only [alloySearches, List.mem_cons, List.not_mem_nil, or_false] at hs
    rcases hs with rfl | rfl <;> decide +kernel
  obtain ⟨c, hc, -⟩ := Option.map_eq_some_iff.mp hmet
  obtain ⟨-, hshown, -, hfilters⟩ :=
    search_narrow_filters hopen (by decide) hroom s.1 s.2.1 .sample
  obtain ⟨hits, hhits⟩ := (hshown c (toOption_eq_some_iff.mp hc)).1.mpr fun r hr =>
    hreadable r (List.mem_of_mem_filter hr)
  obtain ⟨narrowed, hnarrowed, hperm⟩ := hfilters hits hhits
  exact ⟨hmet, hits, narrowed, hhits, hnarrowed, hperm⟩

/-- A document of another kind with the word of the one that is nested too deep. -/
def shallowRequest : Request := ⟨"mc", .project, "p-1", .obj [("name", .str "alloy")]⟩

/-- **A narrowed search can show hits where the wide one fails.** Both documents are taken and live,
    and the one that is nested too deep is not of the kind. -/
theorem search_beside_deepRequest :
    let opened := ((ofIndex []).openEngine leastThreadMemory).2
    let d := (opened.submit 0 [deepRequest, shallowRequest]).2
    (opened.submit 0 [deepRequest, shallowRequest]).1 = .ok 2 ∧
      d.published = [deepRequest, shallowRequest] ∧ deepRequest.document.depth = 128 ∧
      (d.search 0 "alloy" none 10).1 = .error (.failure .malformedJson) ∧
      ∃ hits, (d.search 0 "alloy" (some .project) 10).1 = .ok hits ∧
        hits.map Hit.content = [(.project, "p-1", shallowRequest.document)] := by
  intro opened d
  have hopen : d.engine? 0 = some ⟨mostThreads, leastThreadMemory, d.published⟩ := rfl
  have hpublished : d.published = [deepRequest, shallowRequest] := rfl
  have hw : IsPlainWord "alloy" := by decide +kernel
  have hmentioning : d.published.mentioning "alloy" = [deepRequest, shallowRequest] := by
    have hshallow : Mentions shallowRequest.document "alloy" := by decide +kernel
    rw [hpublished, Index.mentioning, List.filter_eq_self]
    simp [mentions_deepRequest, hshallow]
  have hnarrow : d.published.matching (.narrow (some .project) (.term .text "alloy")) =
      [shallowRequest] := by
    rw [Index.matching_narrow, Index.matching_term, hmentioning]
    rfl
  have hstored : Index.stored shallowRequest = .ok shallowRequest.document :=
    Index.stored_eq (by decide +kernel) ⟨trivial, trivial⟩ (by decide +kernel)
  have hreadable : ∀ r ∈ d.published.matching (.narrow (some .project) (.term .text "alloy")),
      Index.Readable r := by
    rw [hnarrow]
    rintro r hr
    obtain rfl := List.mem_singleton.mp hr
    exact ⟨_, hstored⟩
  obtain ⟨hits, hhits, hshown⟩ := search_shows_matching hopen (Language.read_of_plain hw)
    (some .project) (by decide) (by decide +kernel : d.published.length ≤ 10) hreadable
  refine ⟨rfl, hpublished, by decide +kernel, ?_, hits, hhits, ?_⟩
  · refine search_of_unreadable hopen hw (by decide) (by decide +kernel)
      ⟨deepRequest, ?_, not_readable_deepRequest⟩
    rw [hmentioning]
    exact List.mem_cons_self
  · rw [hnarrow] at hshown
    exact List.perm_singleton.mp (hshown.documents (by simpa using hstored))

end IndexDirectory

end LabIndex.Search
