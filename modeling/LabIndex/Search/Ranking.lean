import LabIndex.Search.Index
import LabIndex.Search.Matching

/-!
# Ranking

How well a document meets a criterion, in single precision. A word counts the more the fewer
documents hold it, the more often the document does and the shorter the document is; lengths are
rounded down to a coarse scale. The scores of the parts are added up.

* `Criterion.score`: the score of a document that meets a criterion;
* `Index.search`: the best documents, the older first among equals.
-/

namespace LabIndex.Search

/-! ## 1. Lengths -/

/-- Rounds down on a scale of runs of eight steps, each run with steps twice as wide as the one
    before. The first argument bounds the runs. -/
def roundRuns : Nat → Nat → Nat → Nat → Nat
  | 0, low, _, _ => low
  | fuel + 1, low, step, n =>
    if low + 8 * step ≤ n then roundRuns fuel (low + 8 * step) (2 * step) n
    else low + step * ((n - low) / step)

/-- A length on the scale of lengths, exact up to forty. -/
def roundLength (n : Nat) : Nat := if n ≤ 40 then n else roundRuns 32 40 2 n

/-! ## 2. Scores -/

/-- How fast further occurrences lose weight. -/
def saturation : Float32 := 1.2

/-- How much the length of a document counts. -/
def lengthWeight : Float32 := 0.75

/-- The weight of a word that is in `n` of `total` documents. -/
def rarity (n total : Nat) : Float32 :=
  let ratio := (Float32.ofNat (total - n) + 0.5) / (Float32.ofNat n + 0.5)
  Float32.log (1.0 + ratio)

namespace Corpus

/-- The number of documents that hold a word in a field. -/
def holding (c : Corpus) (field : Field) (word : String) : Nat :=
  c.countP fun p => p.frequency field word != 0

/-- The mean number of terms in a field. -/
def meanSize (c : Corpus) (field : Field) : Float32 :=
  Float32.ofNat (c.foldl (fun n p => n + p.size field) 0) / Float32.ofNat c.length

/-- The rarity of a word. -/
def rarityOf (c : Corpus) (field : Field) (word : String) : Float32 :=
  rarity (c.holding field word) c.length

/-- The score for a number of occurrences in a document, given the rarity of what occurs and the
    weight of the criterion. -/
def occurrenceScore (c : Corpus) (field : Field) (p : Profile) (rare weight : Float32)
    (times : Nat) : Float32 :=
  let n := Float32.ofNat times
  let size := Float32.ofNat (roundLength (p.size field))
  let norm := saturation * (1.0 - lengthWeight + lengthWeight * size / c.meanSize field)
  rare * (1.0 + saturation) * weight * (n / (n + norm))

end Corpus

/-- A factor in single precision. -/
def singleFactor (x : Decimal.Double) : Float32 := (Float.ofBits x.bits).toFloat32

namespace Criterion

mutual

/-- The score of a document that meets a criterion of some weight. -/
def score (corpus : Corpus) (p : Profile) (weight : Float32) : Criterion → Float32
  | .all => weight
  | .term field word =>
    corpus.occurrenceScore field p (corpus.rarityOf field word) weight (p.frequency field word)
  | .phrase words =>
    let rare := words.foldl (fun sum w => sum + corpus.rarityOf .text w.text) 0.0
    corpus.occurrenceScore .text p rare weight (p.occurrences words)
  | .boost inner factor => score corpus p (weight * singleFactor factor) inner
  | .list operands =>
    addScores corpus p weight .must 0.0 operands + addScores corpus p weight .should 0.0 operands
  | .other form => form.score corpus p weight

/-- A sum to which the scores of the operands that play a part and are met are added, in order. -/
def addScores (corpus : Corpus) (p : Profile) (weight : Float32) (part : Occur) (sum : Float32) :
    List (Occur × Criterion) → Float32
  | [] => sum
  | (occur, c) :: rest =>
    let sum := if occur = part && accepts corpus p c then sum + score corpus p weight c else sum
    addScores corpus p weight part sum rest

end

end Criterion

/-! ## 3. Hits -/

/-- A document found. -/
structure Hit where
  score : Float32
  kind : Kind
  id : String
  document : Json

namespace Hit

/-- The score as a double, which holds it exactly. -/
def scoreValue (h : Hit) : Decimal.Double := ⟨h.score.toFloat.toBits⟩

/-- The score with two places. -/
def scoreText (h : Hit) : String :=
  if h.scoreValue.isFinite then h.scoreValue.fixed 2
  else if h.scoreValue.fractionField = 0 then "inf"
  else "NaN"

/-- The score as a value, with the digits that single precision needs. -/
def scoreJson (h : Hit) : Json :=
  if h.scoreValue.isFinite then .num (.double (.ofSingle h.scoreValue)) else .null

end Hit

/-- The documents of an index with what a search looks at. -/
def Index.corpus (x : Index) : Corpus := x.map Profile.ofRequest

/-- The documents that meet a criterion with their scores, in order. -/
def scored (x : Index) (c : Criterion) : List (Float32 × Request) :=
  let corpus := x.corpus
  (corpus.filter fun p => c.accepts corpus p).map fun p => (c.score corpus p 1.0, p.request)

/-- The hit for a scored document. -/
def Hit.ofScored (s : Float32 × Request) : Except Failure Hit :=
  (Index.stored s.2).map fun v => ⟨s.1, s.2.kind, s.2.id, v⟩

/-- The best documents that meet a criterion. -/
def Index.search (x : Index) (c : Criterion) (limit : Nat) : Except Failure (List Hit) :=
  (((scored x c).mergeSort fun a b => decide (b.1 ≤ a.1)).take limit).mapM Hit.ofScored

end LabIndex.Search
