import LabIndex.Content.Extraction
import LabIndex.Proofs.Text.Decoding

/-!
# What is taken from a file

The text of a plain text is read up to the cap and not a byte further, and that of a table of
comma-separated values up to the newline that ends its first data line. What comes behind, be it
bytes or a failure of reading, does not show.

* `Extractor.Opens`: the file of an identifier is located and opens;
* `FileData.Reads`: contents can be read up to a number of bytes;
* `Extractor.text_plain_capped`: the text of a plain text;
* `FileData.lines`: the lines of contents, by splitting them at newlines;
* `readDataLine_eq`: reading line by line finds the first of these with data. The induction is on the
  bytes yet to be read, and what is held of the current line has no newline;
* `Extractor.text_csv_firstLine`: the text of a table.
-/

namespace LabIndex

open Text (Bytes)

/-! ## 1. Files that open -/

namespace Extractor

variable {x : Extractor} {id : String} {data : FileData}

/-- The identifier is valid, and the file where its bytes are located opens, with these contents. -/
def Opens (x : Extractor) (id : String) (data : FileData) : Prop :=
  ∃ path, x.store.locate (fun p => (x.bytes p).isSome) (.of id "") = .ok path ∧
    x.bytes path = some (.readable data)

theorem sourcePath_eq_some_iff {path : Path} :
    x.sourcePath id = some path ↔
      x.store.locate (fun p => (x.bytes p).isSome) (.of id "") = .ok path := by
  rw [sourcePath]
  cases x.store.locate (fun p => (x.bytes p).isSome) (.of id "") <;> simp

theorem fileData_eq_some_iff : x.fileData id = some data ↔ x.Opens id data := by
  have hread : x.fileData id = some data ↔
      (x.sourcePath id).bind x.bytes = some (.readable data) := by
    rw [fileData]
    split
    · rename_i found hfound
      rw [hfound]
      simp
    · rename_i hnot
      exact ⟨nofun, fun h => absurd h (hnot data)⟩
  rw [hread, Option.bind_eq_some_iff]
  simp only [sourcePath_eq_some_iff, Opens]

end Extractor

/-! ## 2. Plain texts -/

/-- The first `n` bytes of contents, or all of them if there are fewer, can be read. -/
def FileData.Reads (data : FileData) (n : Nat) : Prop := data.fails = true → n ≤ data.bytes.length

theorem readUpTo_of_reads {data : FileData} {n : Nat} (h : data.Reads n) :
    readUpTo n data = some (data.bytes.take n) := by
  rw [readUpTo, if_neg]
  intro hfails
  obtain ⟨hfails, hlt⟩ := Bool.and_eq_true_iff.mp hfails
  have hle := h hfails
  have hlt := of_decide_eq_true hlt
  omega

theorem readUpTo_of_not_reads {data : FileData} {n : Nat} (h : ¬ data.Reads n) :
    readUpTo n data = none := by
  obtain ⟨hfails, hlt⟩ := not_forall.mp h
  rw [readUpTo, if_pos]
  rw [hfails, Bool.true_and, decide_eq_true_eq]
  omega

namespace Extractor

variable (x : Extractor) (id : String)

theorem text_plain_eq (size : Int) : x.text id "text/plain" size =
    if x.tooLarge size then ""
    else (((x.fileData id).bind (readUpTo x.maxBytes)).map Text.decodeLossy).getD "" := by
  rw [text, if_neg (by decide), if_pos rfl]

theorem tooLarge_eq_true_iff (size : Int) :
    x.tooLarge size = true ↔ size < 0 ∨ (x.maxBytes : Int) < size := by
  simp [tooLarge]

variable {x id}

/-- Contents that can be read up to the cap are the text, up to the cap. -/
theorem text_plain_of_opens {data : FileData} (h : x.Opens id data) (hreads : data.Reads x.maxBytes)
    {size : Int} (hsize : ¬ x.tooLarge size = true) :
    x.text id "text/plain" size = Text.decodeLossy (data.bytes.take x.maxBytes) := by
  rw [text_plain_eq, if_neg hsize, fileData_eq_some_iff.mpr h, Option.bind_some,
    readUpTo_of_reads hreads]
  rfl

/-- Where nothing can be read up to the cap there is no text. -/
theorem text_plain_of_unread (h : ∀ data, x.Opens id data → ¬ data.Reads x.maxBytes)
    (size : Int) : x.text id "text/plain" size = "" := by
  have hnone : (x.fileData id).bind (readUpTo x.maxBytes) = none := by
    rw [Option.bind_eq_none_iff]
    intro data hdata
    exact readUpTo_of_not_reads (h data (fileData_eq_some_iff.mp hdata))
  rw [text_plain_eq, hnone]
  simp

/-- Contents that agree up to the cap give the same text, whatever comes behind. -/
theorem text_plain_congr {y : Extractor} {id' : String} {data data' : FileData}
    (h : x.Opens id data) (h' : y.Opens id' data') (hcap : y.maxBytes = x.maxBytes)
    (hlen : x.maxBytes ≤ data.bytes.length) (hlen' : x.maxBytes ≤ data'.bytes.length)
    (hsame : data'.bytes.take x.maxBytes = data.bytes.take x.maxBytes) (size : Int) :
    y.text id' "text/plain" size = x.text id "text/plain" size := by
  by_cases hsize : x.tooLarge size = true
  · have hsize' : y.tooLarge size = true := by rwa [tooLarge, hcap]
    rw [text_plain_eq, if_pos hsize', text_plain_eq, if_pos hsize]
  · have hsize' : ¬ y.tooLarge size = true := by rwa [tooLarge, hcap]
    rw [text_plain_of_opens h' (fun _ => hcap ▸ hlen') hsize', hcap, hsame,
      text_plain_of_opens h (fun _ => hlen) hsize]

variable (x id)

/-- **The text of a plain text is exact up to the cap.** Outside the recorded sizes that the cap
    allows it is empty, whatever the file holds. Inside them it is what the bytes up to the cap
    decode to if these can be read, and else empty. So a file that encodes a text within the cap gives
    this text, one that encodes a longer text gives its characters as far as they fit and a mark for
    the bytes that are left of the next, and files that agree up to the cap give the same, whatever
    comes behind. -/
theorem text_plain_capped (size : Int) :
    (size < 0 ∨ (x.maxBytes : Int) < size → x.text id "text/plain" size = "") ∧
    (0 ≤ size → size ≤ x.maxBytes → ∀ data, x.Opens id data → data.Reads x.maxBytes →
      x.text id "text/plain" size = Text.decodeLossy (data.bytes.take x.maxBytes) ∧
      ∀ s, data.bytes = Text.encode s →
        (data.bytes.length ≤ x.maxBytes → x.text id "text/plain" size = s) ∧
        x.text id "text/plain" size = String.ofList (Text.fitting x.maxBytes s.toList ++
          if Text.byteLength (Text.fitting x.maxBytes s.toList) < min x.maxBytes data.bytes.length
          then ['\ufffd'] else [])) ∧
    (0 ≤ size → size ≤ x.maxBytes → (∀ data, x.Opens id data → ¬ data.Reads x.maxBytes) →
      x.text id "text/plain" size = "") ∧
    (∀ (y : Extractor) id' data data', x.Opens id data → y.Opens id' data' →
      y.maxBytes = x.maxBytes → x.maxBytes ≤ data.bytes.length → x.maxBytes ≤ data'.bytes.length →
      data'.bytes.take x.maxBytes = data.bytes.take x.maxBytes →
        y.text id' "text/plain" size = x.text id "text/plain" size) := by
  refine ⟨fun hsize => ?_, fun hnonneg hle data hopens hreads => ?_, fun _ _ hunread => ?_,
    fun y id' data data' h h' hcap hlen hlen' hsame => text_plain_congr h h' hcap hlen hlen' hsame size⟩
  · rw [text_plain_eq, if_pos ((tooLarge_eq_true_iff x size).mpr hsize)]
  · have hsize : ¬ x.tooLarge size = true := by
      rw [tooLarge_eq_true_iff]
      omega
    rw [text_plain_of_opens hopens hreads hsize]
    refine ⟨rfl, fun s hs => ⟨fun hfits => ?_, ?_⟩⟩
    · rw [List.take_of_length_le hfits, hs, Text.decodeLossy_encode]
    · rw [hs, Text.decodeLossy_take_encode]
      rfl
  · exact text_plain_of_unread hunread size

/-- One file with these contents, below one root. -/
def onFile (data : FileData) (maxBytes : Nat) : Extractor where
  store := ⟨"/data", [], []⟩
  bytes path := if path = "/data/de/fg/abc-defg-456" then some (.readable data) else none
  tool _ := .ok ""
  maxBytes

theorem opens_onFile (data : FileData) (maxBytes : Nat) :
    (onFile data maxBytes).Opens "abc-defg-456" data := by
  have hdirectory : shardDirectory "/data" "abc-defg-456" = .ok "/data/de/fg" := by decide +kernel
  have hpath : Path.join "/data/de/fg" "abc-defg-456" = "/data/de/fg/abc-defg-456" := by
    decide +kernel
  have heffective : (FileIdentity.of "abc-defg-456" "").effective = "abc-defg-456" := rfl
  refine ⟨"/data/de/fg/abc-defg-456", ?_, rfl⟩
  rw [ContentStore.locate, heffective, ContentStore.roots, ContentStore.locateIn]
  simp [onFile, hdirectory, hpath]

/-- Contents of fourteen bytes, the last four of them one character, behind which reading fails. -/
def hotReading : FileData := ⟨Text.encode "at 800℃ 🔥", true⟩

/-- A cap falls into the character, of which a mark is left. -/
theorem text_plain_hotReading :
    (onFile hotReading 12).Opens "abc-defg-456" hotReading ∧ hotReading.Reads 12 ∧
      (onFile hotReading 12).text "abc-defg-456" "text/plain" 3 = "at 800℃ \ufffd" ∧
      ∀ (y : Extractor) id' data', y.Opens id' data' → y.maxBytes = 12 → 12 ≤ data'.bytes.length →
        data'.bytes.take 12 = hotReading.bytes.take 12 →
          y.text id' "text/plain" 3 = "at 800℃ \ufffd" := by
  have hopens := opens_onFile hotReading 12
  have hlength : 12 ≤ hotReading.bytes.length := by decide +kernel
  obtain ⟨-, htext, -, hbehind⟩ := text_plain_capped (onFile hotReading 12) "abc-defg-456" 3
  have hcapped := (htext (by decide) (by decide) hotReading hopens fun _ => hlength).1
  have hdecoded : Text.decodeLossy (hotReading.bytes.take 12) = "at 800℃ \ufffd" := by
    decide +kernel
  refine ⟨hopens, fun _ => hlength, hcapped.trans hdecoded, fun y id' data' h' hcap hlen' hsame => ?_⟩
  exact (hbehind y id' hotReading data' hopens h' hcap hlength hlen' hsame).trans
    (hcapped.trans hdecoded)

end Extractor

/-! ## 3. Tables -/

/-- A line with data. -/
def HasData (line : Bytes) : Prop := line ≠ [] ∧ line.head? ≠ some 35

instance : DecidablePred HasData := fun line =>
  inferInstanceAs (Decidable (line ≠ [] ∧ line.head? ≠ some 35))

theorem isDataLine_eq (line : Bytes) : isDataLine line = decide (HasData line) := by
  rw [Bool.eq_iff_iff, decide_eq_true_iff]
  simp [isDataLine, HasData]

/-- The lines that newlines end, each without one carriage return before its newline. -/
def endedLines (bytes : Bytes) : List Bytes := (bytes.splitOn 10).dropLast.map dropReturn

/-- The bytes after the last newline. -/
def openLine (bytes : Bytes) : Bytes := (bytes.splitOn 10).getLast (List.splitOn_ne_nil 10 bytes)

/-- The lines of contents, as far as they can be read: the last one has no newline, and is there if
    the file ends and reading it does not fail. -/
def FileData.lines (data : FileData) : List Bytes :=
  endedLines data.bytes ++ if data.fails then [] else [openLine data.bytes]

section Lines

variable {front : Bytes}

theorem splitOn_of_not_mem (h : 10 ∉ front) : front.splitOn 10 = [front] :=
  List.splitOnP_eq_singleton fun b hb => by simpa using fun e : b = 10 => h (e ▸ hb)

theorem splitOn_newline (front rest : Bytes) :
    (front ++ 10 :: rest).splitOn 10 = front.splitOn 10 ++ rest.splitOn 10 :=
  List.splitOnP_append_cons front rest (beq_self_eq_true 10)

theorem endedLines_newline (front : Bytes) :
    endedLines (front ++ [10]) = (front.splitOn 10).map dropReturn := by
  rw [endedLines, splitOn_newline, List.splitOn_nil, List.dropLast_concat]

/-- **A newline ends all lines before it**, and those behind it are lines of their own. -/
theorem lines_newline (front rest : Bytes) (fails : Bool) :
    FileData.lines ⟨front ++ 10 :: rest, fails⟩ =
      endedLines (front ++ [10]) ++ FileData.lines ⟨rest, fails⟩ := by
  have hne := List.splitOn_ne_nil 10 rest
  have hended : endedLines (front ++ 10 :: rest) = endedLines (front ++ [10]) ++ endedLines rest := by
    rw [endedLines, splitOn_newline, List.dropLast_append_of_ne_nil hne, List.map_append,
      endedLines_newline, endedLines]
  have hopen : openLine (front ++ 10 :: rest) = openLine rest := by
    simp only [openLine, splitOn_newline, List.getLast_append_of_ne_nil _ hne]
  rw [FileData.lines, FileData.lines, hended, hopen, List.append_assoc]

theorem lines_of_not_mem (h : 10 ∉ front) (fails : Bool) :
    FileData.lines ⟨front, fails⟩ = if fails then [] else [front] := by
  have hended : endedLines front = [] := by rw [endedLines, splitOn_of_not_mem h]; rfl
  have hopen : openLine front = front := by simp only [openLine, splitOn_of_not_mem h]; rfl
  rw [FileData.lines, hended, hopen, List.nil_append]

end Lines

/-- **Reading line by line finds the first line with data.** -/
theorem readDataLine_eq (fails : Bool) {held : Bytes} (hheld : 10 ∉ held) (rest : Bytes) :
    readDataLine fails held rest =
      (FileData.lines ⟨held.reverse ++ rest, fails⟩).find? (fun line => HasData line) := by
  induction rest generalizing held with
  | nil =>
      rw [List.append_nil, lines_of_not_mem (by simpa using hheld), readDataLine, isDataLine_eq]
      cases fails <;> by_cases h : HasData held.reverse <;> simp [h]
  | cons b rest ih =>
      by_cases hb : b = 10
      · subst hb
        rw [readDataLine, if_pos rfl, lines_newline, endedLines_newline,
          splitOn_of_not_mem (by simpa using hheld), List.map_singleton, List.singleton_append,
          List.find?_cons, ih List.not_mem_nil]
        simp only [isDataLine_eq]
        by_cases h : HasData (dropReturn held.reverse) <;> simp [h]
      · have hmore : 10 ∉ b :: held := by
          simp only [List.mem_cons, not_or]
          exact ⟨fun e => hb e.symm, hheld⟩
        rw [readDataLine, if_neg hb, ih hmore, List.reverse_cons, List.append_assoc,
          List.singleton_append]

theorem firstDataLine_eq (data : FileData) :
    firstDataLine data = data.lines.find? (fun line => HasData line) :=
  readDataLine_eq data.fails List.not_mem_nil data.bytes

/-- Behind a data line that has ended nothing matters. -/
theorem firstDataLine_newline {front : Bytes}
    (h : ∃ line ∈ endedLines (front ++ [10]), HasData line) (rest : Bytes) (fails : Bool) :
    firstDataLine ⟨front ++ 10 :: rest, fails⟩ =
      (endedLines (front ++ [10])).find? (fun line => HasData line) := by
  have hfound : ((endedLines (front ++ [10])).find? fun line => HasData line).isSome := by
    simpa [List.find?_isSome] using h
  rw [firstDataLine_eq, lines_newline, List.find?_append, Option.or_of_isSome hfound]

/-- Where reading fails before a data line has ended there is none. -/
theorem firstDataLine_of_fails {data : FileData} (hfails : data.fails = true)
    (h : ∀ line ∈ endedLines data.bytes, ¬ HasData line) : firstDataLine data = none := by
  rw [firstDataLine_eq, FileData.lines, if_pos hfails, List.append_nil, List.find?_eq_none]
  simpa using h

namespace Extractor

variable {x : Extractor} {id : String} {data : FileData}

theorem text_csv_of_opens (h : x.Opens id data) (size : Int) :
    x.text id "text/csv" size = ((firstDataLine data).map Text.decodeLossy).getD "" := by
  rw [text, if_pos rfl, fileData_eq_some_iff.mpr h, Option.bind_some]

/-- **The text of a table is its first line with data.** Lines are what newlines split, each that a
    newline ends without one carriage return before it, and the text is what the first that is not
    empty and no comment decodes to, or empty without one. Neither bytes nor a failure of reading
    behind the newline of that line matter; and where reading fails before a data line has ended the
    text is empty. -/
theorem text_csv_firstLine (h : x.Opens id data) (size : Int) :
    x.text id "text/csv" size =
      ((data.lines.find? fun line => HasData line).map Text.decodeLossy).getD "" ∧
    (∀ front rest, data.bytes = front ++ 10 :: rest →
      (∃ line ∈ endedLines (front ++ [10]), HasData line) →
      ∀ (y : Extractor) (id' : String) (size' : Int) (rest' : Bytes) (fails : Bool),
        y.Opens id' ⟨front ++ 10 :: rest', fails⟩ →
          y.text id' "text/csv" size' = x.text id "text/csv" size) ∧
    (data.fails = true → (∀ line ∈ endedLines data.bytes, ¬ HasData line) →
      x.text id "text/csv" size = "") := by
  rw [text_csv_of_opens h]
  refine ⟨by rw [firstDataLine_eq], fun front rest hbytes hline y id' size' rest' fails h' => ?_,
    fun hfails hnone => ?_⟩
  · obtain ⟨bytes, fails'⟩ := data
    subst hbytes
    rw [text_csv_of_opens h', firstDataLine_newline hline, firstDataLine_newline hline]
  · rw [firstDataLine_of_fails hfails hnone]
    rfl

/-- Bytes of a table whose heading is in another encoding, up to its newline. -/
def latinHeading : Bytes :=
  Text.encode "# c\r\n\r\ntemp " ++ 0xB0 :: Text.encode "C,pressure\r"

/-- Reading fails in the line behind the heading. -/
theorem text_csv_latinHeading :
    (onFile ⟨latinHeading ++ 10 :: [49, 44], true⟩ 10).Opens "abc-defg-456"
        ⟨latinHeading ++ 10 :: [49, 44], true⟩ ∧
      (onFile ⟨latinHeading ++ 10 :: [49, 44], true⟩ 10).text "abc-defg-456" "text/csv" (-1) =
        "temp \ufffdC,pressure" ∧
      ∀ (y : Extractor) (id' : String) (size' : Int) (rest' : Bytes) (fails : Bool),
        y.Opens id' ⟨latinHeading ++ 10 :: rest', fails⟩ →
          y.text id' "text/csv" size' = "temp \ufffdC,pressure" := by
  have hopens := opens_onFile ⟨latinHeading ++ 10 :: [49, 44], true⟩ 10
  obtain ⟨htext, hbehind, -⟩ := text_csv_firstLine hopens (-1)
  have hline : (((FileData.lines ⟨latinHeading ++ 10 :: [49, 44], true⟩).find? fun line =>
      HasData line).map Text.decodeLossy).getD "" = "temp \ufffdC,pressure" := by decide +kernel
  rw [hline] at htext
  refine ⟨hopens, htext, fun y id' size' rest' fails h' => ?_⟩
  exact (hbehind latinHeading [49, 44] rfl (by decide +kernel) y id' size' rest' fails h').trans htext

end Extractor

end LabIndex
