import LabIndex.Text.Utf8
import Mathlib.Tactic.IntervalCases
import Mathlib.Tactic.SplitIfs

/-!
# Reading back what was encoded

The reader of bytes goes over the bytes of a character with the character unfinished in hand until
the last of them completes it. So texts are read back as they were written, and of a text that is
cut off all whole characters are, with one mark for a character that the cut falls into.

* `toByteArray_encode`: a text is encoded as the library encodes strings;
* `Spells`: bytes that complete a character, with `spells_encodeChar`;
* `decodeLossy_take_encode`: what is read of a text that is cut off;
* `decodeLossy_encode`: every text is read back.
-/

namespace LabIndex.Text

/-! ## 1. The bytes of a character -/

theorem length_encodeChar_pos (c : Char) : 0 < (encodeChar c).length := by
  simp only [encodeChar]
  split_ifs <;> simp

theorem byteLength_cons (c : Char) (cs : List Char) :
    byteLength (c :: cs) = (encodeChar c).length + byteLength cs := by
  rw [byteLength, byteLength, List.flatMap_cons, List.length_append]

/-- The code point of a character lies below the surrogates or above them. -/
theorem toNat_bounds (c : Char) :
    c.toNat < 0xD800 ∨ 0xDFFF < c.toNat ∧ c.toNat < 0x110000 := c.valid

theorem encodeChar_eq_utf8EncodeChar (c : Char) : encodeChar c = String.utf8EncodeChar c := by
  have hc := toNat_bounds c
  have hval : c.val.toNat = c.toNat := rfl
  simp only [encodeChar, String.utf8EncodeChar, hval]
  generalize c.toNat = n at hc
  by_cases h1 : n < 0x80
  · rw [if_pos h1, if_pos (by omega)]
  · by_cases h2 : n < 0x800
    · have hlead : n / 64 % 32 + 192 = 0xC0 + n / 64 := by omega
      rw [if_neg h1, if_pos h2, if_neg (by omega), if_pos (by omega), hlead, Nat.add_comm 0x80]
    · by_cases h3 : n < 0x10000
      · have hlead : n / 4096 % 16 + 224 = 0xE0 + n / 4096 := by omega
        rw [if_neg h1, if_neg h2, if_pos h3, if_neg (by omega), if_neg (by omega),
          if_pos (by omega), hlead, Nat.add_comm 0x80, Nat.add_comm 0x80]
      · have hlead : n / 262144 % 8 + 240 = 0xF0 + n / 262144 := by omega
        rw [if_neg h1, if_neg h2, if_neg h3, if_neg (by omega), if_neg (by omega),
          if_neg (by omega), hlead, Nat.add_comm 0x80, Nat.add_comm 0x80, Nat.add_comm 0x80]

/-- Bytes that complete a character, from what is in hand. -/
inductive Spells (c : Char) : Option Pending → Bytes → Prop where
  | last {q : Option Pending} {b : UInt8} (h : readByte q b = ([some c], none)) : Spells c q [b]
  | more {q : Option Pending} {p : Pending} {b : UInt8} {bs : Bytes}
      (h : readByte q b = ([], some p)) (rest : Spells c (some p) bs) : Spells c q (b :: bs)

/-- The continuation bytes that carry the bits of a character below a place. -/
def tails (n : Nat) : Nat → Bytes
  | 0 => []
  | k + 1 => UInt8.ofNat (0x80 + n / 64 ^ k % 64) :: tails n k

theorem toNat_ofNat_of_lt {k : Nat} (h : k < 256) : (UInt8.ofNat k).toNat = k := by
  rw [UInt8.toNat_ofNat']
  omega

/-- A byte in the range of the next one is taken up. -/
theorem readByte_tail {p : Pending} {bits : Nat} (hlow : p.low ≤ 0x80 + bits)
    (hhigh : 0x80 + bits ≤ p.high) (hbits : bits < 64) :
    readByte (some p) (UInt8.ofNat (0x80 + bits)) =
      if p.owed = 1 then ([some (Char.ofNat (p.bits * 64 + bits))], none)
      else ([], some ⟨p.bits * 64 + bits, p.owed - 1, 0x80, 0xBF⟩) := by
  have hmod : (0x80 + bits) % 64 = bits := by omega
  rw [readByte, toNat_ofNat_of_lt (by omega), if_pos ⟨hlow, hhigh⟩, hmod]

/-- Continuation bytes complete a character whose bits above them are in hand. -/
theorem spells_tails (c : Char) (k : Nat) {low high : Nat}
    (hlow : low ≤ 0x80 + c.toNat / 64 ^ k % 64) (hhigh : 0x80 + c.toNat / 64 ^ k % 64 ≤ high) :
    Spells c (some ⟨c.toNat / 64 ^ (k + 1), k + 1, low, high⟩) (tails c.toNat (k + 1)) := by
  have hbits : c.toNat / 64 ^ (k + 1) * 64 + c.toNat / 64 ^ k % 64 = c.toNat / 64 ^ k := by
    rw [Nat.pow_succ, ← Nat.div_div_eq_div_mul]
    omega
  have hread := readByte_tail (p := ⟨c.toNat / 64 ^ (k + 1), k + 1, low, high⟩) hlow hhigh (by omega)
  simp only [hbits] at hread
  cases k with
  | zero =>
      rw [if_pos rfl, Nat.pow_zero, Nat.div_one, Char.ofNat_toNat] at hread
      refine .last ?_
      rw [Nat.pow_zero, Nat.div_one, hread]
  | succ k =>
      rw [if_neg (by omega)] at hread
      exact .more hread (spells_tails c k (by omega) (by omega))

section Leads

variable {t : Nat}

theorem ofByte_two (hlow : 2 ≤ t) (h : t < 32) :
    Lead.ofByte (UInt8.ofNat (0xC0 + t)) = .opens ⟨t, 1, 0x80, 0xBF⟩ := by
  interval_cases t <;> rfl

/-- The byte after the first rules out overlong forms and surrogates. -/
theorem ofByte_three (h : t < 16) :
    Lead.ofByte (UInt8.ofNat (0xE0 + t)) =
      .opens ⟨t, 2, if t = 0 then 0xA0 else 0x80, if t = 13 then 0x9F else 0xBF⟩ := by
  interval_cases t <;> rfl

/-- The byte after the first rules out overlong forms and what lies above all code points. -/
theorem ofByte_four (h : t < 5) :
    Lead.ofByte (UInt8.ofNat (0xF0 + t)) =
      .opens ⟨t, 3, if t = 0 then 0x90 else 0x80, if t = 4 then 0x8F else 0xBF⟩ := by
  interval_cases t <;> rfl

end Leads

/-- A character of one byte is that byte. -/
theorem encodeChar_of_lt {c : Char} (h : c.toNat < 0x80) :
    encodeChar c = [UInt8.ofNat c.toNat] := by
  simp only [encodeChar, if_pos h]

/-- Any other has a first byte with its upper bits, which rules the rest in, and continuation bytes
    with the rest. -/
theorem exists_lead {c : Char} (h : 0x80 ≤ c.toNat) :
    ∃ (lead : UInt8) (k low high : Nat),
      encodeChar c = lead :: tails c.toNat (k + 1) ∧
      Lead.ofByte lead = .opens ⟨c.toNat / 64 ^ (k + 1), k + 1, low, high⟩ ∧
      low ≤ 0x80 + c.toNat / 64 ^ k % 64 ∧ 0x80 + c.toNat / 64 ^ k % 64 ≤ high := by
  have hc := toNat_bounds c
  simp only [encodeChar]
  generalize c.toNat = n at h hc
  by_cases h2 : n < 0x800
  · refine ⟨_, 0, _, _, ?_, ofByte_two (t := n / 64 ^ 1) (by omega) (by omega), by omega, by omega⟩
    rw [if_neg (by omega), if_pos h2]
    simp [tails]
  · by_cases h3 : n < 0x10000
    · refine ⟨_, 1, _, _, ?_, ofByte_three (t := n / 64 ^ 2) (by omega), ?_, ?_⟩
      · rw [if_neg (by omega), if_neg h2, if_pos h3]
        simp [tails]
      · split <;> omega
      · split <;> omega
    · refine ⟨_, 2, _, _, ?_, ofByte_four (t := n / 64 ^ 3) (by omega), ?_, ?_⟩
      · rw [if_neg (by omega), if_neg h2, if_neg h3]
        simp [tails]
      · split <;> omega
      · split <;> omega

/-- **The bytes of a character complete it.** -/
theorem spells_encodeChar (c : Char) : Spells c none (encodeChar c) := by
  by_cases h : c.toNat < 0x80
  · rw [encodeChar_of_lt h]
    refine .last ?_
    rw [readByte, beginChar, Lead.ofByte, toNat_ofNat_of_lt (by omega)]
    simp only [if_pos h, Char.ofNat_toNat]
  · obtain ⟨lead, k, low, high, hbytes, hlead, hlow, hhigh⟩ := exists_lead (Nat.le_of_not_lt h)
    rw [hbytes]
    refine .more ?_ (spells_tails c k hlow hhigh)
    rw [readByte, beginChar, hlead]

section Spelling

variable {c : Char} {q : Option Pending} {bs : Bytes}

/-- Bytes that complete a character are read as it. -/
theorem Spells.readBytes_append (h : Spells c q bs) (rest : Bytes) :
    readBytes q (bs ++ rest) = some c :: readBytes none rest := by
  induction h with
  | last hbyte => simp [readBytes, hbyte]
  | more hbyte _ ih => simp [readBytes, hbyte, ih]

/-- A character that is cut off is one bad piece. -/
theorem Spells.readBytes_take (h : Spells c q bs) {k : Nat} (hk : k < bs.length)
    (hopen : q.isSome ∨ 0 < k) : readBytes q (bs.take k) = [none] := by
  induction h generalizing k with
  | @last q _ _ =>
      obtain rfl : k = 0 := by simpa using hk
      obtain ⟨p, rfl⟩ := Option.isSome_iff_exists.mp (hopen.resolve_right (Nat.lt_irrefl 0))
      rfl
  | @more q _ _ _ hbyte _ ih =>
      cases k with
      | zero =>
          obtain ⟨p, rfl⟩ := Option.isSome_iff_exists.mp (hopen.resolve_right (Nat.lt_irrefl 0))
          rfl
      | succ k =>
          have hrest := ih (k := k) (by simpa using hk) (.inl rfl)
          rw [List.take_succ_cons, readBytes, hbyte]
          exact hrest

end Spelling

/-! ## 2. Texts -/

/-- The bytes of a text are those that the library keeps of a string. -/
theorem toByteArray_encode (s : String) : (encode s).toByteArray = s.toUTF8 := by
  have hchars : encodeChar = String.utf8EncodeChar := funext encodeChar_eq_utf8EncodeChar
  have hbytes := String.toByteArray_ofList (l := s.toList)
  rw [String.ofList_toList] at hbytes
  rw [encode, hchars, String.toUTF8, hbytes]
  rfl

/-- The leading characters of a text whose bytes fit into a number of bytes. -/
def fitting (k : Nat) : List Char → List Char
  | [] => []
  | c :: rest =>
    if (encodeChar c).length ≤ k then c :: fitting (k - (encodeChar c).length) rest else []

/-- A text that fits is its own leading part. -/
theorem fitting_of_le {cs : List Char} {k : Nat} (h : byteLength cs ≤ k) : fitting k cs = cs := by
  induction cs generalizing k with
  | nil => rfl
  | cons c rest ih =>
      rw [byteLength_cons] at h
      rw [fitting, if_pos (by omega), ih (by omega)]

/-- **Of encoded characters that are cut off**, those that fit are read back, and bytes that are left
    of the next one are a bad piece. -/
theorem readBytes_take_encode (cs : List Char) (k : Nat) :
    readBytes none ((cs.flatMap encodeChar).take k) =
      (fitting k cs).map some ++
        if byteLength (fitting k cs) < min k (byteLength cs) then [none] else [] := by
  induction cs generalizing k with
  | nil => simp [readBytes, fitting, byteLength]
  | cons c rest ih =>
      rw [List.flatMap_cons, List.take_append, fitting, byteLength_cons]
      by_cases hfits : (encodeChar c).length ≤ k
      · have hshort : (encodeChar c).length + byteLength (fitting (k - (encodeChar c).length) rest) <
              min k ((encodeChar c).length + byteLength rest) ↔
            byteLength (fitting (k - (encodeChar c).length) rest) <
              min (k - (encodeChar c).length) (byteLength rest) := by omega
        rw [List.take_of_length_le hfits, (spells_encodeChar c).readBytes_append, ih, if_pos hfits,
          byteLength_cons]
        simp only [hshort, List.map_cons, List.cons_append]
      · have hcut : k - (encodeChar c).length = 0 := by omega
        rw [if_neg hfits, hcut, List.take_zero, List.append_nil]
        rcases Nat.eq_zero_or_pos k with rfl | hpos
        · simp [readBytes]
        · rw [(spells_encodeChar c).readBytes_take (by omega) (.inr hpos), if_pos]
          · rfl
          · simp only [byteLength, List.flatMap_nil, List.length_nil]
            omega

/-- **A text that is cut off is read as far as whole characters fit**, with one replacement
    character for the bytes that are left of the next. -/
theorem decodeLossy_take_encode (s : String) (k : Nat) :
    decodeLossy ((encode s).take k) = String.ofList (fitting k s.toList ++
      if byteLength (fitting k s.toList) < min k (byteLength s.toList) then ['\ufffd'] else []) := by
  rw [decodeLossy, encode, readBytes_take_encode, List.map_append, List.map_map]
  split <;> simp

/-- **Every text is read back as it was encoded.** -/
theorem decodeLossy_encode (s : String) : decodeLossy (encode s) = s := by
  have hall : (encode s).take (byteLength s.toList) = encode s := List.take_of_length_le le_rfl
  rw [← hall, decodeLossy_take_encode, fitting_of_le le_rfl, Nat.min_self, if_neg (Nat.lt_irrefl _),
    List.append_nil, String.ofList_toList]

end LabIndex.Text
