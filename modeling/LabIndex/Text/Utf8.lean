/-!
# UTF-8

Bytes and texts. `encode` writes a text; a reader walks over bytes with at most one unfinished
character in hand and yields, in order, the characters it completes and a mark for every piece
that is none. Such a piece is as long as a valid character's beginning can be: a byte that
cannot continue what is in hand ends the piece and is looked at afresh.

* `decode?` accepts only texts without such a piece;
* `decodeLossy` puts U+FFFD, the replacement character, in place of each.
-/

namespace LabIndex.Text

/-- File contents and network bodies. -/
abbrev Bytes := List UInt8

/-! ## 1. Writing -/

/-- The bytes of one character. -/
def encodeChar (c : Char) : Bytes :=
  let n := c.toNat
  if n < 0x80 then [UInt8.ofNat n]
  else if n < 0x800 then [UInt8.ofNat (0xC0 + n / 64), UInt8.ofNat (0x80 + n % 64)]
  else if n < 0x10000 then
    [UInt8.ofNat (0xE0 + n / 4096), UInt8.ofNat (0x80 + n / 64 % 64), UInt8.ofNat (0x80 + n % 64)]
  else
    [UInt8.ofNat (0xF0 + n / 262144), UInt8.ofNat (0x80 + n / 4096 % 64),
      UInt8.ofNat (0x80 + n / 64 % 64), UInt8.ofNat (0x80 + n % 64)]

/-- The bytes of a text. -/
def encode (s : String) : Bytes := s.toList.flatMap encodeChar

/-- The number of bytes of a text. -/
def byteLength (s : List Char) : Nat := (s.flatMap encodeChar).length

/-! ## 2. Reading -/

/-- An unfinished character: the bits so far, the bytes still owed, and the range of the next. -/
structure Pending where
  bits : Nat
  owed : Nat
  low : Nat
  high : Nat
deriving DecidableEq, Repr

/-- What a byte does where a character may begin: it is a character, it opens one, or neither. -/
inductive Lead where
  | whole (c : Char)
  | opens (p : Pending)
  | stray

/-- The role of a first byte. The range of the byte after it rules out overlong forms,
    surrogates and code points above U+10FFFF. -/
def Lead.ofByte (b : UInt8) : Lead :=
  let n := b.toNat
  if n < 0x80 then .whole (Char.ofNat n)
  else if n < 0xC2 then .stray
  else if n < 0xE0 then .opens ⟨n - 0xC0, 1, 0x80, 0xBF⟩
  else if n = 0xE0 then .opens ⟨0, 2, 0xA0, 0xBF⟩
  else if n = 0xED then .opens ⟨0xD, 2, 0x80, 0x9F⟩
  else if n < 0xF0 then .opens ⟨n - 0xE0, 2, 0x80, 0xBF⟩
  else if n = 0xF0 then .opens ⟨0, 3, 0x90, 0xBF⟩
  else if n < 0xF4 then .opens ⟨n - 0xF0, 3, 0x80, 0xBF⟩
  else if n = 0xF4 then .opens ⟨4, 3, 0x80, 0x8F⟩
  else .stray

/-- One byte where a character may begin: what it completes (`none` marks a bad piece) and what
    is in hand after it. -/
def beginChar (b : UInt8) : List (Option Char) × Option Pending :=
  match Lead.ofByte b with
  | .whole c => ([some c], none)
  | .opens p => ([], some p)
  | .stray => ([none], none)

/-- One byte, whatever is in hand. -/
def readByte : Option Pending → UInt8 → List (Option Char) × Option Pending
  | none, b => beginChar b
  | some p, b =>
    if p.low ≤ b.toNat ∧ b.toNat ≤ p.high then
      let bits := p.bits * 64 + b.toNat % 64
      if p.owed = 1 then ([some (Char.ofNat bits)], none)
      else ([], some ⟨bits, p.owed - 1, 0x80, 0xBF⟩)
    else
      let (out, q) := beginChar b
      (none :: out, q)

/-- The characters and bad pieces of a byte sequence, in order, from what is in hand. -/
def readBytes : Option Pending → Bytes → List (Option Char)
  | none, [] => []
  | some _, [] => [none]
  | q, b :: bs =>
    let (out, q') := readByte q b
    out ++ readBytes q' bs

/-- The text that the bytes encode, if they are well formed. -/
def decode? (bs : Bytes) : Option String :=
  ((readBytes none bs).mapM id).map String.ofList

/-- The text that the bytes encode, with U+FFFD for every piece that is no character. -/
def decodeLossy (bs : Bytes) : String :=
  String.ofList ((readBytes none bs).map (·.getD '\ufffd'))

end LabIndex.Text
