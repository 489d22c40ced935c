import LabIndex.Text.Pieces
import LabIndex.Text.Utf8

/-!
# Addresses of requests

The address that a request names: a path and, after a question mark, a query. An address may be a
path alone, or complete with a scheme and an authority, or an authority alone, which has an empty
path. What follows a number sign is dropped.

* `Address.parse?`: a text as an address;
* `percentDecode`: the bytes that an escaped text stands for; an escape that is none stays as it is;
* `formFields`: the names and values in a query.
-/

namespace LabIndex.Serving

open Text (Bytes)

/-! ## 1. Addresses -/

/-- What a request is addressed to. -/
structure Address where
  path : String
  query : Option String
deriving DecidableEq, Repr

namespace Address

/-- A character outside ASCII, or the delete character; both are let through. -/
def isHigh (c : Char) : Bool := 0x7F ≤ c.toNat

/-- A character that may stand in a path. -/
def inPath (c : Char) : Bool :=
  isHigh c || ('!' ≤ c && "#<>?\x60".toList.all (· != c))

/-- A character that may stand in a query. -/
def inQuery (c : Char) : Bool :=
  isHigh c || ('!' ≤ c && "\"#<>".toList.all (· != c))

/-- Reads a query up to its end or a number sign. -/
def parseQuery? (path : String) (cs : List Char) : Option Address :=
  let query := cs.takeWhile (· ≠ '#')
  if query.all inQuery then some ⟨path, some (String.ofList query)⟩ else none

/-- Reads a path with what follows it; the empty path stands for the root. -/
def parsePath? (cs : List Char) : Option Address :=
  let body := cs.takeWhile fun c => c ≠ '?' && c ≠ '#'
  let path := if body.isEmpty then "/" else String.ofList body
  if body.all inPath then
    match cs.drop body.length with
    | '?' :: rest => parseQuery? path rest
    | _ => some ⟨path, none⟩
  else none

/-! ## 2. Schemes and authorities -/

/-- A character of a scheme. -/
def inScheme (c : Char) : Bool :=
  (c.toNat < 0x80 && c.isAlphanum) || ['+', '-', '.', '~'].contains c

/-- What a scheme leaves of a text: all of it if it has none, and nothing at all if the scheme is
    too long. The flag says whether there was one. -/
def dropScheme (cs : List Char) : Option (Bool × List Char) :=
  let scheme := cs.takeWhile inScheme
  match cs.drop scheme.length with
  | ':' :: '/' :: '/' :: rest => if scheme.length ≤ 64 then some (true, rest) else none
  | _ => some (false, cs)

/-- A character that may stand in an authority besides a percent sign. -/
def inAuthority (c : Char) : Bool :=
  (c.toNat < 0x80 && c.isAlphanum) || "!$&'()*+,-.:;=@[]_~".toList.contains c

/-- What has been seen of an authority. -/
structure AuthorityScan where
  /-- The colons since the last at sign or closing bracket. -/
  colons : Nat := 0
  opened : Bool := false
  closed : Bool := false
  /-- There was a percent sign since the last at sign or closing bracket. -/
  escaped : Bool := false
  /-- The last character was an at sign. -/
  atEnd : Bool := false

/-- One more character of an authority, if it may stand there. -/
def AuthorityScan.step (s : AuthorityScan) (c : Char) : Option AuthorityScan :=
  let s := { s with atEnd := false }
  match c with
  | ':' => if 8 ≤ s.colons then none else some { s with colons := s.colons + 1 }
  | '[' => if s.escaped || s.opened then none else some { s with opened := true }
  | ']' =>
    if !s.opened || s.closed then none
    else some { s with closed := true, colons := 0, escaped := false }
  | '@' => some { s with colons := 0, escaped := false, atEnd := true }
  | '%' => some { s with escaped := true }
  | c => if inAuthority c then some s else none

/-- An authority makes sense as a whole. -/
def AuthorityScan.isGood (s : AuthorityScan) : Bool :=
  s.opened == s.closed && s.colons ≤ 1 && !s.atEnd && !s.escaped

/-- Splits an authority off a text: what is left behind it. -/
def dropAuthority? (cs : List Char) : Option (List Char × List Char) :=
  let authority := cs.takeWhile fun c => c ≠ '/' && c ≠ '?' && c ≠ '#'
  match authority.foldlM AuthorityScan.step {} with
  | some s => if s.isGood then some (authority, cs.drop authority.length) else none
  | none => none

/-- The most bytes that an address has. -/
def maxBytes : Nat := 65534

/-- The address that a text spells. -/
def parse? (s : String) : Option Address :=
  let cs := s.toList
  if cs.isEmpty || maxBytes < Text.byteLength cs then none
  else if cs.head? == some '/' then parsePath? cs
  else if cs == ['*'] then some ⟨"*", none⟩
  else
    match dropScheme cs with
    | none => none
    | some (hasScheme, rest) =>
      match dropAuthority? rest with
      | none => none
      | some (authority, rest) =>
        if hasScheme then if authority.isEmpty then none else parsePath? rest
        else if rest.isEmpty then some ⟨"", none⟩
        else none

end Address

/-! ## 3. Escapes -/

/-- The value of a hexadecimal digit. -/
def hexValue? (b : UInt8) : Option Nat :=
  let n := b.toNat
  if 48 ≤ n ∧ n ≤ 57 then some (n - 48)
  else if 65 ≤ n ∧ n ≤ 70 then some (n - 55)
  else if 97 ≤ n ∧ n ≤ 102 then some (n - 87)
  else none

/-- The byte that a percent sign before two bytes stands for. -/
def escaped? (high low : UInt8) : Option UInt8 :=
  match hexValue? high, hexValue? low with
  | some h, some l => some (UInt8.ofNat (16 * h + l))
  | _, _ => none

/-- The bytes that escaped bytes stand for. -/
def percentDecode : Bytes → Bytes
  | [] => []
  | 37 :: high :: low :: rest =>
    match escaped? high low with
    | some b => b :: percentDecode rest
    | none => 37 :: percentDecode (high :: low :: rest)
  | b :: rest => b :: percentDecode rest

/-- The text of a name or a value in a query: a plus sign is a blank, and what is no character is
    replaced. -/
def formText (cs : List Char) : String :=
  Text.decodeLossy (percentDecode ((Text.encode (String.ofList cs)).map fun b =>
    if b = 43 then 32 else b))

/-- The name and the value of a field; without an equals sign the value is empty. -/
def formField (cs : List Char) : String × String :=
  let name := cs.takeWhile (· ≠ '=')
  (formText name, formText (cs.drop (name.length + 1)))

/-- The fields of a query in order, empty ones left out. -/
def formFields (query : String) : List (String × String) :=
  ((Text.pieces '&' query.toList).filter (!·.isEmpty)).map formField

end LabIndex.Serving
