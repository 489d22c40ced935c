import LabIndex.Json.Reader

/-!
# Reading a few fields of a JSON object

Where only some fields of an object matter, the values of the others are passed over: they have
to be JSON in form, but their numbers may be of any size, their escapes any code, and their
nesting any depth. A field that matters may occur only once.
-/

namespace LabIndex

namespace Json

/-- The text after a string, from inside it. -/
def skimString : List Char → Option (List Char)
  | [] => none
  | '"' :: rest => some rest
  | '\\' :: 'u' :: a :: b :: c :: d :: rest =>
    match hexFour a b c d with
    | some _ => skimString rest
    | none => none
  | '\\' :: c :: rest => if (shortEscape c).isSome then skimString rest else none
  | c :: rest => if c = '\\' ∨ c.toNat < 32 then none else skimString rest

/-- The text after a number. -/
def skimNumber (cs : List Char) : Option (List Char) := do
  let cs :=
    match cs with
    | '-' :: r => r
    | r => r
  let (digits, cs) := cs.span Char.isDigit
  if digits.isEmpty || (digits.head? == some '0' && digits.length != 1) then none
  let (_, cs) ← Number.fractionPart cs
  let (_, cs) ← Number.exponentPart cs
  return cs

mutual

/-- The text after a value. The first argument bounds the steps. -/
def skimValue : Nat → List Char → Option (List Char)
  | 0, _ => none
  | fuel + 1, cs =>
    match cs with
    | 'n' :: 'u' :: 'l' :: 'l' :: rest => some rest
    | 't' :: 'r' :: 'u' :: 'e' :: rest => some rest
    | 'f' :: 'a' :: 'l' :: 's' :: 'e' :: rest => some rest
    | '"' :: rest => skimString rest
    | '[' :: rest =>
      match skipSpace rest with
      | ']' :: rest => some rest
      | rest => skimItems fuel rest
    | '\x7b' :: rest =>
      match skipSpace rest with
      | '\x7d' :: rest => some rest
      | rest => skimFields fuel rest
    | cs => skimNumber cs

/-- The text after the elements of a list and its bracket. -/
def skimItems : Nat → List Char → Option (List Char)
  | 0, _ => none
  | fuel + 1, cs =>
    match skimValue fuel (skipSpace cs) with
    | none => none
    | some rest =>
      match skipSpace rest with
      | ',' :: rest => skimItems fuel rest
      | ']' :: rest => some rest
      | _ => none

/-- The text after the fields of an object and its brace. -/
def skimFields : Nat → List Char → Option (List Char)
  | 0, _ => none
  | fuel + 1, cs =>
    match skipSpace cs with
    | '"' :: rest =>
      match skimString rest with
      | none => none
      | some rest =>
        match skipSpace rest with
        | ':' :: rest =>
          match skimValue fuel (skipSpace rest) with
          | none => none
          | some rest =>
            match skipSpace rest with
            | ',' :: rest => skimFields fuel rest
            | '\x7d' :: rest => some rest
            | _ => none
        | _ => none
    | _ => none

end

/-- Reads the named fields up to the closing brace, after those read before. -/
def readNamed (names : List String) : Nat → Fields → List Char → Option (Fields × List Char)
  | 0, _, _ => none
  | fuel + 1, acc, cs =>
    match skipSpace cs with
    | '"' :: rest =>
      match readString rest with
      | none => none
      | some (key, rest) =>
        let key := String.ofList key
        match skipSpace rest with
        | ':' :: rest =>
          let read : Option (Fields × List Char) :=
            if names.contains key then
              if (Fields.get? key acc).isSome then none
              else
                (readValue (2 * rest.length + 2) (maxDepth - 1) (skipSpace rest)).map
                  fun (v, r) => (Fields.put key v acc, r)
            else (skimValue (2 * rest.length + 2) (skipSpace rest)).map fun r => (acc, r)
          match read with
          | none => none
          | some (acc, rest) =>
            match skipSpace rest with
            | ',' :: rest => readNamed names fuel acc rest
            | '\x7d' :: rest => some (acc, rest)
            | _ => none
        | _ => none
    | _ => none

/-- The named fields of the object that a text spells. -/
def parseRecord? (names : List String) (s : String) : Option Fields :=
  let cs := s.toList
  match skipSpace cs with
  | '\x7b' :: rest =>
    let read :=
      match skipSpace rest with
      | '\x7d' :: rest => some ([], rest)
      | rest => readNamed names (cs.length + 1) [] rest
    match read with
    | some (fields, rest) => if (skipSpace rest).isEmpty then some fields else none
    | none => none
  | _ => none

end Json

end LabIndex
