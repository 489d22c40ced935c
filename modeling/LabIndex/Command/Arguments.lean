/-!
# Reading arguments

A level of a command line knows options, positions and the names of the levels below it.
Arguments are read from left to right; what an option or a position has been given is settled
only when the next one that is known comes up, or at the end of the level.

* An argument that the level does not know is refused at once, whatever waits to be settled.
* When something is settled, a missing value is found first, then a second use of what may be used
  once, then a value that is none.
* After two dashes all arguments are for positions.

`Level.read` reads a level up to its end or up to the name of a level below.
-/

namespace LabIndex.Command

/-! ## 1. Levels -/

/-- Why arguments are no command, or what they ask for in place of one. -/
inductive UsageFault where
  /-- A value is missing, or outside a closed list. -/
  | invalidValue
  /-- A value that cannot be read. -/
  | valueValidation
  | unknownArgument
  /-- Something that may be used once is used again. -/
  | argumentConflict
  /-- A value for something that takes none. -/
  | tooManyValues
  | missingRequiredArgument
  | invalidSubcommand
  | missingSubcommand
  /-- There is nothing but the program's name. -/
  | helpForNothing
  | help
  | version
deriving DecidableEq, Repr

/-- Something that takes values. -/
structure Slot where
  name : String
  /-- What is wrong with a value, if anything. -/
  check : String → Option UsageFault
  /-- It may be used again. -/
  repeats : Bool := false

/-- What an option is for. -/
inductive Use where
  | flag
  | value
  | help
  | version
deriving DecidableEq, Repr

/-- An option, under its long name and perhaps a letter. -/
structure OptionSpec where
  slot : Slot
  letter : Option Char := none
  use : Use := .value
  /-- The variable that stands in for it. -/
  standIn : Option String := none

/-- A position. -/
structure Position where
  slot : Slot
  needed : Bool := true

/-- What a level knows. -/
structure Level where
  options : List OptionSpec
  positions : List Position := []
  below : List String := []

/-! ## 2. What has been read -/

/-- A slot whose values are not settled yet. -/
structure Waiting where
  slot : Slot
  values : List String

/-- How far a level has been read. -/
structure Reading where
  /-- The settled values. -/
  given : List (String × List String) := []
  waiting : Option Waiting := none
  /-- The next argument is the value of what waits. -/
  wantsValue : Bool := false
  /-- The positions that are filled. -/
  filled : Nat := 0
  /-- Two dashes have been read. -/
  onlyPositions : Bool := false

/-- The values settled under a name. -/
def valuesOf (given : List (String × List String)) (name : String) : List String :=
  given.flatMap fun g => if g.1 = name then g.2 else []

namespace Reading

/-- A slot has settled values. -/
def has (r : Reading) (name : String) : Bool := r.given.any (·.1 == name)

/-- Settles values for a slot. -/
def settleValues (r : Reading) (slot : Slot) (values : List String) : Except UsageFault Reading :=
  if values.isEmpty then .error .invalidValue
  else if !slot.repeats && r.has slot.name then .error .argumentConflict
  else
    match values.findSome? slot.check with
    | some f => .error f
    | none => .ok { r with given := r.given ++ [(slot.name, values)] }

/-- Settles what waits. -/
def settle (r : Reading) : Except UsageFault Reading :=
  match r.waiting with
  | none => .ok r
  | some w => { r with waiting := none, wantsValue := false }.settleValues w.slot w.values

/-- Settles what waits and then values for a slot. -/
def take (r : Reading) (slot : Slot) (values : List String) : Except UsageFault Reading := do
  (← r.settle).settleValues slot values

/-- Settles what waits, and lets an option wait for its value. -/
def await (r : Reading) (slot : Slot) : Except UsageFault Reading := do
  return { (← r.settle) with waiting := some ⟨slot, []⟩, wantsValue := true }

/-- Gives the value that an option waits for. -/
def giveValue (r : Reading) (value : String) : Reading :=
  { r with
    waiting := r.waiting.map fun w => { w with values := w.values ++ [value] }
    wantsValue := false }

/-- Uses an option that takes no value. -/
def useFlag (r : Reading) (o : OptionSpec) : Except UsageFault Reading := do
  let r ← r.settle
  match o.use with
  | .help => throw .help
  | .version => throw .version
  | _ => r.settleValues o.slot ["true"]

/-- Fills a position: more of one that repeats, or else the next. -/
def fill (r : Reading) (p : Position) (value : String) : Except UsageFault Reading := do
  match r.waiting with
  | some w =>
    if p.slot.repeats && w.slot.name = p.slot.name then return r.giveValue value
  | none => pure ()
  let r ← r.settle
  return { r with
    waiting := some ⟨p.slot, [value]⟩
    wantsValue := false
    filled := if p.slot.repeats then r.filled else r.filled + 1 }

end Reading

/-! ## 3. Reading a level -/

namespace Level

/-- The option with a long name. -/
def named? (l : Level) (name : String) : Option OptionSpec :=
  l.options.find? (·.slot.name == name)

/-- The option with a letter. -/
def lettered? (l : Level) (c : Char) : Option OptionSpec :=
  l.options.find? (·.letter == some c)

/-- Reads an argument behind two dashes: a long name, and perhaps a value after an equals sign. -/
def readLong (l : Level) (r : Reading) (body : List Char) : Except UsageFault Reading :=
  let name := body.takeWhile (· ≠ '=')
  match l.named? (String.ofList name), body.drop name.length with
  | none, _ => .error .unknownArgument
  | some o, [] => if o.use = .value then r.await o.slot else r.useFlag o
  | some o, _ :: value =>
    if o.use = .value then r.take o.slot [String.ofList value] else .error .tooManyValues

/-- Reads an argument behind one dash: letters, the last of them perhaps with its value. -/
def readLetters (l : Level) : List Char → Reading → Except UsageFault Reading
  | [], r => .ok r
  | c :: rest, r =>
    match l.lettered? c with
    | none => .error .unknownArgument
    | some o =>
      if o.use = .value then
        match rest with
        | [] => r.await o.slot
        | '=' :: value => r.take o.slot [String.ofList value]
        | value => r.take o.slot [String.ofList value]
      else
        match r.useFlag o with
        | .ok r => l.readLetters rest r
        | .error f => .error f

/-- Reads an argument for a position. -/
def readPosition (l : Level) (r : Reading) (arg : String) : Except UsageFault Reading :=
  match l.positions[r.filled]? with
  | some p => r.fill p arg
  | none =>
    if l.below.isEmpty || (r.onlyPositions && l.below.contains arg) then .error .unknownArgument
    else .error .invalidSubcommand

/-- Reads one argument that names no level below. -/
def readArgument (l : Level) (r : Reading) (arg : String) : Except UsageFault Reading :=
  if r.onlyPositions then l.readPosition r arg
  else
    match arg.toList with
    | ['-', '-'] => .ok { r with onlyPositions := true }
    | '-' :: '-' :: body => l.readLong r body
    | '-' :: c :: rest => l.readLetters (c :: rest) r
    | _ => if r.wantsValue then .ok (r.giveValue arg) else l.readPosition r arg

/-- Reads arguments up to the end or up to the name of a level below, which is given back with
    the arguments after it. -/
def read (l : Level) : List String → Reading →
    Except UsageFault (Reading × Option (String × List String))
  | [], r => .ok (r, none)
  | arg :: rest, r =>
    if !r.onlyPositions && !r.wantsValue && l.below.contains arg then .ok (r, some (arg, rest))
    else
      match l.readArgument r arg with
      | .ok r => l.read rest r
      | .error f => .error f

/-! ## 4. The end of a level -/

/-- What was given on a level, and what variables stand in for. -/
structure Given where
  given : List (String × List String)
  standIns : List (String × List String)

/-- The values of variables for options that were not given. -/
def standIns (env : List (String × String)) (r : Reading) :
    List OptionSpec → Except UsageFault (List (String × List String))
  | [] => .ok []
  | o :: rest => do
    let value? := o.standIn.bind fun name => (env.find? (·.1 == name)).map (·.2)
    match value? with
    | none => standIns env r rest
    | some value =>
      if r.has o.slot.name then standIns env r rest
      else
        match o.slot.check value with
        | some f => throw f
        | none => return (o.slot.name, [value]) :: (← standIns env r rest)

/-- Settles what waits, and looks at the variables. -/
def close (l : Level) (env : List (String × String)) (r : Reading) :
    Except UsageFault Given := do
  let r ← r.settle
  return ⟨r.given, ← standIns env r l.options⟩

/-- A position that needs a value has none. -/
def isIncomplete (l : Level) (g : Given) : Bool :=
  l.positions.any fun p => p.needed && !g.given.any (·.1 == p.slot.name)

end Level

namespace Level.Given

/-- Nothing was given at all. -/
def isEmpty (g : Given) : Bool := g.given.isEmpty && g.standIns.isEmpty

/-- The values under a name. -/
def values (g : Given) (name : String) : List String := valuesOf (g.given ++ g.standIns) name

/-- The first value under a name. -/
def first? (g : Given) (name : String) : Option String := (g.values name).head?

end Level.Given

end LabIndex.Command
