namespace EtcdLocator.CommandLine

inductive Rejection where
  | displayHelp
  | displayVersion
  /-- Nothing at all was asked for. -/
  | displayHelpOnMissing
  | missingRequired
  | missingCommand
  | unknownArgument
  | invalidCommand
  | invalidValue
  /-- An option that takes one value was given twice. -/
  | argumentConflict
  /-- A flag was given a value. -/
  | tooManyValues
deriving DecidableEq, Repr

def Rejection.exitCode : Rejection → UInt32
  | displayHelp | displayVersion => 0
  | _ => 2

/-- An option takes a value; a flag stops everything. -/
inductive Use where
  | option (accepts : String → Bool) (repeats : Bool)
  | flag (answer : Rejection)

/-- How an option or a flag is written: `--name`, and perhaps `-c`. -/
structure Switch where
  name : String
  letter : Option Char := none
  use : Use

structure Grammar where
  switches : List Switch
  commands : List String := []

structure Draft where
  /-- The values entered, by the names of their options. -/
  values : List (String × String) := []
  /-- The last option whose value stood apart, with that value once it is there. It is entered when
  the next option is met. -/
  pending : Option (Switch × Option String) := none

namespace Draft

def enter (d : Draft) (s : Switch) (value : String) : Except Rejection Draft :=
  match s.use with
  | .flag answer => .error answer
  | .option accepts repeats =>
    if !repeats && d.values.any (·.1 = s.name) then .error .argumentConflict
    else if accepts value then .ok { d with values := d.values ++ [(s.name, value)] }
    else .error .invalidValue

def settle (d : Draft) : Except Rejection Draft :=
  match d.pending with
  | none => .ok d
  | some (_, none) => .error .invalidValue
  | some (s, some value) => { d with pending := none }.enter s value

def awaiting (d : Draft) : Option Switch :=
  match d.pending with
  | some (s, none) => some s
  | _ => none

def value? (d : Draft) (name : String) : Option String :=
  (d.values.find? (·.1 = name)).map (·.2)

def valuesOf (d : Draft) (name : String) : List String :=
  (d.values.filter (·.1 = name)).map (·.2)

def has (d : Draft) (name : String) : Bool := (d.value? name).isSome

def meet (d : Draft) (s : Switch) (value : Option String) : Except Rejection Draft := do
  let d ← d.settle
  match value with
  | none => return { d with pending := some (s, none) }
  | some value => d.enter s value

end Draft

def splitValue (l : List Char) : List Char × Option String :=
  match l.dropWhile (· ≠ '=') with
  | [] => (l, none)
  | _ :: value => (l.takeWhile (· ≠ '='), some (String.ofList value))

namespace Grammar

def unexpected (g : Grammar) (afterDashes : Bool) (word : String) : Rejection :=
  if g.commands.isEmpty || (afterDashes && g.commands.contains word) then .unknownArgument
  else .invalidCommand

def long (g : Grammar) (d : Draft) (l : List Char) : Except Rejection Draft :=
  let (name, value) := splitValue l
  match g.switches.find? (·.name.toList = name) with
  | none => .error .unknownArgument
  | some s =>
    match s.use, value with
    | .option .., _ => d.meet s value
    | .flag _, some _ => .error .tooManyValues
    | .flag answer, none => do
      let _ ← d.settle
      .error answer

/-- A word that starts with one dash. What follows the letter of an option is its value. -/
def short (g : Grammar) (d : Draft) : List Char → Except Rejection Draft
  | [] => .ok d
  | c :: l =>
    match g.switches.find? (·.letter = some c) with
    | none => .error .unknownArgument
    | some s =>
      match s.use with
      | .flag answer => do
        let _ ← d.settle
        .error answer
      | .option .. =>
        match l with
        | [] => d.meet s none
        | '=' :: value => d.meet s (some (String.ofList value))
        | value => d.meet s (some (String.ofList value))

/-- Reads words up to the name of a command, which comes back with the words after it. While an
option awaits its value, any word that is no option is that value. -/
def read (g : Grammar) (d : Draft) :
    List String → Except Rejection (Draft × Option (String × List String))
  | [] => .ok (d, none)
  | word :: words =>
    if d.awaiting.isNone && g.commands.contains word then .ok (d, some (word, words))
    else
      match word.toList with
      | ['-', '-'] =>
        match words with
        | [] => .ok (d, none)
        | next :: _ => .error (g.unexpected true next)
      | '-' :: '-' :: l => do
        let d ← g.long d l
        read g d words
      | '-' :: c :: l => do
        let d ← g.short d (c :: l)
        read g d words
      | _ =>
        match d.awaiting with
        | some s => read g { d with pending := some (s, some word) } words
        | none => .error (g.unexpected false word)

end Grammar

end EtcdLocator.CommandLine
