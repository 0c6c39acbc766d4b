import EtcdLocator.Toml.Basic

namespace EtcdLocator.Toml

inductive Origin where
  /-- By a header of its own. -/
  | header
  /-- On the way to the table of a header. -/
  | implied
  /-- By a key with dots. -/
  | dotted
deriving DecidableEq, Repr

inductive Node where
  | value (v : Toml)
  | table (origin : Origin) (entries : List (String × Node))
  /-- The tables of a list, each with a header of its own. -/
  | tables (list : List (List (String × Node)))
deriving Inhabited

abbrev Entries := List (String × Node)

namespace Node

mutual

def toToml : Node → Toml
  | value v => v
  | table _ entries => .table (fieldsOf entries)
  | tables list => .arr (tablesOf list)

def fieldsOf : List (String × Node) → List (String × Toml)
  | [] => []
  | (k, n) :: l => (k, n.toToml) :: fieldsOf l

def tablesOf : List (List (String × Node)) → List Toml
  | [] => []
  | e :: l => .table (fieldsOf e) :: tablesOf l

end

end Node

namespace Entries

def find? (e : Entries) (key : String) : Option Node := (List.find? (·.1 = key) e).map (·.2)

def put (e : Entries) (key : String) (n : Node) : Entries :=
  if e.any (·.1 = key) then e.map fun p => if p.1 = key then (key, n) else p else e ++ [(key, n)]

/-- Changes the table at the end of a path. Tables on the way that are not there are made. A key
with dots does not lead through a table that has a header. -/
def change (dots : Bool) (f : Origin → Entries → Option Entries) :
    List String → Origin → Entries → Option Entries
  | [], origin, e => f origin e
  | key :: path, _, e =>
    match e.find? key with
    | none => do
      let origin := if dots then Origin.dotted else Origin.implied
      return e.put key (.table origin (← change dots f path origin []))
    | some (.value _) => none
    | some (.table origin inner) =>
      if dots && origin = .header then none
      else do return e.put key (.table origin (← change dots f path origin inner))
    | some (.tables list) => do
      let last ← list.getLast?
      return e.put key (.tables (list.dropLast ++ [← change dots f path .header last]))

/-- Sets a key that is not set yet. A key with dots adds to no table but one made by such keys. -/
def insert (e : Entries) (path : List String) (key : String) (v : Toml) : Option Entries :=
  change true (fun origin e =>
    if path ≠ [] ∧ origin ≠ .dotted then none
    else if (e.find? key).isSome then none
    else some (e.put key (.value v))) path .header e

/-- Defines the table of a header. No table has two headers. -/
def define (e : Entries) (path : List String) (key : String) : Option Entries :=
  change false (fun _ e =>
    match e.find? key with
    | none => some (e.put key (.table .header []))
    | some (.table .implied inner) => some (e.put key (.table .header inner))
    | some _ => none) path .header e

def append (e : Entries) (path : List String) (key : String) : Option Entries :=
  change false (fun _ e =>
    match e.find? key with
    | none => some (e.put key (.tables [[]]))
    | some (.tables list) => some (e.put key (.tables (list ++ [[]])))
    | some _ => none) path .header e

def insertIn (e : Entries) (header path : List String) (key : String) (v : Toml) : Option Entries :=
  change false (fun _ e => e.insert path key v) header .header e

end Entries

end EtcdLocator.Toml
