namespace EtcdLocator

/-- A YAML document. Numbers keep their spelling, and mappings their order. -/
inductive Yaml where
  | null
  | bool (b : Bool)
  | num (spelling : String)
  | str (s : String)
  | seq (items : List Yaml)
  | map (entries : List (Yaml × Yaml))
deriving Inhabited

namespace Yaml

/-- Whether two keys are one. Collections are never taken for one key. -/
def isSameKey : Yaml → Yaml → Bool
  | null, null => true
  | bool a, bool b => a == b
  | num s, num t => s == t
  | str s, str t => s == t
  | _, _ => false

/-- The fields of a record, by their names. Nothing counts as a record without fields. -/
def fields? : Yaml → Option (List (String × Yaml))
  | null => some []
  | map entries => entries.mapM fun (key, v) =>
    match key with
    | str name => some (name, v)
    | _ => none
  | _ => none

def text? : Yaml → Option String
  | str s => some s
  | _ => none

def flag? : Yaml → Option Bool
  | bool b => some b
  | _ => none

/-- The items of a sequence, each read by `read`. Nothing counts as an empty one. -/
def items? {α : Type} (read : Yaml → Option α) : Yaml → Option (List α)
  | null => some []
  | seq items => items.mapM read
  | _ => none

end Yaml

end EtcdLocator
