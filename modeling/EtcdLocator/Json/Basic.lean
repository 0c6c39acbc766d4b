namespace EtcdLocator

/-- The number `mantissa * 10 ^ exponent`; an integer literal has exponent `0`. -/
structure Json.Number where
  mantissa : Int
  exponent : Int := 0
deriving DecidableEq, Repr

/-- A JSON document. The fields of an object keep their order, repeated names included. -/
inductive Json where
  | null
  | bool (b : Bool)
  | num (n : Json.Number)
  | str (s : String)
  | arr (items : List Json)
  | obj (fields : List (String × Json))
deriving Inhabited

namespace Json

def nat (n : Nat) : Json := .num ⟨n, 0⟩

def strs (l : List String) : Json := .arr (l.map .str)

/-- The value of the last field of that name. -/
def field? (name : String) : Json → Option Json
  | .obj fields => (fields.reverse.find? (·.1 = name)).map (·.2)
  | _ => none

end Json

end EtcdLocator
