namespace EtcdLocator

/-- A value. Fractional numbers and moments in time stay as they are written. -/
inductive Toml where
  | str (s : String)
  | int (i : Int)
  | float (literal : String)
  | bool (b : Bool)
  | moment (literal : String)
  | arr (items : List Toml)
  | table (fields : List (String × Toml))
deriving Inhabited

end EtcdLocator
