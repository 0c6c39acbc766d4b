namespace EtcdLocator.Text

/-- The parts before, between and after all marks. -/
def fields (mark : Char) : List Char → List (List Char)
  | [] => [[]]
  | c :: l =>
    if c = mark then [] :: fields mark l
    else
      match fields mark l with
      | [] => [[c]]
      | first :: more => (c :: first) :: more

theorem fields_ne_nil (mark : Char) (l : List Char) : fields mark l ≠ [] := by
  induction l with
  | nil => simp [fields]
  | cons c l ih => grind [fields]

def fieldsOf (mark : Char) (s : String) : List String := (fields mark s.toList).map String.ofList

end EtcdLocator.Text
