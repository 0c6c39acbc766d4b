namespace EtcdLocator.Text

def bytes (s : String) : List UInt8 := s.toByteArray.data.toList

def BytesLt (s t : String) : Prop := bytes s < bytes t

instance (s t : String) : Decidable (BytesLt s t) := inferInstanceAs (Decidable (bytes s < bytes t))

/-- The trailing octets that a lead octet asks for, and the bounds on the first of them. -/
structure Lead where
  bits : Nat
  tails : Nat
  least : Nat := 0x80
  greatest : Nat := 0xbf

def lead? (b : Nat) : Option Lead :=
  if b < 0x80 then some ⟨b, 0, 0x80, 0xbf⟩
  else if b < 0xc2 then none
  else if b < 0xe0 then some ⟨b - 0xc0, 1, 0x80, 0xbf⟩
  else if b = 0xe0 then some ⟨0, 2, 0xa0, 0xbf⟩
  else if b = 0xed then some ⟨0xd, 2, 0x80, 0x9f⟩
  else if b < 0xf0 then some ⟨b - 0xe0, 2, 0x80, 0xbf⟩
  else if b = 0xf0 then some ⟨0, 3, 0x90, 0xbf⟩
  else if b < 0xf4 then some ⟨b - 0xf0, 3, 0x80, 0xbf⟩
  else if b = 0xf4 then some ⟨4, 3, 0x80, 0x8f⟩
  else none

def takeTails (bits least greatest : Nat) : Nat → List UInt8 → Option Nat × List UInt8
  | 0, l => (some bits, l)
  | _ + 1, [] => (none, [])
  | n + 1, b :: l =>
    if least ≤ b.toNat ∧ b.toNat ≤ greatest then
      takeTails (bits * 64 + b.toNat % 64) 0x80 0xbf n l
    else (none, b :: l)

theorem length_takeTails_le (bits least greatest n : Nat) (l : List UInt8) :
    (takeTails bits least greatest n l).2.length ≤ l.length := by
  induction n generalizing bits least greatest l with
  | zero => simp [takeTails]
  | succ n ih =>
    cases l with
    | nil => simp [takeTails]
    | cons b l =>
      simp only [takeTails]
      split
      · exact Nat.le_succ_of_le (ih ..)
      · simp

/-- The characters that octets spell, with `none` for each longest ill-formed run. -/
def decode : List UInt8 → List (Option Char)
  | [] => []
  | b :: l =>
    match lead? b.toNat with
    | none => none :: decode l
    | some h =>
      let r := takeTails h.bits h.least h.greatest h.tails l
      r.1.map Char.ofNat :: decode r.2
termination_by l => l.length
decreasing_by
  · simp
  · exact Nat.lt_succ_of_le (length_takeTails_le ..)

def ofBytes? (l : List UInt8) : Option String :=
  ((decode l).mapM id).map String.ofList

/-- The text that octets spell, with U+FFFD in place of what is ill-formed. -/
def lossy (l : List UInt8) : String :=
  String.ofList ((decode l).map (·.getD '\ufffd'))

end EtcdLocator.Text
