import EtcdLocator.Json.Reader
import EtcdLocator.Proofs.Numerals

namespace EtcdLocator

namespace Json

def Blanks (l : List Char) : Prop := ∀ c ∈ l, isBlank c = true

structure Hex4 (l : List Char) (n : Nat) : Prop where
  length_eq : l.length = 4
  digits : ∀ c ∈ l, (Text.hexValue? c).isSome = true
  value : Text.natOfHex l = n

def shorthands : List (Char × Char) := [
  ('\"', '\"'), ('\\', '\\'), ('/', '/'), ('b', '\x08'), ('f', '\x0c'), ('n', '\n'), ('r', '\r'),
  ('t', '\t')]

inductive Chars : List Char → List Char → Prop
  | nil : Chars [] []
  | plain {c cs l} (hq : c ≠ '\"') (hb : c ≠ '\\') (hc : 0x20 ≤ c.toNat) (h : Chars cs l) :
      Chars (c :: cs) (c :: l)
  | short {mark c cs l} (hm : (mark, c) ∈ shorthands) (h : Chars cs l) :
      Chars (c :: cs) ('\\' :: mark :: l)
  | unicode {digits c cs l} (hd : Hex4 digits c.toNat) (h : Chars cs l) :
      Chars (c :: cs) ('\\' :: 'u' :: (digits ++ l))
  | pair {high low hi lo cs l} (hh : Hex4 high hi) (hl : Hex4 low lo)
      (hhi : Text.isHighSurrogate hi = true) (hlo : Text.isLowSurrogate lo = true)
      (h : Chars cs l) :
      Chars (Char.ofNat (Text.joinSurrogates hi lo) :: cs)
        ('\\' :: 'u' :: (high ++ '\\' :: 'u' :: (low ++ l)))

inductive Quoted : String → List Char → Prop
  | intro {cs l} (h : Chars cs l) : Quoted (String.ofList cs) ('\"' :: (l ++ ['\"']))

inductive Places : List Char → List Char → Prop
  | absent : Places [] []
  | present {ds} (h : Text.Digits ds) : Places ds ('.' :: ds)

inductive Power : Int → List Char → Prop
  | absent : Power 0 []
  | plain {mark ds} (hm : mark = 'e' ∨ mark = 'E') (h : Text.Digits ds) :
      Power (Text.natOfDecimal ds) (mark :: ds)
  | plus {mark ds} (hm : mark = 'e' ∨ mark = 'E') (h : Text.Digits ds) :
      Power (Text.natOfDecimal ds) (mark :: '+' :: ds)
  | minus {mark ds} (hm : mark = 'e' ∨ mark = 'E') (h : Text.Digits ds) :
      Power (-Text.natOfDecimal ds) (mark :: '-' :: ds)

/-- A number without its sign, by its digits and the power of ten that they are taken with. A zero
in front of other digits is one too many. -/
inductive Magnitude : Nat → Int → List Char → Prop
  | intro {whole ds places e power} (hw : Text.Digits whole)
      (hz : whole.head? = some '0' → whole = ['0']) (hp : Places ds places) (he : Power e power) :
      Magnitude (Text.natOfDecimal (whole ++ ds)) (e - ds.length) (whole ++ (places ++ power))

inductive Numeral : Number → List Char → Prop
  | plain {m e l} (h : Magnitude m e l) : Numeral ⟨m, e⟩ l
  | minus {m e l} (h : Magnitude m e l) : Numeral ⟨-m, e⟩ ('-' :: l)

inductive Piece where
  | value (v : Json)
  /-- A value with the white space around it. -/
  | element (v : Json)
  | elements (vs : List Json)
  /-- A field of an object, with the white space around it. -/
  | member (name : String) (v : Json)
  | members (fields : List (String × Json))

inductive Spells : Piece → List Char → Prop
  | nothing : Spells (.value .null) ['n', 'u', 'l', 'l']
  | yes : Spells (.value (.bool true)) ['t', 'r', 'u', 'e']
  | no : Spells (.value (.bool false)) ['f', 'a', 'l', 's', 'e']
  | number {n l} (h : Numeral n l) : Spells (.value (.num n)) l
  | string {s l} (h : Quoted s l) : Spells (.value (.str s)) l
  | noElements {blank} (hb : Blanks blank) : Spells (.value (.arr [])) ('[' :: (blank ++ [']']))
  | list {vs l} (h : Spells (.elements vs) l) : Spells (.value (.arr vs)) ('[' :: (l ++ [']']))
  | noMembers {blank} (hb : Blanks blank) :
      Spells (.value (.obj [])) ('\x7b' :: (blank ++ ['\x7d']))
  | object {fields l} (h : Spells (.members fields) l) :
      Spells (.value (.obj fields)) ('\x7b' :: (l ++ ['\x7d']))
  | element {v before l after} (hb : Blanks before) (h : Spells (.value v) l) (ha : Blanks after) :
      Spells (.element v) (before ++ (l ++ after))
  | lastElement {v l} (h : Spells (.element v) l) : Spells (.elements [v]) l
  | moreElements {v vs l m} (h : Spells (.element v) l) (hs : Spells (.elements vs) m) :
      Spells (.elements (v :: vs)) (l ++ ',' :: m)
  | member {name v before l after m} (hb : Blanks before) (hn : Quoted name l) (ha : Blanks after)
      (h : Spells (.element v) m) : Spells (.member name v) (before ++ (l ++ (after ++ ':' :: m)))
  | lastMember {name v l} (h : Spells (.member name v) l) : Spells (.members [(name, v)]) l
  | moreMembers {name v fields l m} (h : Spells (.member name v) l)
      (hs : Spells (.members fields) m) :
      Spells (.members ((name, v) :: fields)) (l ++ ',' :: m)

def Document (v : Json) (s : String) : Prop := Spells (.element v) s.toList

/-- More fuel than the length of anything is enough for one step. -/
theorem exists_fuel {length fuel : Nat} (h : length < fuel) : ∃ less, fuel = less + 1 :=
  Nat.exists_eq_add_one_of_ne_zero (Nat.ne_zero_of_lt h)

section Blank

theorem skipBlanks_append {blank : List Char} (hb : Blanks blank) (l : List Char) :
    skipBlanks (blank ++ l) = skipBlanks l := List.dropWhile_append_of_pos hb

theorem skipBlanks_cons {c : Char} (hc : isBlank c = false) (l : List Char) :
    skipBlanks (c :: l) = c :: l := List.dropWhile_cons_of_neg (by simp [hc])

theorem skipBlanks_skipBlanks (l : List Char) : skipBlanks (skipBlanks l) = skipBlanks l := by
  induction l with
  | nil => rfl
  | cons c l ih =>
    cases hc : isBlank c with
    | true =>
      have h : skipBlanks (c :: l) = skipBlanks l := List.dropWhile_cons_of_pos hc
      rw [h, ih]
    | false => rw [skipBlanks_cons hc, skipBlanks_cons hc]

theorem readValue_skipBlanks (fuel : Nat) (l : List Char) :
    readValue fuel (skipBlanks l) = readValue fuel l := by
  cases fuel with
  | zero => rfl
  | succ fuel => simp only [readValue, skipBlanks_skipBlanks]

theorem readItems_skipBlanks (fuel : Nat) (l : List Char) :
    readItems fuel (skipBlanks l) = readItems fuel l := by
  cases fuel with
  | zero => rfl
  | succ fuel => simp only [readItems, readValue_skipBlanks]

theorem readFields_skipBlanks (fuel : Nat) (l : List Char) :
    readFields fuel (skipBlanks l) = readFields fuel l := by
  cases fuel with
  | zero => rfl
  | succ fuel => simp only [readFields, skipBlanks_skipBlanks]

end Blank

section Text

theorem Hex4.read {digits : List Char} {n : Nat} (h : Hex4 digits n) (rest : List Char) :
    hex4? (digits ++ rest) = some (n, rest) := by
  obtain ⟨hlen, hd, rfl⟩ := h
  match digits, hlen with
  | [a, b, c, d], _ =>
    obtain ⟨i, hi⟩ := Option.isSome_iff_exists.1 (hd a (by simp))
    obtain ⟨j, hj⟩ := Option.isSome_iff_exists.1 (hd b (by simp))
    obtain ⟨k, hk⟩ := Option.isSome_iff_exists.1 (hd c (by simp))
    obtain ⟨m, hm⟩ := Option.isSome_iff_exists.1 (hd d (by simp))
    have hv : ((i * 16 + j) * 16 + k) * 16 + m = Text.natOfHex [a, b, c, d] := by
      simp only [Text.natOfHex, List.foldl_cons, List.foldl_nil, hi, hj, hk, hm, Option.getD_some]
      omega
    simp [hex4?, hi, hj, hk, hm, ← hv]

theorem readEscape_of_hex4 {digits : List Char} {c : Char} (h : Hex4 digits c.toNat)
    (rest : List Char) : readEscape ('u' :: (digits ++ rest)) = some (c, rest) := by
  have hv : c.toNat.isValidChar := c.valid
  simp [readEscape, readUnicode, h.read, hv]

theorem readEscape_of_pair {high low rest : List Char} {hi lo : Nat} (hh : Hex4 high hi)
    (hl : Hex4 low lo) (hhi : Text.isHighSurrogate hi = true)
    (hlo : Text.isLowSurrogate lo = true) :
    readEscape ('u' :: (high ++ '\\' :: 'u' :: (low ++ rest))) =
      some (Char.ofNat (Text.joinSurrogates hi lo), rest) := by
  have hv : ¬hi.isValidChar := by
    simp [Text.isHighSurrogate] at hhi
    simp [Nat.isValidChar]
    omega
  simp [readEscape, readUnicode, hh.read, hl.read, hv, hhi, hlo]

theorem readEscape_of_mem {mark c : Char} (h : (mark, c) ∈ shorthands) (rest : List Char) :
    readEscape (mark :: rest) = some (c, rest) := by
  simp only [shorthands, List.mem_cons, List.not_mem_nil, or_false, Prod.mk.injEq] at h
  rcases h with ⟨rfl, rfl⟩ | ⟨rfl, rfl⟩ | ⟨rfl, rfl⟩ | ⟨rfl, rfl⟩ | ⟨rfl, rfl⟩ | ⟨rfl, rfl⟩ |
    ⟨rfl, rfl⟩ | ⟨rfl, rfl⟩ <;> rfl

theorem readChars_escape {l m rest cs : List Char} {c : Char} {fuel : Nat}
    (he : readEscape l = some (c, m)) (h : readChars fuel m = some (cs, rest)) :
    readChars (fuel + 1) ('\\' :: l) = some (c :: cs, rest) := by
  simp [readChars, he, h]

/-- Characters are read up to the quote after them. -/
theorem Chars.read {cs l : List Char} (h : Chars cs l) (fuel : Nat) (hf : l.length < fuel)
    (rest : List Char) : readChars fuel (l ++ '\"' :: rest) = some (cs, rest) := by
  induction h generalizing fuel with
  | nil =>
    obtain ⟨fuel, rfl⟩ := exists_fuel hf
    rfl
  | @plain c cs l hq hb hc h ih =>
    obtain ⟨fuel, rfl⟩ := exists_fuel hf
    have hread := ih fuel (by simpa using hf)
    have hlow : ¬c.toNat < 0x20 := by omega
    simp [readChars, hlow, hread]
  | @short mark c cs l hm h ih =>
    obtain ⟨fuel, rfl⟩ := exists_fuel hf
    have hread := ih fuel (by simp at hf; omega)
    exact readChars_escape (readEscape_of_mem hm _) hread
  | @unicode digits c cs l hd h ih =>
    obtain ⟨fuel, rfl⟩ := exists_fuel hf
    have hread := ih fuel (by simp at hf; omega)
    simp only [List.cons_append, List.append_assoc]
    exact readChars_escape (readEscape_of_hex4 hd _) hread
  | @pair high low hi lo cs l hh hl hhi hlo h ih =>
    obtain ⟨fuel, rfl⟩ := exists_fuel hf
    have hread := ih fuel (by simp at hf; omega)
    simp only [List.cons_append, List.append_assoc]
    exact readChars_escape (readEscape_of_pair hh hl hhi hlo) hread

end Text

section Numbers

/-- After this no number goes on. -/
def Ends (rest : List Char) : Prop :=
  ∀ c ∈ rest.head?, c.isDigit = false ∧ c ≠ '.' ∧ c ≠ 'e' ∧ c ≠ 'E'

variable {ds rest : List Char}

theorem readDigits_append (hd : Text.Digits ds) (hr : ∀ c ∈ rest.head?, c.isDigit = false) :
    readDigits (ds ++ rest) = some (ds, rest) := by
  obtain ⟨hne, hall⟩ := hd
  have hstop : rest.takeWhile Char.isDigit = [] ∧ rest.dropWhile Char.isDigit = rest := by
    cases rest with
    | nil => exact ⟨rfl, rfl⟩
    | cons c rest => simp [hr c rfl]
  simp [readDigits, List.takeWhile_append_of_pos hall, List.dropWhile_append_of_pos hall, hstop,
    hne]

theorem Places.head {places more : List Char} (h : Places ds places)
    (hm : ∀ c ∈ more.head?, c.isDigit = false) :
    ∀ c ∈ (places ++ more).head?, c.isDigit = false := by
  cases h with
  | absent => exact hm
  | present _ =>
    rintro c ⟨⟩
    rfl

theorem Power.head {power : List Char} {e : Int} (h : Power e power) (hr : Ends rest) :
    ∀ c ∈ (power ++ rest).head?, c.isDigit = false ∧ c ≠ '.' := by
  cases h with
  | absent => exact fun c hc => ⟨(hr c hc).1, (hr c hc).2.1⟩
  | plain hm | plus hm | minus hm =>
    rintro c ⟨⟩
    rcases hm with rfl | rfl <;> decide

theorem Places.read {places more : List Char} (h : Places ds places)
    (hm : ∀ c ∈ more.head?, c.isDigit = false ∧ c ≠ '.') :
    readPlaces (places ++ more) = some (ds, more) := by
  cases h with
  | absent =>
    cases more with
    | nil => rfl
    | cons c more => simp [readPlaces, (hm c rfl).2]
  | present hd => exact readDigits_append hd fun c hc => (hm c hc).1

theorem readPower_mark {mark : Char} (hm : mark = 'e' ∨ mark = 'E') (l : List Char) :
    readPower (mark :: l) = readExponent l := by
  rcases hm with rfl | rfl <;> rfl

theorem Power.read {power : List Char} {e : Int} (h : Power e power) (hr : Ends rest) :
    readPower (power ++ rest) = some (e, rest) := by
  have hdigit : ∀ c ∈ rest.head?, c.isDigit = false := fun c hc => (hr c hc).1
  cases h with
  | absent =>
    cases rest with
    | nil => rfl
    | cons c rest => simp [readPower, hr c rfl]
  | @plain mark ds hm hd =>
    obtain ⟨c, ds, rfl⟩ := List.exists_cons_of_ne_nil hd.1
    have hc : c.isDigit = true := hd.2 c List.mem_cons_self
    have hplus : c ≠ '+' := by rintro rfl; cases hc
    have hminus : c ≠ '-' := by rintro rfl; cases hc
    have hread := readDigits_append hd hdigit
    rw [List.cons_append] at hread
    simp [readPower_mark hm, readExponent, hplus, hminus, hread, Text.ofDigitChars_eq]
  | plus hm hd | minus hm hd =>
    have hread := readDigits_append hd hdigit
    simp [readPower_mark hm, readExponent, hread, Text.ofDigitChars_eq]

theorem Magnitude.read {m : Nat} {e : Int} {l : List Char} (h : Magnitude m e l) (hr : Ends rest) :
    readUnsigned (l ++ rest) = some (m, e, rest) := by
  obtain ⟨hw, hz, hp, he⟩ := h
  rename_i whole ds places e power
  have hhead := he.head hr
  have hwhole := readDigits_append hw (hp.head fun c hc => (hhead c hc).1)
  have hzero : ¬(whole.head? = some '0' ∧ whole ≠ ['0']) := fun h => h.2 (hz h.1)
  have hplaces := hp.read hhead
  have hpower := he.read hr
  simp only [List.append_assoc, readUnsigned, hwhole, hplaces, hpower, Option.bind_eq_bind,
    Option.bind_some, if_neg hzero, Text.ofDigitChars_eq]
  rfl

theorem Magnitude.head {m : Nat} {e : Int} {l : List Char} (h : Magnitude m e l) :
    ∃ c more, l = c :: more ∧ c.isDigit = true := by
  obtain ⟨hw, -, -, -⟩ := h
  obtain ⟨c, more, rfl⟩ := List.exists_cons_of_ne_nil hw.1
  exact ⟨c, _, rfl, hw.2 c List.mem_cons_self⟩

theorem Numeral.read {n : Number} {l : List Char} (h : Numeral n l) (hr : Ends rest) :
    readNumber (l ++ rest) = some (n, rest) := by
  cases h with
  | plain h =>
    obtain ⟨c, more, rfl, hc⟩ := h.head
    have hminus : c ≠ '-' := by rintro rfl; cases hc
    have hread := h.read hr
    rw [List.cons_append] at hread
    simp [readNumber, hminus, hread]
  | minus h => simp [readNumber, h.read hr]

end Numbers

section Values

theorem Quoted.read {s : String} {l : List Char} (h : Quoted s l) :
    ∃ body, l = '\"' :: body ∧ ∀ rest, readString (body ++ rest) = some (s, rest) := by
  obtain ⟨h⟩ := h
  rename_i cs l
  refine ⟨_, rfl, fun rest => ?_⟩
  have hread := h.read (l ++ '\"' :: rest).length (by simp) rest
  rw [List.append_assoc, List.singleton_append, readString, hread]
  rfl

/-- What a piece opens with, where white space does not count. -/
def Opens : Piece → List Char → Prop
  | .value _, l => ∃ c more, l = c :: more ∧ isBlank c = false ∧ c ≠ ']'
  | .element _, l | .elements _, l => ∀ rest, ∃ c more, skipBlanks (l ++ rest) = c :: more ∧ c ≠ ']'
  | .member _ _, l | .members _, l => ∀ rest, ∃ more, skipBlanks (l ++ rest) = '\"' :: more

theorem Numeral.head {n : Number} {l : List Char} (h : Numeral n l) :
    ∃ c more, l = c :: more ∧ (c.isDigit = true ∨ c = '-') := by
  cases h with
  | plain h =>
    obtain ⟨c, more, rfl, hc⟩ := h.head
    exact ⟨c, more, rfl, .inl hc⟩
  | minus h => exact ⟨_, _, rfl, .inr rfl⟩

/-- A number opens like no other value. -/
theorem ne_of_opens_number {c d : Char} (hc : c.isDigit = true ∨ c = '-')
    (hd : d.isDigit = false) (hm : d ≠ '-') : c ≠ d := by
  rintro rfl
  rcases hc with hc | rfl
  · cases hd.symm.trans hc
  · exact hm rfl

theorem isBlank_of_opens_number {c : Char} (hc : c.isDigit = true ∨ c = '-') :
    isBlank c = false := by
  simp [isBlank, ne_of_opens_number hc]

theorem Spells.opens {piece : Piece} {l : List Char} (h : Spells piece l) : Opens piece l := by
  -- only the first piece of a row counts
  induction h with
  | nothing | yes | no | noElements | list | noMembers | object => exact ⟨_, _, rfl, rfl, by decide⟩
  | number h =>
    obtain ⟨c, more, rfl, hc⟩ := h.head
    exact ⟨c, more, rfl, isBlank_of_opens_number hc, ne_of_opens_number hc rfl (by decide)⟩
  | string h =>
    obtain ⟨body, rfl, -⟩ := h.read
    exact ⟨_, _, rfl, rfl, by decide⟩
  | element hb h ha ih =>
    obtain ⟨c, more, rfl, hc, hne⟩ := ih
    intro rest
    rw [List.append_assoc, skipBlanks_append hb, List.append_assoc, List.cons_append,
      skipBlanks_cons hc]
    exact ⟨c, _, rfl, hne⟩
  | lastElement h ih => exact ih
  | moreElements h hs ih _ =>
    intro rest
    rw [List.append_assoc]
    exact ih _
  | member hb hn ha h ih =>
    obtain ⟨body, rfl, -⟩ := hn.read
    intro rest
    rw [List.append_assoc, skipBlanks_append hb, List.cons_append, List.cons_append]
    exact ⟨_, rfl⟩
  | lastMember h ih => exact ih
  | moreMembers h hs ih _ =>
    intro rest
    rw [List.append_assoc]
    exact ih _

def Reads : Piece → List Char → Prop
  | .value v, l => ∀ fuel rest, l.length ≤ fuel → Ends rest →
    readValue fuel (l ++ rest) = some (v, rest)
  | .element v, l => ∀ fuel rest, l.length ≤ fuel → Ends rest →
    ∃ more, readValue fuel (l ++ rest) = some (v, more) ∧ skipBlanks more = skipBlanks rest
  | .elements vs, l => ∀ fuel rest, l.length < fuel →
    readItems fuel (l ++ ']' :: rest) = some (vs, rest)
  | .member name v, l => ∀ fuel rest, l.length ≤ fuel →
    readFields (fuel + 1) (l ++ '\x7d' :: rest) = some ([(name, v)], rest) ∧
    readFields (fuel + 1) (l ++ ',' :: rest) =
      (readFields fuel rest).map fun r => ((name, v) :: r.1, r.2)
  | .members fields, l => ∀ fuel rest, l.length < fuel →
    readFields fuel (l ++ '\x7d' :: rest) = some (fields, rest)

variable {fuel : Nat} {l rest : List Char}

theorem readValue_number {c : Char} (hc : c.isDigit = true ∨ c = '-') :
    readValue (fuel + 1) (c :: l) = (readNumber (c :: l)).map fun r => (.num r.1, r.2) := by
  simp [readValue, skipBlanks_cons (isBlank_of_opens_number hc), ne_of_opens_number hc]

theorem readValue_list {c : Char} {more : List Char} (h : skipBlanks l = c :: more) (hc : c ≠ ']') :
    readValue (fuel + 1) ('[' :: l) = (readItems fuel l).map fun r => (.arr r.1, r.2) := by
  rw [← readItems_skipBlanks, h, readValue, skipBlanks_cons rfl]
  simp [h, hc]

theorem readValue_object {more : List Char} (h : skipBlanks l = '\"' :: more) :
    readValue (fuel + 1) ('\x7b' :: l) = (readFields fuel l).map fun r => (.obj r.1, r.2) := by
  rw [← readFields_skipBlanks, h, readValue, skipBlanks_cons rfl]
  simp [h]

theorem Ends.append {blank : List Char} (hb : Blanks blank) (hr : Ends rest) :
    Ends (blank ++ rest) := by
  cases blank with
  | nil => exact hr
  | cons c blank =>
    rintro _ ⟨⟩
    have hc : isBlank c = true := hb c List.mem_cons_self
    simp only [isBlank, Bool.or_eq_true, decide_eq_true_iff] at hc
    rcases hc with ((rfl | rfl) | rfl) | rfl <;> decide

theorem ends_cons {c : Char} (hc : c = ',' ∨ c = ']' ∨ c = '\x7d') : Ends (c :: rest) := by
  rintro _ ⟨⟩
  rcases hc with rfl | rfl | rfl <;> decide

variable {name : String} {v : Json} {vs : List Json} {fields : List (String × Json)} {m : List Char}

theorem reads_number {n : Number} (h : Numeral n l) : Reads (.value (.num n)) l := by
  intro fuel rest hf hr
  have hread := h.read hr
  obtain ⟨c, more, rfl, hc⟩ := h.head
  obtain ⟨fuel, rfl⟩ := exists_fuel hf
  rw [List.cons_append] at hread ⊢
  rw [readValue_number hc, hread]
  rfl

theorem reads_string (h : Quoted name l) : Reads (.value (.str name)) l := by
  obtain ⟨body, rfl, hread⟩ := h.read
  intro fuel rest hf hr
  obtain ⟨fuel, rfl⟩ := exists_fuel hf
  rw [List.cons_append, readValue, skipBlanks_cons rfl]
  simp [hread]

theorem reads_noElements (hb : Blanks l) : Reads (.value (.arr [])) ('[' :: (l ++ [']'])) := by
  intro fuel rest hf hr
  obtain ⟨fuel, rfl⟩ := exists_fuel hf
  have hskip : skipBlanks (l ++ ']' :: rest) = ']' :: rest := by
    rw [skipBlanks_append hb, skipBlanks_cons rfl]
  rw [List.cons_append, readValue, skipBlanks_cons rfl]
  simp [hskip]

theorem reads_noMembers (hb : Blanks l) :
    Reads (.value (.obj [])) ('\x7b' :: (l ++ ['\x7d'])) := by
  intro fuel rest hf hr
  obtain ⟨fuel, rfl⟩ := exists_fuel hf
  have hskip : skipBlanks (l ++ '\x7d' :: rest) = '\x7d' :: rest := by
    rw [skipBlanks_append hb, skipBlanks_cons rfl]
  rw [List.cons_append, readValue, skipBlanks_cons rfl]
  simp [hskip]

theorem reads_list (ho : Opens (.elements vs) l) (h : Reads (.elements vs) l) :
    Reads (.value (.arr vs)) ('[' :: (l ++ [']'])) := by
  intro fuel rest hf hr
  obtain ⟨fuel, rfl⟩ := exists_fuel hf
  obtain ⟨c, more, hskip, hc⟩ := ho (']' :: rest)
  have hread := h fuel rest (by simp at hf; omega)
  rw [List.cons_append, List.append_assoc, List.singleton_append, readValue_list hskip hc, hread]
  rfl

theorem reads_object (ho : Opens (.members fields) l) (h : Reads (.members fields) l) :
    Reads (.value (.obj fields)) ('\x7b' :: (l ++ ['\x7d'])) := by
  intro fuel rest hf hr
  obtain ⟨fuel, rfl⟩ := exists_fuel hf
  obtain ⟨more, hskip⟩ := ho ('\x7d' :: rest)
  have hread := h fuel rest (by simp at hf; omega)
  rw [List.cons_append, List.append_assoc, List.singleton_append, readValue_object hskip, hread]
  rfl

theorem reads_element {before after : List Char} (hb : Blanks before) (ha : Blanks after)
    (h : Reads (.value v) l) : Reads (.element v) (before ++ (l ++ after)) := by
  intro fuel rest hf hr
  have hread := h fuel (after ++ rest) (by simp at hf; omega) (hr.append ha)
  refine ⟨after ++ rest, ?_, skipBlanks_append ha rest⟩
  rw [← readValue_skipBlanks, List.append_assoc, skipBlanks_append hb, readValue_skipBlanks,
    List.append_assoc, hread]

theorem reads_lastElement (h : Reads (.element v) l) : Reads (.elements [v]) l := by
  intro fuel rest hf
  obtain ⟨fuel, rfl⟩ := exists_fuel hf
  obtain ⟨more, hread, hskip⟩ := h fuel (']' :: rest) (by omega) (ends_cons (by simp))
  rw [skipBlanks_cons rfl] at hskip
  simp [readItems, hread, hskip]

theorem reads_moreElements (h : Reads (.element v) l) (hs : Reads (.elements vs) m) :
    Reads (.elements (v :: vs)) (l ++ ',' :: m) := by
  intro fuel rest hf
  obtain ⟨fuel, rfl⟩ := exists_fuel hf
  rw [List.length_append, List.length_cons] at hf
  obtain ⟨more, hread, hskip⟩ :=
    h fuel (',' :: (m ++ ']' :: rest)) (by omega) (ends_cons (by simp))
  have hreads := hs fuel rest (by omega)
  rw [skipBlanks_cons rfl] at hskip
  simp [readItems, hread, hskip, hreads]

theorem reads_member {before after : List Char} (hb : Blanks before) (hn : Quoted name l)
    (ha : Blanks after) (h : Reads (.element v) m) :
    Reads (.member name v) (before ++ (l ++ (after ++ ':' :: m))) := by
  obtain ⟨body, rfl, hname⟩ := hn.read
  intro fuel rest hf
  -- what follows a member tells whether more of them come
  have hopen (tail : List Char) :
      skipBlanks (before ++ ('\"' :: body ++ (after ++ ':' :: m)) ++ tail) =
        '\"' :: (body ++ (after ++ ':' :: (m ++ tail))) := by
    rw [List.append_assoc, skipBlanks_append hb]
    simp only [List.cons_append, List.append_assoc]
    exact skipBlanks_cons rfl _
  have hcolon (tail : List Char) :
      skipBlanks (after ++ ':' :: (m ++ tail)) = ':' :: (m ++ tail) := by
    rw [skipBlanks_append ha, skipBlanks_cons rfl]
  have hm : m.length ≤ fuel := by
    simp at hf
    omega
  obtain ⟨more, hlast, hbrace⟩ := h fuel ('\x7d' :: rest) hm (ends_cons (by simp))
  obtain ⟨more', hnext, hcomma⟩ := h fuel (',' :: rest) hm (ends_cons (by simp))
  rw [skipBlanks_cons rfl] at hbrace hcomma
  constructor
  · simp only [readFields, hopen, hname, hcolon, hlast, hbrace]
  · simp only [readFields, hopen, hname, hcolon, hnext, hcomma]

theorem reads_lastMember (h : Reads (.member name v) l) : Reads (.members [(name, v)]) l := by
  intro fuel rest hf
  obtain ⟨fuel, rfl⟩ := exists_fuel hf
  exact (h fuel rest (by omega)).1

theorem reads_moreMembers (h : Reads (.member name v) l) (hs : Reads (.members fields) m) :
    Reads (.members ((name, v) :: fields)) (l ++ ',' :: m) := by
  intro fuel rest hf
  obtain ⟨fuel, rfl⟩ := exists_fuel hf
  rw [List.length_append, List.length_cons] at hf
  have hreads := hs fuel rest (by omega)
  rw [List.append_assoc, List.cons_append, (h fuel _ (by omega)).2, hreads]
  rfl

/-- Every piece of a document is read. -/
theorem Spells.reads {piece : Piece} (h : Spells piece l) : Reads piece l := by
  induction h with
  | nothing | yes | no =>
    intro fuel rest hf hr
    obtain ⟨fuel, rfl⟩ := exists_fuel hf
    rfl
  | number h => exact reads_number h
  | string h => exact reads_string h
  | noElements hb => exact reads_noElements hb
  | list h ih => exact reads_list h.opens ih
  | noMembers hb => exact reads_noMembers hb
  | object h ih => exact reads_object h.opens ih
  | element hb h ha ih => exact reads_element hb ha ih
  | lastElement h ih => exact reads_lastElement ih
  | moreElements h hs ih ihs => exact reads_moreElements ih ihs
  | member hb hn ha h ih => exact reads_member hb hn ha ih
  | lastMember h ih => exact reads_lastMember ih
  | moreMembers h hs ih ihs => exact reads_moreMembers ih ihs

theorem Document.parse_eq {s : String} (h : Document v s) : parse? s = some v := by
  have hlen : s.toList.length ≤ s.length + 1 := String.length_toList ▸ Nat.le_succ _
  obtain ⟨more, hread, hskip⟩ := h.reads (s.length + 1) [] hlen nofun
  have hnil : skipBlanks more = [] := hskip
  rw [List.append_nil] at hread
  rw [parse?, hread]
  simp [hnil]

/-- A text is one document at most. -/
theorem Document.unique {v' : Json} {s : String} (h : Document v s) (h' : Document v' s) :
    v = v' := Option.some.inj (h.parse_eq.symm.trans h'.parse_eq)

end Values

end Json

end EtcdLocator
