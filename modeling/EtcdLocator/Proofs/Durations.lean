import EtcdLocator.Duration
import EtcdLocator.Proofs.Numerals
import Mathlib.Data.List.DropRight

namespace EtcdLocator

namespace Text

/-- All white space around `t` in `l`, and nothing else of it, is missing from `t`. -/
structure Trims (l t : List Char) : Prop where
  around : ∃ before after, l = before ++ t ++ after ∧ ∀ c ∈ before ++ after, isBlank c = true
  first : ∀ c ∈ t.head?, isBlank c = false
  last : ∀ c ∈ t.getLast?, isBlank c = false

theorem dropWhile_eq_self {p : Char → Bool} {l : List Char} (h : ∀ c ∈ l.head?, p c = false) :
    l.dropWhile p = l := by
  cases l with
  | nil => rfl
  | cons c l => exact List.dropWhile_cons_of_neg (by simp [h c rfl])

theorem head?_dropWhile {p : Char → Bool} {l : List Char} :
    ∀ c ∈ (l.dropWhile p).head?, p c = false := by
  intro c hc
  have h := List.head?_dropWhile_not p l
  rw [hc] at h
  exact h

theorem trim_eq (l : List Char) : trim l = (l.dropWhile isBlank).rdropWhile isBlank := rfl

theorem trims_trim (l : List Char) : Trims l (trim l) := by
  rw [trim_eq]
  set m := l.dropWhile isBlank with hm
  obtain ⟨after, hafter⟩ := List.rdropWhile_prefix isBlank m
  refine ⟨⟨l.takeWhile isBlank, m.rtakeWhile isBlank, ?_, ?_⟩, ?_, ?_⟩
  · rw [List.append_assoc, List.rdropWhile_append_rtakeWhile, hm, List.takeWhile_append_dropWhile]
  · intro c hc
    rcases List.mem_append.1 hc with hc | hc
    · exact List.mem_takeWhile_imp hc
    · exact List.mem_takeWhile_imp (List.mem_reverse.1 hc)
  · -- the text begins as it did before its end was cut off
    intro c hc
    apply head?_dropWhile c
    rw [← hm, ← hafter, List.head?_append, hc]
    rfl
  · intro c hc
    rw [List.rdropWhile, List.getLast?_reverse] at hc
    exact head?_dropWhile c hc

theorem Trims.eq_trim {l t : List Char} (h : Trims l t) : t = trim l := by
  obtain ⟨before, after, rfl, hall⟩ := h.around
  obtain ⟨hbefore, hafter⟩ := List.forall_mem_append.1 hall
  rw [trim, List.append_assoc, List.dropWhile_append_of_pos hbefore]
  cases t with
  | nil => rw [List.nil_append, List.dropWhile_eq_nil_iff.2 hafter]; rfl
  | cons c t =>
    have hc : isBlank c = false := h.first c rfl
    have hrev : ∀ d ∈ (c :: t).reverse.head?, isBlank d = false := by
      rw [List.head?_reverse]
      exact h.last
    rw [List.cons_append, List.dropWhile_cons_of_neg (by simp [hc]), ← List.cons_append,
      List.reverse_append, List.dropWhile_append_of_pos (by simpa using hafter),
      dropWhile_eq_self hrev, List.reverse_reverse]

theorem trims_iff {l t : List Char} : Trims l t ↔ t = trim l :=
  ⟨Trims.eq_trim, fun h => h ▸ trims_trim l⟩

end Text

namespace Duration

/-- What so many of a unit come to in milliseconds. Of no unit may there be `2 ^ 64`, nor of minutes
so many that their seconds are. -/
inductive Counts (n : Nat) : List Char → Nat → Prop
  | millis (h : n < 2 ^ 64) : Counts n ['m', 's'] n
  | seconds (h : n < 2 ^ 64) : Counts n ['s'] (1000 * n)
  | minutes (h : n < 2 ^ 64) (hs : 60 * n < 2 ^ 64) : Counts n ['m'] (1000 * (60 * n))
  | bare (h : n < 2 ^ 64) : Counts n [] (1000 * n)

/-- A count and the unit that is counted. One plus may stand before the count. -/
inductive Spells : List Char → Nat → Prop
  | intro {plus digits suffix millis} (hp : plus = [] ∨ plus = ['+']) (hd : Text.Digits digits)
      (h : Counts (Text.natOfDecimal digits) suffix millis) :
      Spells (plus ++ digits ++ suffix) millis

theorem count?_eq_some_iff {l : List Char} {n : Nat} :
    count? l = some n ↔ ∃ plus digits, (plus = [] ∨ plus = ['+']) ∧ Text.Digits digits ∧
      l = plus ++ digits ∧ n = Text.natOfDecimal digits := by
  unfold count?
  split
  · rename_i l
    rw [Text.natOfDigits?_eq_some_iff]
    constructor
    · rintro ⟨hd, hn⟩
      exact ⟨['+'], l, .inr rfl, hd, rfl, hn⟩
    · rintro ⟨_, digits, rfl | rfl, hd, h, hn⟩
      · obtain rfl : '+' :: l = digits := h
        exact absurd (hd.2 '+' List.mem_cons_self) (by decide)
      · cases h
        exact ⟨hd, hn⟩
  · rename_i hplus
    rw [Text.natOfDigits?_eq_some_iff]
    constructor
    · rintro ⟨hd, hn⟩
      exact ⟨[], l, .inl rfl, hd, rfl, hn⟩
    · rintro ⟨_, digits, rfl | rfl, hd, h, hn⟩
      · exact h ▸ ⟨hd, hn⟩
      · exact absurd h (hplus digits)

/-- The units count as they are listed. -/
theorem counts_iff {unit : Unit} (hu : unit ∈ units) {n millis : Nat} :
    Counts n unit.suffix millis ↔ n ≤ unit.greatest ∧ millis = n * unit.millis := by
  have hsize : UInt64.size = 2 ^ 64 := rfl
  simp only [units, List.mem_cons, List.not_mem_nil, or_false] at hu
  -- the greatest count of minutes is set by their seconds, of the others by the count itself
  rcases hu with rfl | rfl | rfl | rfl <;> dsimp only <;> rw [hsize]
  · constructor
    · rintro ⟨h⟩
      omega
    · rintro ⟨h, rfl⟩
      exact (Nat.mul_one n).symm ▸ .millis (Nat.lt_of_le_pred (by decide) h)
  · constructor
    · rintro ⟨h⟩
      omega
    · rintro ⟨h, rfl⟩
      exact Nat.mul_comm 1000 n ▸ .seconds (Nat.lt_of_le_pred (by decide) h)
  · constructor
    · rintro ⟨h, hs⟩
      omega
    · rintro ⟨h, rfl⟩
      have hm : 1000 * (60 * n) = n * 60000 := by omega
      exact hm ▸ .minutes (by omega) (by omega)
  · constructor
    · rintro ⟨h⟩
      omega
    · rintro ⟨h, rfl⟩
      exact Nat.mul_comm 1000 n ▸ .bare (Nat.lt_of_le_pred (by decide) h)

theorem mem_units_of_counts {n millis : Nat} {suffix : List Char} (h : Counts n suffix millis) :
    ∃ unit ∈ units, unit.suffix = suffix := by
  cases h <;> simp [units]

/-- Of the units that a text may end in, the right one is found: what it counts ends in a digit. -/
theorem find?_units {front : List Char} {c : Char} (hc : c.isDigit = true) {unit : Unit}
    (hu : unit ∈ units) :
    units.find? (·.suffix.isSuffixOf (front ++ [c] ++ unit.suffix)) = some unit := by
  have hs : 's' ≠ c := by rintro rfl; exact absurd hc (by decide)
  have hm : 'm' ≠ c := by rintro rfl; exact absurd hc (by decide)
  simp only [units, List.mem_cons, List.not_mem_nil, or_false] at hu
  rcases hu with rfl | rfl | rfl | rfl <;> simp [units, List.isSuffixOf, hs, hm]

/-- The count and the unit that a trimmed text is taken apart into. -/
theorem spells_iff {t : List Char} {millis : Nat} :
    Spells t millis ↔ ∃ unit n, units.find? (·.suffix.isSuffixOf t) = some unit ∧
      count? (t.take (t.length - unit.suffix.length)) = some n ∧
      n ≤ unit.greatest ∧ millis = n * unit.millis := by
  constructor
  · rintro ⟨hp, hd, h⟩
    rename_i plus digits suffix
    obtain ⟨unit, hu, rfl⟩ := mem_units_of_counts h
    -- the last digit keeps the unit from being taken for another
    obtain ⟨front, c, rfl⟩ := (List.eq_nil_or_concat' digits).resolve_left hd.1
    have hc : c.isDigit = true := hd.2 c List.mem_concat_self
    refine ⟨unit, _, ?_, ?_, (counts_iff hu).1 h⟩
    · rw [← List.append_assoc plus front [c]]
      exact find?_units hc hu
    · rw [List.length_append, Nat.add_sub_cancel, List.take_left]
      exact count?_eq_some_iff.2 ⟨plus, _, hp, hd, rfl, rfl⟩
  · rintro ⟨unit, n, hu, hn, hcount⟩
    have hsuffix : unit.suffix <:+ t := by simpa using List.find?_some hu
    obtain ⟨front, rfl⟩ := hsuffix
    rw [List.length_append, Nat.add_sub_cancel, List.take_left] at hn
    obtain ⟨plus, digits, hp, hd, rfl, rfl⟩ := count?_eq_some_iff.1 hn
    exact .intro hp hd ((counts_iff (List.mem_of_find?_eq_some hu)).2 hcount)

theorem ite_eq_some_iff {n greatest millis : Nat} {d : Duration} :
    (if n ≤ greatest then some ⟨millis⟩ else none) = some d ↔ n ≤ greatest ∧ d.millis = millis := by
  split
  · rename_i h
    rw [Option.some.injEq]
    constructor
    · rintro rfl
      exact ⟨h, rfl⟩
    · rintro ⟨-, rfl⟩
      rfl
  · rename_i h
    exact iff_of_false nofun fun hd => h hd.1

/-- A text is a length of time exactly if, but for the white space around it, it is a count and a
unit; and then it is as long as they say. -/
theorem parse?_eq_some_iff_spells (s : String) (d : Duration) :
    parse? s = some d ↔ ∃ t, Text.Trims s.toList t ∧ Spells t d.millis := by
  simp only [Text.trims_iff, exists_eq_left, spells_iff, parse?, Option.bind_eq_bind,
    Option.bind_eq_some_iff, ite_eq_some_iff]
  exact exists_congr fun _ => exists_and_left.symm

/-- A blank inside is one too many. -/
example : parse? "\u2003+0250ms\n" = some ⟨250⟩ ∧ parse? "250 ms" = none := by
  decide +kernel

end Duration

end EtcdLocator
