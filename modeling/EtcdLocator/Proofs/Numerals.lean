import EtcdLocator.Text.Numeral
import Mathlib.Data.List.Induction
import Mathlib.Data.Nat.Digits.Defs

namespace EtcdLocator.Text

def natOfHex (l : List Char) : Nat := l.foldl (fun n c => 16 * n + (hexValue? c).getD 0) 0

theorem hexValue?_digitChar {n : Nat} (h : n < 16) : hexValue? n.digitChar = some n := by
  have hall : ∀ i : Fin 16, hexValue? (i : Nat).digitChar = some (i : Nat) := by decide
  exact hall ⟨n, h⟩

theorem natOfHex_concat (l : List Char) (c : Char) :
    natOfHex (l ++ [c]) = 16 * natOfHex l + (hexValue? c).getD 0 := by
  rw [natOfHex, List.foldl_append]
  rfl

/-- The digits of a number are the last one, after those of the number without it. -/
theorem toDigits_induction {b : Nat} (hb : 1 < b) {P : Nat → List Char → Prop}
    (single : ∀ n < b, P n [n.digitChar])
    (concat : ∀ n, b ≤ n → P (n / b) (Nat.toDigits b (n / b)) →
      P n (Nat.toDigits b (n / b) ++ [(n % b).digitChar])) (n : Nat) :
    P n (Nat.toDigits b n) := by
  induction n using Nat.strongRecOn with
  | ind n ih =>
    rw [Nat.toDigits_eq_if hb]
    split
    · rename_i h
      exact single n h
    · rename_i h
      have hle : b ≤ n := Nat.le_of_not_lt h
      exact concat n hle (ih (n / b) (Nat.div_lt_self (by omega) hb))

theorem natOfHex_toDigits (n : Nat) : natOfHex (Nat.toDigits 16 n) = n := by
  refine toDigits_induction (by decide) (P := fun n l => natOfHex l = n) ?_ ?_ n
  · intro n h
    simp [natOfHex, hexValue?_digitChar h]
  · intro n _ ih
    have hmod : n % 16 < 16 := Nat.mod_lt n (by decide)
    rw [natOfHex_concat, ih, hexValue?_digitChar hmod, Option.getD_some]
    exact Nat.div_add_mod n 16

theorem hex_injective {m n : Nat} (h : hex m = hex n) : m = n := by
  have hdigits : Nat.toDigits 16 m = Nat.toDigits 16 n := String.ofList_injective h
  rw [← natOfHex_toDigits m, hdigits, natOfHex_toDigits]

def LowerHex (l : List Char) : Prop := ∀ c ∈ l, c.isDigit = true ∨ 'a' ≤ c ∧ c ≤ 'f'

theorem lowerHex_toDigits (n : Nat) : LowerHex (Nat.toDigits 16 n) := by
  have hall : ∀ i : Fin 16, (i : Nat).digitChar.isDigit = true ∨
      'a' ≤ (i : Nat).digitChar ∧ (i : Nat).digitChar ≤ 'f' := by decide
  have hdigit {d : Nat} (hd : d < 16) : LowerHex [d.digitChar] := by
    intro c hc
    rw [List.mem_singleton.1 hc]
    exact hall ⟨d, hd⟩
  refine toDigits_induction (by decide) (P := fun _ l => LowerHex l) (fun n h => hdigit h) ?_ n
  intro n _ ih c hc
  rcases List.mem_append.1 hc with hc | hc
  · exact ih c hc
  · exact hdigit (Nat.mod_lt n (by decide)) c hc

def natOfDecimal (l : List Char) : Nat :=
  Nat.ofDigits 10 (l.reverse.map fun c => c.toNat - '0'.toNat)

theorem ofDigitChars_eq (l : List Char) : Nat.ofDigitChars 10 l 0 = natOfDecimal l := by
  induction l using List.reverseRecOn with
  | nil => rfl
  | append_singleton l c ih =>
    rw [Nat.ofDigitChars_append, ih, Nat.ofDigitChars_cons, Nat.ofDigitChars_nil, natOfDecimal,
      natOfDecimal, List.reverse_concat, List.map_cons, Nat.ofDigits_cons, Nat.add_comm]

def Digits (l : List Char) : Prop := l ≠ [] ∧ ∀ c ∈ l, c.isDigit = true

theorem natOfDigits?_eq_some_iff {l : List Char} {n : Nat} :
    natOfDigits? l = some n ↔ Digits l ∧ n = natOfDecimal l := by
  have hfault : (l.isEmpty || l.any (!·.isDigit)) = true ↔ ¬Digits l := by
    simp [Digits, imp_iff_not_or]
  unfold natOfDigits?
  rw [ofDigitChars_eq]
  split
  · rename_i h
    exact iff_of_false nofun fun hd => hfault.1 h hd.1
  · rename_i h
    rw [Option.some.injEq, eq_comm, iff_and_self]
    exact fun _ => not_not.1 fun hd => h (hfault.2 hd)

theorem digits_toDigits (n : Nat) : Digits (Nat.toDigits 10 n) :=
  ⟨List.ne_nil_of_length_pos Nat.length_toDigits_pos,
    fun _ => Nat.isDigit_of_mem_toDigits (by decide) (by decide)⟩

@[simp] theorem natOfDecimal_toDigits (n : Nat) : natOfDecimal (Nat.toDigits 10 n) = n := by
  rw [← ofDigitChars_eq, Nat.ofDigitChars_ten_toDigits]

theorem head?_toDigits_ne {n : Nat} (h : n ≠ 0) : (Nat.toDigits 10 n).head? ≠ some '0' := by
  refine toDigits_induction (by decide) (P := fun n l => n ≠ 0 → l.head? ≠ some '0') ?_ ?_ n h
  · intro n _ h
    simpa using h
  · intro n hle ih _
    have hdiv : n / 10 ≠ 0 := by omega
    obtain ⟨c, l, hl⟩ := List.exists_cons_of_ne_nil (digits_toDigits (n / 10)).1
    have hhead := ih hdiv
    rw [hl] at hhead ⊢
    exact hhead

/-- No zero leads but that of zero itself. -/
theorem toDigits_of_head? {n : Nat} (h : (Nat.toDigits 10 n).head? = some '0') :
    Nat.toDigits 10 n = ['0'] := by
  by_cases hn : n = 0
  · rw [hn, Nat.toDigits_zero]
  · exact absurd h (head?_toDigits_ne hn)

end EtcdLocator.Text
