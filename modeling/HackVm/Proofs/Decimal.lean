import HackVm.Word
import Mathlib.Data.Nat.Basic

/-!
# Decimal text of numbers

The decimal text of a number has only digits and at least one of them, so it never
looks like a name. Reading it gives the number back as long as that is a word.
-/

namespace HackVm.Word

/-- The decimal text of a number consists of its digits. -/
theorem toList_toString (number : Nat) : (toString number).toList = Nat.toDigits 10 number :=
  Nat.toList_repr

/-- The decimal text of a number has only digits. -/
theorem isDigit_of_mem_toString {number : Nat} {char : Char}
    (h : char ∈ (toString number).toList) : char.isDigit = true := by
  rw [toList_toString] at h
  exact Nat.isDigit_of_mem_toDigits (by decide) (by decide) h

/-- The decimal text of a number has a digit. -/
theorem toList_toString_ne_nil (number : Nat) : (toString number).toList ≠ [] := by
  rw [toList_toString]
  exact Nat.toDigits_ne_nil

/-- The decimal text of a number starts with a digit. -/
theorem exists_toString_eq_cons (number : Nat) :
    ∃ digit rest, (toString number).toList = digit :: rest ∧ digit.isDigit = true := by
  obtain ⟨digit, rest, h⟩ := List.exists_cons_of_ne_nil (toList_toString_ne_nil number)
  exact ⟨digit, rest, h, isDigit_of_mem_toString (h ▸ List.mem_cons_self)⟩

/-- Different numbers have different decimal texts. -/
theorem toString_injective {left right : Nat} (h : toString left = toString right) :
    left = right := by
  have hl := Nat.ofDigitChars_ten_toDigits (n := left)
  rw [← toList_toString, h, toList_toString, Nat.ofDigitChars_ten_toDigits] at hl
  exact hl.symm

/-- Further digits never make a number smaller. -/
theorem le_ofDigitChars (digits : List Char) (value : Nat) :
    value ≤ Nat.ofDigitChars 10 digits value := by
  induction digits generalizing value with
  | nil => rw [Nat.ofDigitChars_nil]
  | cons digit digits ih =>
    have hi := ih (10 * value + (digit.toNat - '0'.toNat))
    rw [Nat.ofDigitChars_cons]
    omega

/-- Digits are read to a word exactly if the word is the number that they denote. The value only
grows with each digit, so one that is no word does not become one. -/
theorem readDigits_eq_ok_iff {digits : List Char} {value : Nat} {word : Word}
    (hvalue : value ≤ 65535) :
    readDigits value digits = .ok word ↔
      (∀ digit ∈ digits, digit.isDigit = true) ∧
        Nat.ofDigitChars 10 digits value = word.toNat := by
  induction digits generalizing value with
  | nil =>
    have hmod : value % 2 ^ 16 = value := Nat.mod_eq_of_lt (by omega)
    rw [readDigits, Except.ok.injEq, Nat.ofDigitChars_nil, ← BitVec.toNat_inj, BitVec.toNat_ofNat,
      hmod]
    simp
  | cons digit digits ih =>
    have hm : value * 10 + (digit.toNat - '0'.toNat) =
        10 * value + (digit.toNat - '0'.toNat) := by omega
    rw [readDigits, Nat.ofDigitChars_cons, List.forall_mem_cons, hm]
    by_cases hd : digit.isDigit = true
    · by_cases hn : 10 * value + (digit.toNat - '0'.toNat) ≤ 65535
      · rw [if_pos hd, if_pos hn, ih hn]
        simp only [hd, true_and]
      · have hg := le_ofDigitChars digits (10 * value + (digit.toNat - '0'.toNat))
        have hw := word.isLt
        rw [if_pos hd, if_neg hn]
        constructor
        · rintro ⟨⟩
        · rintro ⟨-, he⟩
          omega
    · rw [if_neg hd]
      constructor
      · rintro ⟨⟩
      · rintro ⟨⟨h, -⟩, -⟩
        exact absurd h hd

/-- Reading the decimal text of a word gives the word back. -/
theorem ofDigits_toString {number : Nat} (h : number ≤ 65535) :
    ofDigits (toString number).toList = .ok (BitVec.ofNat 16 number) := by
  have hmod : number % 2 ^ 16 = number := Nat.mod_eq_of_lt (by omega)
  rw [ofDigits, readDigits_eq_ok_iff (by omega)]
  refine ⟨fun _ => isDigit_of_mem_toString, ?_⟩
  rw [toList_toString, Nat.ofDigitChars_ten_toDigits, BitVec.toNat_ofNat, hmod]

end HackVm.Word
