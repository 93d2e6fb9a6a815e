import Mathlib.Logic.Function.Basic
import StructBridge.Text.Basic

/-!
Numbers as texts: the characters that they are written with, and that each text stands for one number.
-/
namespace StructBridge.Text

theorem numeral_nat (n : Nat) : ofString (toString n) = (Nat.toDigits 10 n).map .char := by
  simp [ofString]

theorem numeral_ofNat (n : Nat) :
    ofString (toString (Int.ofNat n)) = (Nat.toDigits 10 n).map .char := by
  simp [ofString, Int.toString_eq_repr, Int.repr]

theorem numeral_negSucc (n : Nat) :
    ofString (toString (Int.negSucc n)) = .char '-' :: (Nat.toDigits 10 (n + 1)).map .char := by
  simp [ofString, Int.toString_eq_repr, Int.repr]

theorem digits_value (n : Nat) :
    ∀ c ∈ (Nat.toDigits 10 n).map CodePoint.char, 0x30 ≤ c.value ∧ c.value ≤ 0x39 := by
  intro u member
  obtain ⟨c, digit, rfl⟩ := List.mem_map.mp member
  have isDigit := Nat.isDigit_of_mem_toDigits (by decide) (by decide) digit
  simp only [Char.isDigit, Bool.and_eq_true, decide_eq_true_eq, UInt32.le_iff_toNat_le] at isDigit
  exact isDigit

theorem numeral_value {n : Int} {c : CodePoint} (member : c ∈ ofString (toString n)) :
    c = .char '-' ∨ 0x30 ≤ c.value ∧ c.value ≤ 0x39 := by
  cases n with
  | ofNat k =>
    rw [numeral_ofNat] at member
    exact .inr (digits_value k c member)
  | negSucc k =>
    rw [numeral_negSucc] at member
    rcases List.mem_cons.mp member with sign | digit
    · exact .inl sign
    · exact .inr (digits_value (k + 1) c digit)

theorem slash_not_mem_numeral (n : Nat) : .char '/' ∉ ofString (toString n) := by
  rw [numeral_nat]
  intro member
  have low := (digits_value n _ member).1
  exact absurd low (by decide)

theorem digits_injective {m n : Nat}
    (same : (Nat.toDigits 10 m).map CodePoint.char = (Nat.toDigits 10 n).map .char) : m = n := by
  have digits := (List.map_inj_right fun _ _ => CodePoint.char.inj).mp same
  have values := congrArg (fun cs => Nat.ofDigitChars 10 cs 0) digits
  simpa using values

theorem numeral_nat_injective : Function.Injective fun n : Nat => ofString (toString n) := by
  intro m n same
  simp only [numeral_nat] at same
  exact digits_injective same

/-- A sign is no digit, so it tells the two kinds of numbers apart. -/
theorem numeral_injective : Function.Injective fun n : Int => ofString (toString n) := by
  have unsigned (m k : Nat) : (Nat.toDigits 10 m).map CodePoint.char ≠
      .char '-' :: (Nat.toDigits 10 k).map .char := by
    intro same
    have low := (digits_value m (.char '-') (same ▸ List.mem_cons_self)).1
    exact absurd low (by decide)
  intro m n same
  cases m with
  | ofNat j =>
    cases n with
    | ofNat k =>
      simp only [numeral_ofNat] at same
      exact congrArg Int.ofNat (digits_injective same)
    | negSucc k =>
      simp only [numeral_ofNat, numeral_negSucc] at same
      exact absurd same (unsigned j (k + 1))
  | negSucc j =>
    cases n with
    | ofNat k =>
      simp only [numeral_ofNat, numeral_negSucc] at same
      exact absurd same.symm (unsigned k (j + 1))
    | negSucc k =>
      simp only [numeral_negSucc] at same
      have next := digits_injective (List.cons.inj same).2
      exact congrArg Int.negSucc (Nat.succ.inj next)

end StructBridge.Text
