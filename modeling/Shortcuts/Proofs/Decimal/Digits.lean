import Shortcuts.Decimal.Natural
/-!
# Digits read back

Reading the decimal digits of a number gives that number (`natural?_toDigits`).
-/

namespace Shortcuts.Decimal

theorem digit?_of_isDigit {c : Char} (h : c.isDigit) : digit? c = some (c.toNat - '0'.toNat) := by
  have between : '0' ≤ c ∧ c ≤ '9' := by simpa [Char.isDigit, Char.le_def] using h
  simp [digit?, between]

theorem readFrom?_eq {cs : List Char} (digits : ∀ c ∈ cs, c.isDigit) (acc : Nat) :
    readFrom? acc cs = some (Nat.ofDigitChars 10 cs acc) := by
  induction cs generalizing acc with
  | nil => simp [readFrom?]
  | cons c cs ih =>
    have step := ih (fun d hd => digits d (by simp [hd])) (acc * 10 + (c.toNat - '0'.toNat))
    rw [readFrom?, digit?_of_isDigit (digits c (by simp)), Option.bind_some, step,
      Nat.ofDigitChars_cons, Nat.mul_comm]

theorem isDigit_of_mem_toDigits {n : Nat} {c : Char} (h : c ∈ Nat.toDigits 10 n) : c.isDigit :=
  Nat.isDigit_of_mem_toDigits (by decide) (by decide) h

/-- What is no digit does not stand among the digits of a number. -/
theorem not_mem_toDigits {c : Char} (h : c.isDigit = false) (n : Nat) :
    c ∉ Nat.toDigits 10 n := by
  intro mem
  rw [isDigit_of_mem_toDigits mem] at h
  contradiction

/-- The digits of a number within the bound read back as that number. -/
theorem natural?_toDigits {bound n : Nat} (h : n ≤ bound) :
    natural? bound (Nat.toDigits 10 n) = some n := by
  have read := readFrom?_eq (fun c => isDigit_of_mem_toDigits (n := n) (c := c)) 0
  rw [Nat.ofDigitChars_ten_toDigits] at read
  cases hd : Nat.toDigits 10 n with
  | nil => exact absurd hd Nat.toDigits_ne_nil
  | cons c cs =>
    have noSign : c ≠ '+' := by
      rintro rfl
      exact not_mem_toDigits (by decide) n (hd ▸ List.mem_cons_self)
    rw [hd] at read
    simp [natural?, noSign, digits?, read, h]

end Shortcuts.Decimal
