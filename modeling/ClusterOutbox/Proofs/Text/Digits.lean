import ClusterOutbox.Text.Digits
import Mathlib.Data.List.Basic

namespace ClusterOutbox

theorem digit_range {c : Char} (h : isDecimalDigit c = true) : 48 ≤ c.toNat ∧ c.toNat ≤ 57 := by
  unfold isDecimalDigit digitValue? at h
  split at h
  next hrange => exact ⟨hrange.1, hrange.2⟩
  next => cases h

theorem isDecimalDigit_digitChar (d : Nat) : isDecimalDigit (digitChar d) = true := by
  rw [isDecimalDigit, digitValue?_digitChar]
  rfl

theorem all_decimalDigits (n : Nat) : (decimalDigits n).all isDecimalDigit = true := by
  induction n using Nat.strongRecOn with
  | ind n ih =>
    unfold decimalDigits
    split
    · simp [isDecimalDigit_digitChar]
    · rw [List.all_append, ih (n / 10) (by omega)]
      simp [isDecimalDigit_digitChar]

theorem decimalDigits_ne_nil (n : Nat) : decimalDigits n ≠ [] := by
  unfold decimalDigits
  split <;> simp

theorem decimalDigits_zero : decimalDigits 0 = ['0'] := by
  rw [decimalDigits, if_pos (by decide)]
  rfl

/-- No number but zero begins with a zero. -/
theorem head?_decimalDigits {n : Nat} (hn : n ≠ 0) : (decimalDigits n).head? ≠ some '0' := by
  induction n using Nat.strongRecOn with
  | ind n ih =>
    unfold decimalDigits
    split
    next hlt =>
      have hdigits : ∀ d < 10, d ≠ 0 → digitChar d ≠ '0' := by decide
      simpa using hdigits n hlt hn
    next hge =>
      rw [List.head?_append_of_ne_nil _ (decimalDigits_ne_nil _)]
      exact ih (n / 10) (by omega) (by omega)

theorem digitValue?_cases {c : Char} (h : isDecimalDigit c = true) :
    ∃ d, d < 10 ∧ digitValue? c = some d ∧ digitChar d = c := by
  obtain ⟨hlow, hhigh⟩ := digit_range h
  refine ⟨c.toNat - 48, by omega, if_pos ⟨hlow, hhigh⟩, ?_⟩
  have hcode : 48 + (c.toNat - 48) % 10 = c.toNat := by omega
  change Char.ofNat (48 + (c.toNat - 48) % 10) = c
  rw [hcode, Char.ofNat_toNat]

theorem all_fixedDigits (width n : Nat) : (fixedDigits width n).all isDecimalDigit = true := by
  induction width generalizing n with
  | zero => rfl
  | succ width ih =>
    rw [fixedDigits, List.all_append, ih (n / 10)]
    simp [isDecimalDigit_digitChar]

@[simp] theorem length_fixedDigits (width n : Nat) : (fixedDigits width n).length = width := by
  induction width generalizing n with
  | zero => rfl
  | succ width ih => simp [fixedDigits, ih]

theorem digitsValue_fixedDigits (width n : Nat) :
    digitsValue (fixedDigits width n) = n % Nat.pow 10 width := by
  induction width generalizing n with
  | zero =>
    change 0 = n % 1
    omega
  | succ width ih =>
    rw [fixedDigits, digitsValue_concat, ih, digitValue?_digitChar, Option.getD_some]
    have hpow : Nat.pow 10 (width + 1) = 10 * Nat.pow 10 width := Nat.mul_comm _ _
    rw [hpow, Nat.mod_mul]
    omega

/-- Leading zeros add nothing. -/
theorem digitsValue_replicate_zero (k : Nat) (cs : List Char) :
    digitsValue (List.replicate k '0' ++ cs) = digitsValue cs := by
  induction k with
  | zero => rfl
  | succ k ih =>
    rw [List.replicate_succ, List.cons_append, ← ih]
    rfl

theorem all_paddedDigits (width n : Nat) : (paddedDigits width n).all isDecimalDigit = true := by
  have hzeros : ∀ k, (List.replicate k '0').all isDecimalDigit = true := by
    intro k
    refine List.all_eq_true.mpr ?_
    intro c hc
    rw [List.eq_of_mem_replicate hc]
    decide
  simp only [paddedDigits, List.all_append, hzeros, all_decimalDigits, Bool.and_self]

theorem paddedDigits_ne_nil (width n : Nat) : paddedDigits width n ≠ [] :=
  List.append_ne_nil_of_right_ne_nil _ (decimalDigits_ne_nil n)

theorem digitsValue_paddedDigits (width n : Nat) : digitsValue (paddedDigits width n) = n := by
  simp only [paddedDigits, digitsValue_replicate_zero, digitsValue_decimalDigits]

/-- Digits are taken up to the first character that is none. -/
theorem takeWhile_digits {ds rest : List Char} (h : ds.all isDecimalDigit = true)
    (hstop : ∀ c ∈ rest.head?, isDecimalDigit c = false) :
    (ds ++ rest).takeWhile isDecimalDigit = ds ∧ (ds ++ rest).dropWhile isDecimalDigit = rest := by
  have hdigits : ∀ c ∈ ds, isDecimalDigit c = true := List.all_eq_true.mp h
  rw [List.takeWhile_append_of_pos hdigits, List.dropWhile_append_of_pos hdigits]
  cases rest with
  | nil => simp
  | cons c rest => simp [hstop c rfl]

end ClusterOutbox
