import SshTunnel.Text.Numeral
import Mathlib.Tactic.IntervalCases

/-!
# Reading a written number

The digits that are written for a number have its digits as their values, and these values
make up the number again. A number whose digits are too many is not written.
-/

namespace SshTunnel.Text

theorem digitValue?_digitChar {d : Nat} (h : d < 10) :
    digitValue? (Nat.digitChar d) = some d := by
  interval_cases d <;> decide

namespace Numeral

theorem value_append (digits : List Nat) (d : Nat) :
    value (digits ++ [d]) = 10 * value digits + d := by
  simp [value]

/-- Reading the digits of a number gives the number. -/
theorem exists_digits_ofNat (n : Nat) :
    ∃ digits, (ofNat n).mapM digitValue? = some digits ∧
      digits.length = (ofNat n).length ∧ value digits = n := by
  induction n using Nat.strong_induction_on with
  | _ n ih =>
      by_cases hn : n < 10
      · have hwritten : ofNat n = [Nat.digitChar n] := Nat.toDigits_of_lt_base hn
        refine ⟨[n], ?_, ?_, ?_⟩
        · simp [hwritten, digitValue?_digitChar hn]
        · simp [hwritten]
        · simp [value]
      · -- The last digit is the remainder, and the digits before it are those of the quotient.
        have hwritten : ofNat n = ofNat (n / 10) ++ [Nat.digitChar (n % 10)] :=
          Nat.toDigits_of_base_le (by decide) (by omega)
        have hlast : n % 10 < 10 := by omega
        obtain ⟨digits, hdigits, hlength, hvalue⟩ := ih (n / 10) (by omega)
        refine ⟨digits ++ [n % 10], ?_, ?_, ?_⟩
        · rw [hwritten, List.mapM_append]
          simp [hdigits, digitValue?_digitChar hlast]
        · simp [hwritten, hlength]
        · rw [value_append, hvalue]
          omega

/-- A number below ten to the power of the limit is read. -/
theorem length_ofNat_le {n : Nat} (h : n < 10 ^ maxDigits) : (ofNat n).length ≤ maxDigits :=
  (Nat.length_toDigits_le_iff (by decide) (by decide)).mpr h

theorem isWritable_iff (n : Int) :
    isWritable n = true ↔ (ofNat n.natAbs).length ≤ maxDigits := by
  rw [isWritable, decide_eq_true_eq]

/-- A number of an absolute value below ten to the power of the limit is written. -/
theorem isWritable_of_lt {n : Int} (h : n.natAbs < 10 ^ maxDigits) : isWritable n = true :=
  (isWritable_iff n).mpr (length_ofNat_le h)

/-- A number of five digits can be written, and so the port of every server. -/
theorem isWritable_of_le {n : Int} (h : n.natAbs ≤ 65535) : isWritable n = true := by
  apply isWritable_of_lt
  calc n.natAbs ≤ 65535 := h
    _ < 10 ^ 5 := by decide
    _ ≤ 10 ^ maxDigits := Nat.pow_le_pow_right (by decide) (by decide)

theorem write_of_isWritable {n : Int} (h : isWritable n = true) : write n = .ok (ofInt n) := by
  rw [write, if_pos h]

theorem write_of_not_isWritable {n : Int} (h : isWritable n = false) :
    write n = .error .written := by
  rw [write, h, if_neg Bool.false_ne_true]

end Numeral

/-! ## Different numbers -/

theorem ofNat_injective : Function.Injective ofNat := by
  intro m n h
  obtain ⟨digits, hdigits, -, hm⟩ := Numeral.exists_digits_ofNat m
  obtain ⟨digits', hdigits', -, hn⟩ := Numeral.exists_digits_ofNat n
  rw [h, hdigits'] at hdigits
  rw [← hm, ← hn, Option.some.inj hdigits]

theorem ofNat_ne_minus_cons (n : Nat) (t : Text) : ofNat n ≠ '-' :: t := by
  obtain ⟨digits, hdigits, -, -⟩ := Numeral.exists_digits_ofNat n
  have hminus : digitValue? '-' = none := by decide
  intro h
  simp [h, hminus] at hdigits

/-- Two integers are written alike only if they are the same. -/
theorem ofInt_injective : Function.Injective ofInt := by
  intro m n h
  cases m with
  | ofNat m =>
      cases n with
      | ofNat n => rw [ofNat_injective h]
      | negSucc n => exact absurd h (ofNat_ne_minus_cons m _)
  | negSucc m =>
      cases n with
      | ofNat n => exact absurd h.symm (ofNat_ne_minus_cons n _)
      | negSucc n =>
          have hdigits : m + 1 = n + 1 := ofNat_injective (List.cons.inj h).2
          rw [Nat.succ.inj hdigits]

end SshTunnel.Text
