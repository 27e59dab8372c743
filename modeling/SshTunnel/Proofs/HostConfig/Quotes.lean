import SshTunnel.HostConfig.Line
import Mathlib.Tactic.Common

/-!
# Quotes in a value

A quote is open behind a text with an odd number of quotes. A value in which one stays open is
refused both as a directive's value and as a list of arguments, and every other value is read.
-/

namespace SshTunnel.HostConfig

/-- Behind this text a quote is open. -/
def IsOpen (t : Text) : Prop := t.count '"' % 2 = 1

instance (t : Text) : Decidable (IsOpen t) := inferInstanceAs (Decidable (_ = _))

theorem not_isOpen_nil : ¬ IsOpen [] := by decide

theorem isOpen_concat_quote (t : Text) : IsOpen (t ++ ['"']) ↔ ¬ IsOpen t := by
  simp only [IsOpen, List.count_append, List.count_singleton_self]
  omega

theorem isOpen_concat {c : Char} (h : c ≠ '"') (t : Text) : IsOpen (t ++ [c]) ↔ IsOpen t := by
  simp [IsOpen, List.count_append, h]

/-! ## Values -/

theorem unquote?_eq_none_iff (value : Text) : unquote? value = none ↔ IsOpen value := by
  unfold unquote? IsOpen
  split
  next hopen => simp [hopen]
  next hopen => split <;> simp [hopen]

/-- Only an empty pair of quotes stands for the empty value. -/
theorem unquote?_eq_nil_iff {value : Text} (hne : value ≠ []) :
    unquote? value = some [] ↔ value = ['"', '"'] := by
  constructor
  · intro h
    unfold unquote? at h
    split at h
    · cases h
    · split at h
      next hpair =>
        simp only [Bool.and_eq_true, decide_eq_true_eq] at hpair
        obtain ⟨⟨hlength, hhead⟩, hlast⟩ := hpair
        obtain ⟨more, rfl⟩ := List.head?_eq_some_iff.mp hhead
        have hmore : more ≠ [] := by
          rintro rfl
          simp at hlength
        obtain ⟨front, last, rfl⟩ := (List.eq_nil_or_concat more).resolve_left hmore
        obtain rfl : front = [] := by simpa using h
        obtain rfl : last = '"' := by simpa using hlast
        rfl
      next => exact absurd (Option.some.inj h) hne
  · rintro rfl
    decide

/-! ## Arguments -/

/-- Behind `front`, the text has a character of an argument: one that is no quote, and no blank
unless a quote is open. -/
def HasArgumentAfter (front t : Text) : Prop :=
  ∃ before c after, t = before ++ c :: after ∧ c ≠ '"' ∧
    (Text.isBlank c = true → IsOpen (front ++ before))

/-- The value has a character that is no quote, and no blank unless a quote is open. -/
def HasArgument (value : Text) : Prop := HasArgumentAfter [] value

theorem not_hasArgumentAfter_nil (front : Text) : ¬ HasArgumentAfter front [] := by
  rintro ⟨before, c, after, h, -⟩
  cases before <;> cases h

theorem hasArgumentAfter_cons (front : Text) (c : Char) (t : Text) :
    HasArgumentAfter front (c :: t) ↔
      (c ≠ '"' ∧ (Text.isBlank c = true → IsOpen front)) ∨ HasArgumentAfter (front ++ [c]) t := by
  constructor
  · rintro ⟨before, d, after, h, hd, hblank⟩
    cases before with
    | nil =>
        obtain ⟨rfl, rfl⟩ := List.cons.inj h
        exact Or.inl ⟨hd, by simpa using hblank⟩
    | cons e before =>
        obtain ⟨rfl, rfl⟩ := List.cons.inj h
        exact Or.inr ⟨before, d, after, rfl, hd, by simpa using hblank⟩
  · rintro (⟨hc, hblank⟩ | ⟨before, d, after, rfl, hd, hblank⟩)
    · exact ⟨[], c, t, rfl, hc, by simpa using hblank⟩
    · exact ⟨c :: before, d, after, rfl, hd, by simpa using hblank⟩

/-- Reading arguments on from `front` fails when a quote is open at the end. -/
theorem argumentsFrom_eq_none_iff (front t : Text) :
    argumentsFrom (decide (IsOpen front)) t = none ↔ IsOpen (front ++ t) := by
  induction t generalizing front with
  | nil => simp [argumentsFrom]
  | cons c t ih =>
      have hmore := ih (front ++ [c])
      rw [List.append_assoc, List.singleton_append] at hmore
      rw [← hmore, argumentsFrom]
      by_cases hquote : c = '"'
      · subst hquote
        simp [isOpen_concat_quote]
      · simp only [if_neg hquote, isOpen_concat hquote]
        split
        next hblank => simp_all
        next => simp

theorem arguments?_eq_none_iff (value : Text) : arguments? value = none ↔ IsOpen value := by
  have h := argumentsFrom_eq_none_iff [] value
  simp only [not_isOpen_nil, decide_false, List.nil_append] at h
  rw [arguments?, Option.map_eq_none_iff, h]

end SshTunnel.HostConfig
