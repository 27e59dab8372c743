import SshTunnel.Text.Glob
import SshTunnel.Text.Lower
import Mathlib.Tactic.Common

/-!
# What lower case leaves alone

`LowersTo` lists the ways in which one character is written in lower case. From it follow that
lower case brings no bracket and no wildcard into a text, since the characters that it can bring
in stand behind them in the table of characters, and that every character of a text in lower
case is its own lower case.
-/

namespace SshTunnel.Text

/-! ## Ways to lower case -/

/-- The lower case of the first character has the second one in it. -/
inductive LowersTo (c : Char) : Char → Prop where
  | ascii (h : c.toNat < 0x80) (hletter : ¬ (0x41 ≤ c.toNat ∧ c.toNat ≤ 0x5a)) : LowersTo c c
  | letter (hfirst : 0x41 ≤ c.toNat) (hlast : c.toNat ≤ 0x5a) :
      LowersTo c (Char.ofNat (c.toNat + 0x20))
  | dotted {d : Char} (h : d = 'i' ∨ d = Char.ofNat 0x307) : LowersTo c d
  | run {run : CaseRun} (hmem : run ∈ caseRuns) (hcovers : run.covers c.toNat = true) :
      LowersTo c (Char.ofNat (c.toNat + run.shift).toNat)
  | other (h : ¬ c.toNat < 0x80) (hdotted : c.toNat ≠ 0x130)
      (hruns : ∀ run ∈ caseRuns, run.covers c.toNat = false) : LowersTo c c

theorem lowersTo_of_mem {c d : Char} (h : d ∈ lowerChar c) : LowersTo c d := by
  unfold lowerChar at h
  by_cases hascii : c.toNat < 0x80
  · rw [if_pos hascii, List.mem_singleton] at h
    by_cases hletter : 0x41 ≤ c.toNat ∧ c.toNat ≤ 0x5a
    · rw [if_pos (by simpa using hletter)] at h
      subst h
      exact .letter hletter.1 hletter.2
    · rw [if_neg (by simpa using hletter)] at h
      subst h
      exact .ascii hascii hletter
  · rw [if_neg hascii] at h
    by_cases hdotted : c.toNat = 0x130
    · rw [if_pos hdotted] at h
      exact .dotted (by simpa using h)
    · rw [if_neg hdotted] at h
      split at h
      next run hrun =>
        rw [List.mem_singleton] at h
        have hcovers : run.covers c.toNat = true := by simpa using List.find?_some hrun
        subst h
        exact .run (List.mem_of_find?_eq_some hrun) hcovers
      next hnone =>
        rw [List.mem_singleton] at h
        subst h
        exact .other hascii hdotted (by simpa using hnone)

/-- A character of a text in lower case is a small sigma or comes from one character. -/
theorem exists_of_mem_lowerAfter {before t : Text} {d : Char} (h : d ∈ lowerAfter before t) :
    d = 'ς' ∨ d = 'σ' ∨ ∃ c ∈ t, d ∈ lowerChar c := by
  induction t generalizing before with
  | nil => simp [lowerAfter] at h
  | cons c rest ih =>
      rw [lowerAfter, List.mem_append] at h
      rcases h with h | h
      · by_cases hsigma : c = 'Σ'
        · rw [if_pos hsigma, List.mem_singleton] at h
          split at h
          · exact Or.inl h
          · exact Or.inr (Or.inl h)
        · rw [if_neg hsigma] at h
          exact Or.inr (Or.inr ⟨c, List.mem_cons_self, h⟩)
      · obtain h | h | ⟨c', hc', hd⟩ := ih h
        · exact Or.inl h
        · exact Or.inr (Or.inl h)
        · exact Or.inr (Or.inr ⟨c', List.mem_cons_of_mem c hc', hd⟩)

/-! ## Characters that lower case brings in -/

/-- A character that lower case can bring in: one behind the brackets, or the one for a code
point that is none. -/
def IsLowered (c : Char) : Prop := c.toNat = 0 ∨ 0x60 < c.toNat

instance (c : Char) : Decidable (IsLowered c) := inferInstanceAs (Decidable (_ ∨ _))

/-- The code point of a character made from one is that code point, or zero when it is none. -/
theorem toNat_ofNat_or (n : Nat) : (Char.ofNat n).toNat = n ∨ (Char.ofNat n).toNat = 0 := by
  by_cases hvalid : n.isValidChar
  · rw [Char.ofNat, dif_pos hvalid]
    exact Or.inl rfl
  · rw [Char.ofNat, dif_neg hvalid]
    exact Or.inr rfl

theorem isLowered_ofNat {n : Nat} (h : 0x60 < n) : IsLowered (Char.ofNat n) := by
  rcases toNat_ofNat_or n with hcode | hcode
  · exact Or.inr (by rwa [hcode])
  · exact Or.inl hcode

theorem caseRuns_above : ∀ run ∈ caseRuns, (0x60 : Int) < run.first + run.shift := by
  decide +kernel

theorem above_of_covers {run : CaseRun} (hmem : run ∈ caseRuns) {n : Nat}
    (hcovers : run.covers n = true) : 0x60 < (n + run.shift).toNat := by
  have habove := caseRuns_above run hmem
  simp only [CaseRun.covers, Bool.and_eq_true, decide_eq_true_eq] at hcovers
  obtain ⟨⟨hfirst, -⟩, -⟩ := hcovers
  omega

theorem LowersTo.isLowered {c d : Char} (h : LowersTo c d) : d = c ∨ IsLowered d := by
  cases h with
  | ascii => exact Or.inl rfl
  | letter hfirst => exact Or.inr (isLowered_ofNat (by omega))
  | dotted h =>
      rcases h with rfl | rfl
      · exact Or.inr (by decide)
      · exact Or.inr (isLowered_ofNat (by decide))
  | run hmem hcovers => exact Or.inr (isLowered_ofNat (above_of_covers hmem hcovers))
  | other => exact Or.inl rfl

theorem isLowered_of_mem_lower {t : Text} {d : Char} (h : d ∈ lower t) : d ∈ t ∨ IsLowered d := by
  obtain rfl | rfl | ⟨c, hc, hd⟩ := exists_of_mem_lowerAfter h
  · exact Or.inr (by decide)
  · exact Or.inr (by decide)
  · obtain rfl | hlow := (lowersTo_of_mem hd).isLowered
    · exact Or.inl hc
    · exact Or.inr hlow

/-- A character up to the brackets that is not in a text is not in its lower case. -/
theorem notMem_lower {t : Text} {c : Char} (hcode : ¬ IsLowered c) (h : c ∉ t) : c ∉ lower t :=
  fun hmem => (isLowered_of_mem_lower hmem).elim h hcode

/-- Lower case brings no wildcard in. -/
theorem hasWildcard_lower {t : Text} (h : Glob.hasWildcard t = false) :
    Glob.hasWildcard (lower t) = false := by
  have hnone : ∀ c ∈ t, ¬ (c = '*' ∨ c = '?' ∨ c = '[') := by
    simpa [Glob.hasWildcard, or_assoc] using h
  rw [Glob.hasWildcard, List.any_eq_false]
  intro d hd
  rcases isLowered_of_mem_lower hd with hmem | hlow
  · simpa [or_assoc] using hnone d hmem
  · simp only [Bool.or_eq_true, decide_eq_true_eq]
    rintro ((rfl | rfl) | rfl) <;> exact absurd hlow (by decide)

/-! ## Characters that are their own lower case -/

/-- The character is its own lower case. -/
def IsSettled (c : Char) : Prop := lowerChar c = [c]

instance (c : Char) : Decidable (IsSettled c) := inferInstanceAs (Decidable (_ = _))

theorem isSettled_of_ascii {c : Char} (h : c.toNat < 0x80)
    (hletter : ¬ (0x41 ≤ c.toNat ∧ c.toNat ≤ 0x5a)) : IsSettled c := by
  simp [IsSettled, lowerChar, h, hletter]

theorem isSettled_of_not_covers {c : Char} (h : ¬ c.toNat < 0x80) (hdotted : c.toNat ≠ 0x130)
    (hruns : ∀ run ∈ caseRuns, run.covers c.toNat = false) : IsSettled c := by
  have hnone : caseRuns.find? (·.covers c.toNat) = none := by simpa using hruns
  simp [IsSettled, lowerChar, h, hdotted, hnone]

/-- The first code point that a run leads to. -/
def CaseRun.lowest (r : CaseRun) : Nat := (r.first + r.shift).toNat

/-- The last code point that a run leads to. -/
def CaseRun.highest (r : CaseRun) : Nat := (r.last + r.shift).toNat

/-- No code point that the first run leads to is in the second one: it lies before or behind it,
or between its steps. -/
def CaseRun.isApart (r s : CaseRun) : Bool :=
  r.highest.blt s.first || s.last.blt r.lowest
    || ((r.step == 2 || r.first == r.last) && s.step == 2 && (r.lowest + s.first) % 2 == 1)

/-- The dotted capital I, which has a lower case of two characters. -/
def dottedRun : CaseRun := ⟨0x130, 0x130, 1, 0⟩

theorem caseRuns_isApart :
    (caseRuns.all fun r => (dottedRun :: caseRuns).all (r.isApart ·)) = true := by
  decide +kernel

theorem CaseRun.not_covers {r s : CaseRun} (h : r.isApart s = true) {n : Nat}
    (hn : r.covers n = true) (hpos : (0 : Int) < r.first + r.shift) :
    s.covers (n + r.shift).toNat = false := by
  simp only [covers, Bool.and_eq_true, decide_eq_true_eq, beq_iff_eq] at hn
  obtain ⟨⟨hfirst, hlast⟩, hstep⟩ := hn
  by_contra hcovers
  simp only [covers, Bool.not_eq_false, Bool.and_eq_true, decide_eq_true_eq, beq_iff_eq] at hcovers
  obtain ⟨⟨hfirst', hlast'⟩, hstep'⟩ := hcovers
  simp only [isApart, lowest, highest, Bool.or_eq_true, Bool.and_eq_true, Nat.blt_eq,
    beq_iff_eq] at h
  rcases h with (h | h) | ⟨⟨h | h, h'⟩, hodd⟩
  · omega
  · omega
  · rw [h] at hstep
    rw [h'] at hstep'
    omega
  · rw [h'] at hstep'
    omega

/-- No run covers what a run leads to. -/
theorem not_covers_of_covers {run : CaseRun} (hmem : run ∈ caseRuns) {n : Nat}
    (hcovers : run.covers n = true) :
    ∀ s ∈ dottedRun :: caseRuns, s.covers (n + run.shift).toNat = false := by
  intro s hs
  have hapart : run.isApart s = true :=
    List.all_eq_true.mp (List.all_eq_true.mp caseRuns_isApart run hmem) s hs
  have habove := caseRuns_above run hmem
  exact CaseRun.not_covers hapart hcovers (by omega)

/-- The character that a run leads to is its own lower case. -/
theorem isSettled_of_covers {run : CaseRun} (hmem : run ∈ caseRuns) {n : Nat}
    (hcovers : run.covers n = true) : IsSettled (Char.ofNat (n + run.shift).toNat) := by
  have habove := above_of_covers hmem hcovers
  have hmiss := not_covers_of_covers hmem hcovers
  generalize (n + run.shift).toNat = code at habove hmiss ⊢
  rcases toNat_ofNat_or code with hcode | hcode
  · rw [← hcode] at habove hmiss
    by_cases hascii : (Char.ofNat code).toNat < 0x80
    · exact isSettled_of_ascii hascii (by omega)
    · refine isSettled_of_not_covers hascii ?_ fun s hs => hmiss s (List.mem_cons_of_mem _ hs)
      intro hdotted
      have hdot := hmiss dottedRun List.mem_cons_self
      rw [hdotted] at hdot
      cases hdot
  · exact isSettled_of_ascii (by omega) (by omega)

theorem LowersTo.isSettled {c d : Char} (h : LowersTo c d) : IsSettled d := by
  cases h with
  | ascii h hletter => exact isSettled_of_ascii h hletter
  | letter hfirst hlast =>
      rcases toNat_ofNat_or (c.toNat + 0x20) with hcode | hcode
      · exact isSettled_of_ascii (by omega) (by omega)
      · exact isSettled_of_ascii (by omega) (by omega)
  | dotted h => rcases h with rfl | rfl <;> decide +kernel
  | run hmem hcovers => exact isSettled_of_covers hmem hcovers
  | other h hdotted hruns => exact isSettled_of_not_covers h hdotted hruns

/-- Every character of a text in lower case is its own lower case. -/
theorem isSettled_of_mem_lower {t : Text} {d : Char} (h : d ∈ lower t) : IsSettled d := by
  obtain rfl | rfl | ⟨c, -, hd⟩ := exists_of_mem_lowerAfter h
  · decide +kernel
  · decide +kernel
  · exact (lowersTo_of_mem hd).isSettled

theorem IsSettled.ne_sigma {c : Char} (h : IsSettled c) : c ≠ 'Σ' := by
  rintro rfl
  revert h
  decide +kernel

/-- A text of characters that are their own lower case is its own lower case. -/
theorem lower_eq_self {t : Text} (h : ∀ c ∈ t, IsSettled c) : lower t = t := by
  rw [lower]
  generalize ([] : Text) = before
  induction t generalizing before with
  | nil => rfl
  | cons c rest ih =>
      have hc : IsSettled c := h c List.mem_cons_self
      rw [lowerAfter, if_neg hc.ne_sigma, show lowerChar c = [c] from hc,
        ih (fun d hd => h d (List.mem_cons_of_mem _ hd)), List.singleton_append]

/-- A character that is its own lower case stays in a text. -/
theorem mem_lower {t : Text} {c : Char} (hc : IsSettled c) (h : c ∈ t) : c ∈ lower t := by
  rw [lower]
  generalize ([] : Text) = before
  induction t generalizing before with
  | nil => cases h
  | cons d rest ih =>
      rw [lowerAfter, List.mem_append]
      rcases List.mem_cons.mp h with rfl | hrest
      · left
        rw [if_neg hc.ne_sigma, show lowerChar c = [c] from hc]
        exact List.mem_singleton_self c
      · exact Or.inr (ih hrest _)

/-- Texts that differ in letter case only share the characters that no lower case touches. -/
theorem mem_of_lower_eq {s t : Text} (h : lower s = lower t) {c : Char} (hc : IsSettled c)
    (hcode : ¬ IsLowered c) (hmem : c ∈ s) : c ∈ t := by
  by_contra hnot
  exact notMem_lower hcode hnot (h ▸ mem_lower hc hmem)

end SshTunnel.Text
