import SshTunnel.Text.Glob
import Mathlib.Tactic.Common

/-!
# Wildcard matching

`describes` decides the relation `Matches`. The table of `matchesAt` has one flag for every
ending of the text: its head is about the text itself and its tail is the table of the rest.
-/

namespace SshTunnel.Text.Glob

/-! ## The relation -/

/-- One part in front: it takes one character, or it is a `*` in front of any ending. -/
theorem matches_cons_iff {p : Part} (hp : p ≠ .many) (ps : List Part) (t : Text) :
    Matches (p :: ps) t ↔ ∃ c s, t = c :: s ∧ p.accepts c = true ∧ Matches ps s := by
  constructor
  · intro h
    cases h with
    | skip h => exact absurd rfl hp
    | grow h => exact absurd rfl hp
    | step hc h => exact ⟨_, _, rfl, hc, h⟩
  · rintro ⟨c, s, rfl, hc, h⟩
    exact .step hc h

theorem matches_many_cons_iff (ps : List Part) (c : Char) (t : Text) :
    Matches (.many :: ps) (c :: t) ↔ Matches ps (c :: t) ∨ Matches (.many :: ps) t := by
  constructor
  · intro h
    cases h with
    | skip h => exact Or.inl h
    | grow h => exact Or.inr h
    | step hc _ => simp [Part.accepts] at hc
  · rintro (h | h)
    · exact .skip h
    · exact .grow h

theorem matches_many_nil_iff (ps : List Part) :
    Matches (.many :: ps) [] ↔ Matches ps [] := by
  constructor
  · intro h
    cases h with
    | skip h => exact h
  · exact .skip

/-! ## The table -/

theorem orLater_cons (b : Bool) (flags : List Bool) :
    orLater (b :: flags) = (b || (orLater flags).headD false) :: orLater flags := rfl

/-- A part that takes one character shifts the table of the parts behind it by one. -/
theorem matchesAt_step {p : Part} (hp : p ≠ .many) (ps : List Part) (t : Text) :
    matchesAt (p :: ps) t =
      List.zipWith (fun c b => p.accepts c && b) t (matchesAt ps t).tail ++ [false] := by
  cases p with
  | many => exact absurd rfl hp
  | one => rfl
  | literal c => rfl
  | set s => rfl

theorem matchesAt_ne_nil (ps : List Part) (t : Text) : matchesAt ps t ≠ [] := by
  induction ps with
  | nil => simp [matchesAt]
  | cons p ps ih =>
      by_cases hp : p = .many
      · subst hp
        obtain ⟨b, flags, h⟩ := List.exists_cons_of_ne_nil ih
        simp [matchesAt, h, orLater_cons]
      · simp [matchesAt_step hp]

theorem tail_matchesAt_cons (ps : List Part) (c : Char) (t : Text) :
    (matchesAt ps (c :: t)).tail = matchesAt ps t := by
  induction ps with
  | nil => simp [matchesAt]
  | cons p ps ih =>
      by_cases hp : p = .many
      · subst hp
        obtain ⟨b, flags, h⟩ := List.exists_cons_of_ne_nil (matchesAt_ne_nil ps (c :: t))
        have htail : flags = matchesAt ps t := by simpa [h] using ih
        simp [matchesAt, h, orLater_cons, htail]
      · obtain ⟨b, flags, h⟩ := List.exists_cons_of_ne_nil (matchesAt_ne_nil ps t)
        rw [matchesAt_step hp, matchesAt_step hp, ih, h]
        simp

theorem matchesAt_cons (ps : List Part) (c : Char) (t : Text) :
    matchesAt ps (c :: t) = (matchesAt ps (c :: t)).headD false :: matchesAt ps t := by
  obtain ⟨b, flags, h⟩ := List.exists_cons_of_ne_nil (matchesAt_ne_nil ps (c :: t))
  have htail : flags = matchesAt ps t := by simpa [h] using tail_matchesAt_cons ps c t
  simp [h, htail]

theorem length_matchesAt (ps : List Part) (t : Text) :
    (matchesAt ps t).length = t.length + 1 := by
  induction t with
  | nil =>
      induction ps with
      | nil => rfl
      | cons p ps ih =>
          by_cases hp : p = .many
          · subst hp
            obtain ⟨b, h⟩ := List.length_eq_one_iff.mp ih
            simp [matchesAt, h, orLater]
          · simp [matchesAt_step hp]
  | cons c t ih =>
      rw [matchesAt_cons, List.length_cons, List.length_cons, ih]

/-- The first flag of the table is about the whole text. -/
theorem headD_matchesAt_iff (ps : List Part) (t : Text) :
    (matchesAt ps t).headD false = true ↔ Matches ps t := by
  induction ps generalizing t with
  | nil =>
      cases t with
      | nil => simpa [matchesAt] using Matches.nil
      | cons c t =>
          have hno : ¬ Matches [] (c :: t) := by rintro ⟨⟩
          simp [matchesAt, hno]
  | cons p ps ih =>
      by_cases hp : p = .many
      · subst hp
        induction t with
        | nil =>
            obtain ⟨b, h⟩ := List.length_eq_one_iff.mp (length_matchesAt ps [])
            rw [matches_many_nil_iff, ← ih]
            simp [matchesAt, h, orLater]
        | cons c t iht =>
            rw [matches_many_cons_iff, ← ih, ← iht]
            have htable : matchesAt (.many :: ps) (c :: t)
                = orLater (matchesAt ps (c :: t)) := rfl
            rw [htable, matchesAt_cons, orLater_cons]
            simp [matchesAt]
      · rw [matchesAt_step hp, matches_cons_iff hp]
        cases t with
        | nil => simp
        | cons c t =>
            obtain ⟨b, flags, h⟩ := List.exists_cons_of_ne_nil (matchesAt_ne_nil ps t)
            rw [tail_matchesAt_cons]
            simp [← ih, h]

/-- Some flag of the table is set when the parts describe some ending of the text, and then
a `*` in front of them makes up for what comes before it. -/
theorem any_matchesAt_iff (ps : List Part) (t : Text) :
    (matchesAt ps t).any id = true ↔ Matches (.many :: ps) t := by
  induction t with
  | nil =>
      obtain ⟨b, h⟩ := List.length_eq_one_iff.mp (length_matchesAt ps [])
      rw [matches_many_nil_iff, ← headD_matchesAt_iff]
      simp [h]
  | cons c t ih =>
      rw [matchesAt_cons, matches_many_cons_iff, ← ih, ← headD_matchesAt_iff]
      simp

/-! ## The decision -/

theorem describes_iff (ps : List Part) (t : Text) : describes ps t = true ↔ Matches ps t := by
  induction ps generalizing t with
  | nil =>
      cases t with
      | nil => simpa [describes] using Matches.nil
      | cons c t =>
          have hno : ¬ Matches [] (c :: t) := by rintro ⟨⟩
          simp [describes, hno]
  | cons p ps ih =>
      by_cases hp : p = .many
      · subst hp
        exact any_matchesAt_iff ps t
      · rw [matches_cons_iff hp]
        cases t with
        | nil => cases p <;> simp [describes] at hp ⊢
        | cons c t => cases p <;> simp [describes, ih] at hp ⊢

/-- A pattern describes exactly the texts that its parts match. -/
theorem isMatch_iff (pattern t : Text) :
    isMatch pattern t = true ↔ Matches (parse pattern) t :=
  describes_iff (parse pattern) t

/-! ## Patterns without wildcards -/

theorem partsAfter_of_not_wildcard {c : Char} (h : ¬ (c = '*' ∨ c = '?' ∨ c = '['))
    (rest : Text) : partsAfter 0 (c :: rest) = .literal c :: partsAfter 0 rest := by
  simp only [not_or] at h
  rw [partsAfter, if_neg h.1, if_neg h.2.1, if_neg h.2.2]

theorem parse_of_no_wildcard {pattern : Text} (h : hasWildcard pattern = false) :
    parse pattern = pattern.map .literal := by
  rw [parse]
  induction pattern with
  | nil => rfl
  | cons c rest ih =>
      simp only [hasWildcard, List.any_cons, Bool.or_eq_false_iff] at h
      have hc : ¬ (c = '*' ∨ c = '?' ∨ c = '[') := by simpa [and_assoc] using h.1
      rw [partsAfter_of_not_wildcard hc, ih h.2, List.map_cons]

theorem matches_literals_iff (pattern t : Text) :
    Matches (pattern.map .literal) t ↔ pattern = t := by
  induction pattern generalizing t with
  | nil =>
      constructor
      · rintro ⟨⟩
        rfl
      · rintro rfl
        exact Matches.nil
  | cons c rest ih =>
      rw [List.map_cons, matches_cons_iff (by simp)]
      constructor
      · rintro ⟨d, s, rfl, hd, hs⟩
        have hsame : c = d := by simpa [Part.accepts] using hd
        rw [hsame, (ih s).mp hs]
      · rintro rfl
        exact ⟨c, rest, rfl, by simp [Part.accepts], (ih rest).mpr rfl⟩

/-- A pattern without wildcards describes itself and nothing else. -/
theorem matches_parse_iff {pattern : Text} (h : hasWildcard pattern = false) (t : Text) :
    Matches (parse pattern) t ↔ pattern = t := by
  rw [parse_of_no_wildcard h, matches_literals_iff]

end SshTunnel.Text.Glob
