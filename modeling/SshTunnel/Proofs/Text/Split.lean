import SshTunnel.Text.Basic
import Mathlib.Tactic.Common

/-!
# Cutting a text at marks

The pieces of a text between marks hold no mark, and a text that joins such pieces is cut into
exactly these.
-/

namespace SshTunnel.Text

theorem not_mem_of_mem_splitOn {mark : Char} {t piece : Text}
    (h : piece ∈ t.splitOn mark) : mark ∉ piece := by
  induction t generalizing piece with
  | nil =>
      have hpiece : piece = [] := by simpa using h
      simp [hpiece]
  | cons c t ih =>
      rw [List.splitOn_cons_eq_if_modifyHead] at h
      by_cases hc : c = mark
      · rcases (by simpa [hc] using h : piece = [] ∨ piece ∈ t.splitOn mark) with rfl | h
        · simp
        · exact ih h
      · obtain ⟨first, more, hsplit⟩ :=
          List.exists_cons_of_ne_nil (List.splitOn_ne_nil mark t)
        have hmem : piece = c :: first ∨ piece ∈ more := by simpa [hc, hsplit] using h
        rcases hmem with rfl | hmem
        · have hfirst : mark ∉ first := ih (by simp [hsplit])
          simp [Ne.symm hc, hfirst]
        · exact ih (by simp [hsplit, hmem])

theorem mem_of_mem_splitOn {mark c : Char} {t piece : Text} (h : piece ∈ t.splitOn mark)
    (hc : c ∈ piece) : c ∈ t := by
  induction t generalizing piece with
  | nil =>
      have hpiece : piece = [] := by simpa using h
      simp [hpiece] at hc
  | cons d t ih =>
      rw [List.splitOn_cons_eq_if_modifyHead] at h
      by_cases hd : d = mark
      · rcases (by simpa [hd] using h : piece = [] ∨ piece ∈ t.splitOn mark) with rfl | h
        · cases hc
        · exact List.mem_cons_of_mem d (ih h hc)
      · obtain ⟨first, more, hsplit⟩ :=
          List.exists_cons_of_ne_nil (List.splitOn_ne_nil mark t)
        rcases (by simpa [hd, hsplit] using h : piece = d :: first ∨ piece ∈ more) with rfl | hmem
        · rcases List.mem_cons.mp hc with rfl | hc
          · exact List.mem_cons_self
          · exact List.mem_cons_of_mem d (ih (by simp [hsplit]) hc)
        · exact List.mem_cons_of_mem d (ih (by simp [hsplit, hmem]) hc)

theorem splitOn_eq_pair_iff {mark : Char} {t a b : Text} :
    t.splitOn mark = [a, b] ↔ t = a ++ mark :: b ∧ mark ∉ a ∧ mark ∉ b := by
  constructor
  · intro h
    refine ⟨?_, not_mem_of_mem_splitOn (t := t) (by simp [h]),
      not_mem_of_mem_splitOn (t := t) (by simp [h])⟩
    have hjoin : [mark].intercalate (t.splitOn mark) = t := List.intercalate_splitOn mark
    rw [h] at hjoin
    simpa [List.intercalate] using hjoin.symm
  · rintro ⟨rfl, ha, hb⟩
    rw [List.splitOn_append_cons_self_of_not_mem ha, List.splitOn_eq_singleton hb]

theorem join_cons (mark first : Text) {more : List Text} (h : more ≠ []) :
    join mark (first :: more) = first ++ mark ++ join mark more := by
  cases more with
  | nil => exact absurd rfl h
  | cons next rest => rfl

/-- Parts that do not hold the mark come back from the text that joins them. -/
theorem splitOn_join {mark : Char} {parts : List Text} (hne : parts ≠ [])
    (h : ∀ part ∈ parts, mark ∉ part) : (join [mark] parts).splitOn mark = parts := by
  induction parts with
  | nil => exact absurd rfl hne
  | cons first more ih =>
      have hfirst : mark ∉ first := h first (by simp)
      have hmore : ∀ part ∈ more, mark ∉ part := fun part hpart => h part (by simp [hpart])
      by_cases hempty : more = []
      · subst hempty
        exact List.splitOn_eq_singleton hfirst
      · rw [join_cons _ _ hempty, List.append_assoc, List.singleton_append,
          List.splitOn_append_cons_self_of_not_mem hfirst, ih hempty hmore]

end SshTunnel.Text
