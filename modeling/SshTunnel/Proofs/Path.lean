import SshTunnel.Path
import SshTunnel.Proofs.Text.Split

/-!
# Paths and their texts

A path that a text gives comes back from its own text, so two such paths with the same text
are the same.
-/

namespace SshTunnel.Path

attribute [ext] Path

/-- The names of the path are such as a text can give it. -/
def WellFormed (p : Path) : Prop := ∀ name ∈ p.names, isName name = true ∧ '/' ∉ name

theorem ofText_wellFormed (t : Text) : (ofText t).WellFormed := by
  intro name hname
  obtain ⟨hpiece, hkept⟩ := List.mem_filter.mp hname
  exact ⟨hkept, Text.not_mem_of_mem_splitOn hpiece⟩

theorem join_wellFormed {p : Path} (h : p.WellFormed) (t : Text) : (p.join t).WellFormed := by
  unfold join
  simp only
  split
  · exact ofText_wellFormed t
  · intro name hname
    rcases List.mem_append.mp hname with hname | hname
    · exact h name hname
    · exact ofText_wellFormed t name hname

/-! ## Reading the text of a path -/

theorem ofText_slash (t : Text) : (ofText ('/' :: t)).names = (ofText t).names := by
  simp [ofText, List.splitOn_cons_eq_if_modifyHead, isName]

theorem names_ofText_start (start : Start) (t : Text) :
    (ofText (start.text ++ t)).names = (ofText t).names := by
  cases start with
  | here => rfl
  | root => exact ofText_slash t
  | doubleRoot => exact (ofText_slash ('/' :: t)).trans (ofText_slash t)

theorem start_ofText (start : Start) {t : Text} (h : t.head? ≠ some '/') :
    Start.ofText (start.text ++ t) = start := by
  cases t with
  | nil => cases start <;> rfl
  | cons c rest =>
      have hc : c ≠ '/' := by simpa using h
      cases start <;> simp [Start.text, Start.ofText, hc]

theorem head?_join {names : List Text} (h : ∀ name ∈ names, isName name = true ∧ '/' ∉ name) :
    (Text.join ['/'] names).head? ≠ some '/' := by
  cases names with
  | nil => simp [Text.join]
  | cons first more =>
      obtain ⟨hname, hslash⟩ := h first (by simp)
      have hne : first ≠ [] := by
        rintro rfl
        cases hname
      obtain ⟨c, rest, rfl⟩ := List.exists_cons_of_ne_nil hne
      have hc : c ≠ '/' := by
        rintro rfl
        exact hslash (by simp)
      cases more with
      | nil => simpa [Text.join] using hc
      | cons next others => simpa [Text.join] using hc

theorem names_ofText_join {names : List Text}
    (h : ∀ name ∈ names, isName name = true ∧ '/' ∉ name) :
    (ofText (Text.join ['/'] names)).names = names := by
  by_cases hempty : names = []
  · subst hempty
    rfl
  · rw [ofText, Text.splitOn_join hempty fun name hname => (h name hname).2]
    exact List.filter_eq_self.mpr fun name hname => (h name hname).1

/-- A path comes back from its text. -/
theorem ofText_text {p : Path} (h : p.WellFormed) : ofText p.text = p := by
  obtain ⟨start, names⟩ := p
  by_cases hhere : start = .here ∧ names = []
  · obtain ⟨rfl, rfl⟩ := hhere
    rfl
  · have htext : text ⟨start, names⟩ = start.text ++ Text.join ['/'] names := by
      unfold text
      split
      next hstart hnames => exact absurd ⟨hstart, hnames⟩ hhere
      next => rfl
    rw [htext]
    have hnames := (names_ofText_start start (Text.join ['/'] names)).trans (names_ofText_join h)
    have hstart := start_ofText start (head?_join h)
    exact Path.ext hstart hnames

theorem text_injective {p q : Path} (hp : p.WellFormed) (hq : q.WellFormed)
    (h : p.text = q.text) : p = q := by
  rw [← ofText_text hp, ← ofText_text hq, h]

end SshTunnel.Path
