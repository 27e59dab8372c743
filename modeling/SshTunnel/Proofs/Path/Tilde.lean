import SshTunnel.Proofs.Path

/-!
# Expanding `~`

A text with `~` in front of a slash is what follows, seen from the home directory. A relative
path that follows stays below the home, and an absolute one takes the place of the home: a
second slash behind the `~` is enough to leave it.
-/

namespace SshTunnel.Path

variable {p q : Path} {home rest : Text}

/-- The path starts with another one: it starts where that one does and has its names first. -/
structure StartsWith (p q : Path) : Prop where
  start : p.start = q.start
  names : q.names <+: p.names

/-- The names of one path behind those of another one. -/
def followedBy (p q : Path) : Path := ⟨p.start, p.names ++ q.names⟩

theorem followedBy_startsWith (p q : Path) : (p.followedBy q).StartsWith p :=
  ⟨rfl, List.prefix_append _ _⟩

/-! ## Absolute and relative texts -/

/-- A text writes an absolute path just when it starts with a slash. -/
theorem isAbsolute_ofText_iff (t : Text) :
    (ofText t).isAbsolute = true ↔ t.head? = some '/' := by
  simp only [isAbsolute, ofText, bne_iff_ne]
  cases t with
  | nil => simp [Start.ofText]
  | cons c t =>
      by_cases hc : c = '/'
      · subst hc
        unfold Start.ofText
        split <;> simp_all
      · simp [Start.ofText, hc]

/-- The text of an absolute path starts with a slash. -/
theorem head?_text (h : p.isAbsolute = true) : p.text.head? = some '/' := by
  obtain ⟨start, names⟩ := p
  cases start with
  | here => cases h
  | root => rfl
  | doubleRoot => rfl

theorem join_relative (p : Path) {t : Text} (h : (ofText t).isAbsolute = false) :
    p.join t = p.followedBy (ofText t) := by
  simp [join, h, followedBy]

theorem join_absolute (p : Path) {t : Text} (h : (ofText t).isAbsolute = true) :
    p.join t = ofText t := if_pos h

theorem join_isAbsolute (h : p.isAbsolute = true) (t : Text) : (p.join t).isAbsolute = true := by
  cases ht : (ofText t).isAbsolute with
  | true => rwa [join_absolute p ht]
  | false => rwa [join_relative p ht]

theorem join_eq_followedBy_iff (p : Path) (t : Text) : p.join t = p.followedBy (ofText t) ↔
    (ofText t).isAbsolute = false ∨ p.names = [] ∧ p.start = (ofText t).start := by
  cases ht : (ofText t).isAbsolute with
  | false => simp [join_relative p ht]
  | true =>
      rw [join_absolute p ht, Path.ext_iff]
      simp [followedBy, and_comm, eq_comm]

theorem join_startsWith_iff (p : Path) (t : Text) : (p.join t).StartsWith p ↔
    (ofText t).isAbsolute = false ∨ (ofText t).StartsWith p := by
  cases ht : (ofText t).isAbsolute with
  | false => simp [join_relative p ht, followedBy_startsWith]
  | true => simp [join_absolute p ht]

/-! ## Home directories -/

theorem ofText_fillHome (home rest : Text) :
    ofText (fillHome home ('~' :: '/' :: rest)) = (ofText home).join rest :=
  ofText_text (join_wellFormed (ofText_wellFormed home) rest)

/-- Only `~` alone and `~` in front of a slash are expanded. -/
theorem fillHome_of_other {path : Text} (halone : path ≠ ['~'])
    (hslash : ¬ ['~', '/'] <+: path) (home : Text) : fillHome home path = path := by
  unfold fillHome
  split
  next => exact absurd rfl halone
  next rest => exact absurd (List.prefix_append ['~', '/'] rest) hslash
  next => rfl

theorem fillHome_of_absolute {path : Text} (h : path.head? = some '/') (home : Text) :
    fillHome home path = path := by
  obtain ⟨rest, rfl⟩ := List.head?_eq_some_iff.mp h
  rfl

/-- What is expanded below an absolute home is an absolute path or was left as it is. -/
theorem fillHome_cases (h : (ofText home).isAbsolute = true) (path : Text) :
    (fillHome home path).head? = some '/' ∨ fillHome home path = path := by
  by_cases halone : path = ['~']
  · subst halone
    exact Or.inl ((isAbsolute_ofText_iff home).mp h)
  · by_cases hslash : ['~', '/'] <+: path
    · obtain ⟨rest, rfl⟩ := hslash
      exact Or.inl (head?_text (join_isAbsolute h rest))
    · exact Or.inr (fillHome_of_other halone hslash home)

theorem fillHome_fillHome (h : (ofText home).isAbsolute = true) (path : Text) :
    fillHome home (fillHome home path) = fillHome home path := by
  rcases fillHome_cases h path with hroot | hsame
  · exact fillHome_of_absolute hroot home
  · exact congrArg (fillHome home) hsame

/-- Below an absolute home, `~` with a slash and more behind it is the home with the names of what
follows exactly when that does not start with a slash itself, or the home is the same root and
nothing else. It leads below the home exactly when what follows does not start with a slash or
leads there by itself; with a slash in front it takes the place of the home. `~` alone is the
home, every other text stays, and expanding twice is expanding once. -/
theorem fillHome_stays_iff (h : (ofText home).isAbsolute = true) :
    (∀ rest, ofText (fillHome home ('~' :: '/' :: rest)) = (ofText home).followedBy (ofText rest) ↔
      rest.head? ≠ some '/' ∨
        (ofText home).names = [] ∧ (ofText home).start = (ofText rest).start) ∧
    (∀ rest, (ofText (fillHome home ('~' :: '/' :: rest))).StartsWith (ofText home) ↔
      rest.head? ≠ some '/' ∨ (ofText rest).StartsWith (ofText home)) ∧
    (∀ rest, rest.head? = some '/' →
      fillHome home ('~' :: '/' :: rest) = (ofText rest).text) ∧
    fillHome home ['~'] = home ∧
    (∀ path, path ≠ ['~'] → ¬ ['~', '/'] <+: path → fillHome home path = path) ∧
    ∀ path, fillHome home (fillHome home path) = fillHome home path := by
  have hrelative : ∀ t, (ofText t).isAbsolute = false ↔ t.head? ≠ some '/' := by
    intro t
    rw [Ne, ← isAbsolute_ofText_iff, Bool.not_eq_true]
  refine ⟨fun rest => ?_, fun rest => ?_, fun rest hrest => ?_, rfl,
    fun path halone hslash => fillHome_of_other halone hslash home, fillHome_fillHome h⟩
  · rw [ofText_fillHome, join_eq_followedBy_iff, hrelative]
  · rw [ofText_fillHome, join_startsWith_iff, hrelative]
  · have habsolute := (isAbsolute_ofText_iff rest).mpr hrest
    exact congrArg text (join_absolute (ofText home) habsolute)

/-- Empty names and `.` are dropped and `..` is kept, below a home that is written untidily. -/
theorem fillHome_stays_sample : (ofText "/home//alice/".toList).isAbsolute = true ∧
    ofText (fillHome "/home//alice/".toList "~/./keys//../id".toList)
      = ⟨.root, ["home".toList, "alice".toList, "keys".toList, "..".toList, "id".toList]⟩ ∧
    (ofText (fillHome "/home//alice/".toList "~//home/alice/id".toList)).StartsWith
      (ofText "/home//alice/".toList) := by
  have h : (ofText "/home//alice/".toList).isAbsolute = true := by decide
  obtain ⟨hnames, hbelow, -⟩ := fillHome_stays_iff h
  refine ⟨h, ?_, ?_⟩
  · exact ((hnames "./keys//../id".toList).mpr (Or.inl (by decide))).trans (by decide)
  · exact (hbelow "/home/alice/id".toList).mpr (Or.inr ⟨by decide, by decide⟩)

/-- With a second slash behind the `~` a path leaves the home directory. -/
theorem fillHome_secondSlash : (ofText "/home/alice".toList).isAbsolute = true ∧
    ofText (fillHome "/home/alice".toList "~//etc/passwd".toList)
      ≠ (ofText "/home/alice".toList).followedBy (ofText "/etc/passwd".toList) ∧
    ¬ (ofText (fillHome "/home/alice".toList "~//etc/passwd".toList)).StartsWith
      (ofText "/home/alice".toList) := by
  refine ⟨by decide, by decide, ?_⟩
  rintro ⟨-, hnames⟩
  revert hnames
  decide

end SshTunnel.Path
