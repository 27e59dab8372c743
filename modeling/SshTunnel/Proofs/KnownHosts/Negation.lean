import SshTunnel.Proofs.KnownHosts.Trust

/-!
# Negated patterns

Whether a list of patterns covers a host depends on its members alone: some positive one has to
cover the host, and no negated one may. So a further negated pattern only takes hosts away, and a
further positive one only adds some. At the default port a list of names says the same in a trust
store as on a Host line.
-/

namespace SshTunnel.KnownHosts

variable {host : Text} {port : Int} {pattern : Text} {patterns other : List Text}

/-! ## The members of a list -/

theorem listCovers_congr_mem (h : ∀ p, p ∈ other ↔ p ∈ patterns) :
    ListCovers host port other ↔ ListCovers host port patterns := by
  simp only [ListCovers, h]

/-- With a negated pattern more, no other hosts are covered. -/
theorem ListCovers.of_negated (hnegated : pattern.head? = some '!')
    (hother : ∀ q, q ∈ other ↔ q = pattern ∨ q ∈ patterns) (h : ListCovers host port other) :
    ListCovers host port patterns := by
  obtain ⟨⟨p, hp, hpositive, hcovers⟩, hnone⟩ := h
  refine ⟨⟨p, ?_, hpositive, hcovers⟩, fun body hbody => ?_⟩
  · rcases (hother p).mp hp with rfl | hmem
    · exact absurd hnegated hpositive
    · exact hmem
  · exact hnone body ((hother _).mpr (Or.inr hbody))

/-- With a positive pattern more, the same hosts are still covered. -/
theorem ListCovers.with_positive (hpositive : pattern.head? ≠ some '!')
    (hother : ∀ q, q ∈ other ↔ q = pattern ∨ q ∈ patterns) (h : ListCovers host port patterns) :
    ListCovers host port other := by
  obtain ⟨⟨p, hp, hp', hcovers⟩, hnone⟩ := h
  refine ⟨⟨p, (hother p).mpr (Or.inr hp), hp', hcovers⟩, fun body hbody => ?_⟩
  rcases (hother _).mp hbody with rfl | hmem
  · exact absurd rfl hpositive
  · exact hnone body hmem

/-! ## The answers for single patterns -/

theorem bare_of_positive (h : pattern.head? ≠ some '!') : bare pattern = pattern := by
  rw [bare, (negated?_eq_none_iff pattern).mpr h, Option.getD_none]

theorem patternCovers_eq_true_iff (host : Text) (h : ShortAt port pattern) :
    patternCovers host port pattern = .ok true ↔ Covers host port pattern := by
  obtain ⟨hit, hread, hiff⟩ := patternCovers_ok host h
  rw [hread, Except.ok.injEq, hiff]

/-- The answers for the members decide whether the list covers the host. -/
theorem listCovers_iff_answers (host : Text) (h : ∀ p ∈ patterns, ShortAt port (bare p)) :
    ListCovers host port patterns ↔
      (∃ p ∈ patterns, p.head? ≠ some '!' ∧ patternCovers host port p = .ok true) ∧
        ∀ body, '!' :: body ∈ patterns → patternCovers host port body ≠ .ok true := by
  refine and_congr (exists_congr fun p => and_congr_right fun hp => and_congr_right fun hpos => ?_)
    (forall_congr' fun body => imp_congr_right fun hbody => not_congr ?_)
  · exact (patternCovers_eq_true_iff host (bare_of_positive hpos ▸ h p hp)).symm
  · exact (patternCovers_eq_true_iff host (h _ hbody)).symm

/-! ## Lists of names -/

/-- The pattern is a name, with or without wildcards: it is not hashed and has no port. -/
def IsName (pattern : Text) : Prop :=
  ¬ "|1|".toList <+: pattern ∧ ∀ body digits, ¬ Bracketed pattern body digits

theorem isName_iff (pattern : Text) :
    IsName pattern ↔ ¬ "|1|".toList <+: pattern ∧ bracketed? pattern = none := by
  refine and_congr_right fun _ => ?_
  simp only [← bracketed?_eq_some_iff]
  cases bracketed? pattern with
  | none => simp
  | some parts => simp [Prod.ext_iff]

instance (pattern : Text) : Decidable (IsName pattern) :=
  decidable_of_iff _ (isName_iff pattern).symm

theorem IsName.covers_iff (h : IsName pattern) (host : Text) :
    Covers host 22 pattern ↔ NameMatches pattern host := by
  rw [covers_plain_iff host 22 h.1 h.2, and_iff_right rfl]

/-- The search through the patterns of a Host line, whatever order they stand in. -/
theorem searchNames_eq (name : Text) (found : Bool) (patterns : List Text) :
    HostConfig.searchNames name found patterns =
      ((found || patterns.any fun p =>
          (HostConfig.negated? p).isNone && HostConfig.patternMatches name p) &&
        !(patterns.any fun p =>
          (HostConfig.negated? p).any (HostConfig.patternMatches name))) := by
  induction patterns generalizing found with
  | nil => simp [HostConfig.searchNames]
  | cons pattern more ih =>
      rw [HostConfig.searchNames]
      cases hnegated : HostConfig.negated? pattern with
      | some body =>
          cases hbody : HostConfig.patternMatches name body <;> simp [ih, hnegated, hbody]
      | none => simp [ih, hnegated, Bool.or_assoc]

/-- A Host line speaks about a name when some positive pattern describes it and no negated one
does. -/
theorem matchesPatterns_iff (name : Text) (patterns : List Text) :
    HostConfig.matchesPatterns name patterns = true ↔
      (∃ p ∈ patterns, p.head? ≠ some '!' ∧ NameMatches p name) ∧
        ∀ body, '!' :: body ∈ patterns → ¬ NameMatches body name := by
  rw [HostConfig.matchesPatterns, searchNames_eq, Bool.false_or, Bool.and_eq_true,
    Bool.not_eq_true', List.any_eq_true, List.any_eq_false]
  refine and_congr (exists_congr fun p => and_congr_right fun _ => ?_) ?_
  · rw [Bool.and_eq_true, Option.isNone_iff_eq_none, negated?_eq_none_iff, patternMatches_iff]
  · constructor
    · intro h body hbody hname
      exact h _ hbody ((patternMatches_iff name body).mpr hname)
    · intro h p hp hany
      obtain ⟨body, hnegated, hmatch⟩ := (Option.any_eq_true _ _).mp hany
      obtain rfl := (negated?_eq_some_iff p body).mp hnegated
      exact h body hp ((patternMatches_iff name body).mp hmatch)

/-- At the default port a list of names covers the hosts that a Host line with it speaks about. -/
theorem listCovers_names_iff (host : Text) (h : ∀ p ∈ patterns, IsName (bare p)) :
    ListCovers host 22 patterns ↔ HostConfig.matchesPatterns host patterns = true := by
  rw [matchesPatterns_iff]
  refine and_congr (exists_congr fun p => and_congr_right fun hp => and_congr_right fun hpos => ?_)
    (forall_congr' fun body => imp_congr_right fun hbody => not_congr ?_)
  · exact (bare_of_positive hpos ▸ h p hp : IsName p).covers_iff host
  · exact (h _ hbody : IsName body).covers_iff host

theorem IsName.shortAt (h : IsName pattern) (port : Int) : ShortAt port pattern :=
  ⟨fun body digits hb => absurd hb (h.2 body digits), fun hhash => absurd hhash h.1⟩

/-! ## The search -/

/-- The search through a list of patterns has one answer for every order of them and however often
each is repeated: yes, if a positive one covers the host and none behind a `!` does. More negated
patterns never turn a no into a yes, and more positive ones never turn a yes into a no. At the
default port a list of names is searched with the answer of a Host line. -/
theorem listCovers_negationWins (host : Text) (port : Int)
    (h : ∀ p ∈ patterns, ShortAt port (bare p)) :
    ∃ hit, listCovers host port patterns = .ok hit ∧
      (hit = true ↔
        (∃ p ∈ patterns, p.head? ≠ some '!' ∧ patternCovers host port p = .ok true) ∧
          ∀ body, '!' :: body ∈ patterns → patternCovers host port body ≠ .ok true) ∧
      (∀ other, (∀ q, q ∈ other ↔ q ∈ patterns) → listCovers host port other = .ok hit) ∧
      (∀ pattern other, ShortAt port (bare pattern) →
        (∀ q, q ∈ other ↔ q = pattern ∨ q ∈ patterns) →
          ∃ hit', listCovers host port other = .ok hit' ∧
            (pattern.head? = some '!' → hit = false → hit' = false) ∧
            (pattern.head? ≠ some '!' → hit = true → hit' = true)) ∧
      (port = 22 → (∀ p ∈ patterns, IsName (bare p)) →
        HostConfig.matchesPatterns host patterns = hit) := by
  obtain ⟨hit, hread, hiff⟩ := listCovers_ok host h
  refine ⟨hit, hread, hiff.trans (listCovers_iff_answers host h), ?_, ?_, ?_⟩
  · intro other hother
    obtain ⟨hit', hread', hiff'⟩ := listCovers_ok host fun p hp => h p ((hother p).mp hp)
    rw [hread', Bool.eq_iff_iff.mpr (hiff'.trans ((listCovers_congr_mem hother).trans hiff.symm))]
  · intro pattern other hshort hother
    have hshorts : ∀ p ∈ other, ShortAt port (bare p) := by
      intro p hp
      rcases (hother p).mp hp with rfl | hmem
      · exact hshort
      · exact h p hmem
    obtain ⟨hit', hread', hiff'⟩ := listCovers_ok host hshorts
    refine ⟨hit', hread', fun hnegated hno => ?_, fun hpositive hyes => ?_⟩
    · rw [← Bool.not_eq_true, hiff] at hno
      rw [← Bool.not_eq_true, hiff']
      exact fun hcovers => hno (hcovers.of_negated hnegated hother)
    · exact hiff'.mpr ((hiff.mp hyes).with_positive hpositive hother)
  · rintro rfl hnames
    exact Bool.eq_iff_iff.mpr ((listCovers_names_iff host hnames).symm.trans hiff.symm)

/-- Names of a domain without two of them, one excluded by a pattern that has a `!` itself. -/
def guardedNames : List Text := ["db*".toList, "!db.old".toList, "!!db".toList]

theorem guardedNames_anyOrder :
    (∀ p ∈ guardedNames, ShortAt 22 (bare p)) ∧
    listCovers "DB.new".toList 22 guardedNames = .ok true ∧
    listCovers "DB.new".toList 22 (guardedNames.reverse ++ guardedNames) = .ok true ∧
    HostConfig.matchesPatterns "DB.new".toList guardedNames = true ∧
    listCovers "DB.old".toList 22 (guardedNames.reverse ++ guardedNames) = .ok false := by
  have hnames : ∀ p ∈ guardedNames, IsName (bare p) := by decide
  have hshort : ∀ p ∈ guardedNames, ShortAt 22 (bare p) := fun p hp => (hnames p hp).shortAt 22
  have hmembers : ∀ q, q ∈ guardedNames.reverse ++ guardedNames ↔ q ∈ guardedNames := by simp
  obtain ⟨hit, hread, -, horder, -, hhost⟩ := listCovers_negationWins "DB.new".toList 22 hshort
  obtain ⟨hit', hread', -, horder', -⟩ := listCovers_negationWins "DB.old".toList 22 hshort
  have hyes : hit = true := (hhost rfl hnames).symm.trans (by decide)
  have hno : hit' = false := Except.ok.inj (hread'.symm.trans rfl)
  subst hyes hno
  exact ⟨hshort, hread, horder _ hmembers, hhost rfl hnames, horder' _ hmembers⟩

end SshTunnel.KnownHosts
