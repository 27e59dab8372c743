import SshTunnel.Proofs.KnownHosts.Verdict
import SshTunnel.Proofs.Text.Lower
import SshTunnel.Proofs.Text.Wildcard

/-!
# Host patterns with two special characters

A host pattern is meant to have two special characters, `*` and `?`. It is read so for every
name when none of its brackets is closed; otherwise some name, which can be made of characters
of the pattern, is answered the other way. In a trust store the brackets around a name with a
port are no part of that name.
-/

namespace SshTunnel.KnownHosts

open Text.Glob (Wild Unbracketed)

/-- The pattern is a name in brackets, a colon and the digits of a port. -/
def Ported (pattern body : Text) (digits : List Nat) : Prop :=
  body ≠ [] ∧ ']' ∉ body ∧ ∃ number : Text, number ≠ [] ∧
    number.mapM Text.digitValue? = some digits ∧ pattern = '[' :: (body ++ ']' :: ':' :: number)

/-- The port that a pattern stands for, and the pattern for the names there. -/
inductive StandsFor : Text → Int → Text → Prop where
  | ported {pattern body : Text} {digits : List Nat} (h : Ported pattern body digits) :
      StandsFor pattern (Text.Numeral.value digits) body
  | plain {pattern : Text} (h : ∀ body digits, ¬ Ported pattern body digits) :
      StandsFor pattern 22 pattern

theorem Ported.bracketed {pattern body : Text} {digits : List Nat}
    (h : Ported pattern body digits) : Bracketed pattern body digits := by
  obtain ⟨hne, hclose, number, hnumber, hdigits, rfl⟩ := h
  exact ⟨hne, hclose, number, hnumber, hdigits, Or.inl rfl⟩

/-- Every pattern stands for one port and one pattern for names. -/
theorem existsUnique_standsFor (pattern : Text) :
    ∃! target : Int × Text, StandsFor pattern target.1 target.2 := by
  by_cases hported : ∃ body digits, Ported pattern body digits
  · obtain ⟨body, digits, h⟩ := hported
    refine ⟨(Text.Numeral.value digits, body), .ported h, ?_⟩
    rintro ⟨port, body'⟩ hstands
    cases hstands with
    | ported h' =>
        obtain ⟨rfl, rfl⟩ := h.bracketed.unique h'.bracketed
        rfl
    | plain hnone => exact absurd h (hnone body digits)
  · have hnone : ∀ body digits, ¬ Ported pattern body digits :=
      fun body digits h => hported ⟨body, digits, h⟩
    refine ⟨(22, pattern), .plain hnone, ?_⟩
    rintro ⟨port, body⟩ hstands
    cases hstands with
    | ported h => exact absurd h (hnone _ _)
    | plain _ => rfl

/-! ## Names in lower case -/

/-- Lower case closes no bracket. -/
theorem not_close_mem_lower {t : Text} (h : ']' ∉ t) : ']' ∉ Text.lower t :=
  Text.notMem_lower (by decide) h

/-- Characters of a text in lower case make up a text in lower case. -/
theorem lower_of_sublist {t pattern : Text} (h : List.Sublist t (Text.lower pattern)) :
    Text.lower t = t :=
  Text.lower_eq_self fun _ hc => Text.isSettled_of_mem_lower (h.mem hc)

/-- Some name shows that a pattern with a closed bracket is read otherwise. -/
theorem exists_name_apart {pattern : Text} (h : ¬ Unbracketed (Text.lower pattern)) :
    ∃ name : Text, ¬ (HostConfig.patternMatches name pattern = true ↔
      Wild (Text.lower pattern) (Text.lower name)) := by
  obtain ⟨name, hsub, hapart⟩ := Text.Glob.exists_text_apart h
  refine ⟨name, ?_⟩
  rwa [HostConfig.patternMatches, lower_of_sublist hsub]

/-- A name without stars that its own pattern describes. -/
theorem exists_name_wild (pattern : Text) :
    ∃ name : Text, List.Sublist name (Text.lower pattern) ∧
      Wild (Text.lower pattern) (Text.lower name) := by
  refine ⟨(Text.lower pattern).filter (· ≠ '*'), List.filter_sublist, ?_⟩
  rw [lower_of_sublist List.filter_sublist]
  exact Text.Glob.wild_without_stars _

/-- One pattern for names is read with two special characters when no bracket in it is closed. -/
theorem patternMatches_wild_iff (pattern : Text) :
    (∀ name : Text, HostConfig.patternMatches name pattern = true ↔
        Wild (Text.lower pattern) (Text.lower name)) ↔ Unbracketed (Text.lower pattern) := by
  constructor
  · intro h
    by_contra hbracket
    obtain ⟨name, hapart⟩ := exists_name_apart hbracket
    exact hapart (h name)
  · exact fun h name => h.isMatch_iff _

/-! ## Host blocks -/

theorem matchesPatterns_singleton {pattern : Text} (h : pattern.head? ≠ some '!') (name : Text) :
    HostConfig.matchesPatterns name [pattern] = HostConfig.patternMatches name pattern := by
  simp [HostConfig.matchesPatterns, HostConfig.searchNames, (negated?_eq_none_iff pattern).mpr h]

/-! ## Entries of a trust store -/

/-- The pattern is answered, for each host at the port, by two special characters in `body`. -/
def ReadsPlainly (pattern : Text) (port : Int) (body : Text) : Prop :=
  ∀ host : Text, ∃ hit, patternCovers host port pattern = .ok hit ∧
    (hit = true ↔ Wild (Text.lower body) (Text.lower host))

theorem nameMatches_wild_iff {body : Text} (h : Unbracketed (Text.lower body)) (host : Text) :
    NameMatches body host ↔ Wild (Text.lower body) (Text.lower host) := by
  rw [← patternMatches_iff]
  exact h.isMatch_iff _

/-- The name in front of a port has no closed bracket. -/
theorem Bracketed.unbracketed {pattern body : Text} {digits : List Nat}
    (h : Bracketed pattern body digits) : Unbracketed (Text.lower body) :=
  Text.Glob.unbracketed_of_not_mem (not_close_mem_lower h.2.1)

theorem Ported.readsPlainly_iff {pattern body : Text} {digits : List Nat}
    (h : Ported pattern body digits) :
    ReadsPlainly pattern (Text.Numeral.value digits) body ↔
      digits.length ≤ Text.Numeral.maxDigits := by
  have hb : Bracketed pattern body digits := h.bracketed
  constructor
  · intro hreads
    by_contra hlong
    have hnotShort : ¬ ShortPort pattern := fun hshort => hlong (hshort body digits hb)
    obtain ⟨hit, hok, -⟩ := hreads []
    obtain ⟨e, herror⟩ := @patternCovers_error [] (Text.Numeral.value digits) pattern
      fun hshort => hnotShort hshort.1
    cases hok.symm.trans herror
  · intro hshort host
    obtain ⟨hit, hok, hiff⟩ := patternCovers_bracketed host (Text.Numeral.value digits) hb hshort
    refine ⟨hit, hok, ?_⟩
    rw [hiff, covers_bracketed_iff host _ hb, nameMatches_wild_iff hb.unbracketed]
    exact and_iff_right rfl

theorem readsPlainly_of_plain_iff {pattern : Text} (hhash : ¬ "|1|".toList <+: pattern)
    (hno : ∀ body digits, ¬ Bracketed pattern body digits) :
    ReadsPlainly pattern 22 pattern ↔ Unbracketed (Text.lower pattern) := by
  rw [← patternMatches_wild_iff]
  refine forall_congr' fun host => ?_
  obtain ⟨hit, hok, hiff⟩ := patternCovers_plain host 22 hhash hno
  rw [covers_plain_iff host 22 hhash hno, ← patternMatches_iff] at hiff
  simp only [hok, Except.ok.injEq, exists_eq_left', hiff, true_and]

/-- A pattern with a port and a line feed behind it is taken for one with a port, though it is
none: as a whole it describes another name. -/
theorem not_readsPlainly_of_newline {pattern body : Text} {digits : List Nat}
    (hb : Bracketed pattern body digits) : ¬ ReadsPlainly pattern 22 pattern := by
  intro hreads
  have hshort : ShortPort pattern := by
    by_contra hlong
    obtain ⟨hit, hok, -⟩ := hreads []
    obtain ⟨e, herror⟩ := @patternCovers_error [] 22 pattern fun hshort => hlong hshort.1
    cases hok.symm.trans herror
  have hclose : ']' ∈ Text.lower pattern := by
    have hmem : ']' ∈ pattern := by
      obtain ⟨-, -, number, -, -, rfl | rfl⟩ := hb <;> simp
    exact Text.mem_lower (by decide) hmem
  have hcovers : ∀ host : Text,
      Covers host 22 pattern ↔ Wild (Text.lower pattern) (Text.lower host) := by
    intro host
    obtain ⟨hit, hok, hiff⟩ := patternCovers_ok host (hshort.shortAt isWritable_defaultPort)
    obtain ⟨hit', hok', hwild⟩ := hreads host
    cases hok.symm.trans hok'
    exact hiff.symm.trans hwild
  simp only [covers_bracketed_iff _ _ hb] at hcovers
  -- The whole pattern describes some name, so the port is the default one.
  obtain ⟨name, -, hname⟩ := exists_name_wild pattern
  have hport := ((hcovers name).mpr hname).1
  -- The name in brackets describes one without a closing bracket.
  obtain ⟨host, hsub, hhost⟩ := exists_name_wild body
  have hwhole := (hcovers host).mp ⟨hport, (nameMatches_wild_iff hb.unbracketed host).mpr hhost⟩
  rw [lower_of_sublist hsub] at hwhole
  exact not_close_mem_lower hb.2.1 (hsub.mem (hwhole.mem hclose (by decide) (by decide)))

/-- A pattern of a trust store is read with two special characters, for every host, when it has
a port that is not too long to be read, or else no bracket that is closed. -/
theorem readsPlainly_iff {pattern body : Text} {port : Int} (hhash : ¬ "|1|".toList <+: pattern)
    (h : StandsFor pattern port body) :
    ReadsPlainly pattern port body ↔
      (∃ digits, Ported pattern body digits ∧ digits.length ≤ Text.Numeral.maxDigits) ∨
        ((∀ name digits, ¬ Bracketed pattern name digits) ∧
          Unbracketed (Text.lower pattern)) := by
  cases h with
  | @ported _ digits h =>
      rw [h.readsPlainly_iff]
      constructor
      · exact fun hshort => Or.inl ⟨digits, h, hshort⟩
      · rintro (⟨digits', h', hshort⟩ | ⟨hno, -⟩)
        · rwa [(h.bracketed.unique h'.bracketed).2]
        · exact absurd h.bracketed (hno body digits)
  | plain hplain =>
      have hnone : ¬ ∃ digits, Ported pattern pattern digits ∧
          digits.length ≤ Text.Numeral.maxDigits :=
        fun ⟨digits, hported, _⟩ => hplain pattern digits hported
      rw [or_iff_right hnone]
      by_cases hno : ∀ name digits, ¬ Bracketed pattern name digits
      · rw [readsPlainly_of_plain_iff hhash hno]
        exact (and_iff_right hno).symm
      · obtain ⟨name, digits, hb⟩ : ∃ name digits, Bracketed pattern name digits := by
          simpa using hno
        constructor
        · exact fun hreads => absurd hreads (not_readsPlainly_of_newline hb)
        · exact fun hread => absurd hb (hread.1 name digits)

/-! ## Both kinds of patterns -/

/-- A pattern without a `!` is read, for all names, with `*` and `?` as its only special
characters exactly when it has no closed bracket; in a trust store also when the only closed
bracket is the one around a name with a port. -/
theorem patterns_readPlainly_iff (pattern : Text) (hpositive : pattern.head? ≠ some '!') :
    ((∀ name : Text, HostConfig.matchesPatterns name [pattern] = true ↔
        Wild (Text.lower pattern) (Text.lower name)) ↔ Unbracketed (Text.lower pattern)) ∧
    (¬ "|1|".toList <+: pattern → ∀ port body, StandsFor pattern port body →
      ((∀ host : Text, ∃ hit, patternCovers host port pattern = .ok hit ∧
          (hit = true ↔ Wild (Text.lower body) (Text.lower host))) ↔
        (∃ digits, Ported pattern body digits ∧ digits.length ≤ Text.Numeral.maxDigits) ∨
          ((∀ name digits, ¬ Bracketed pattern name digits) ∧
            Unbracketed (Text.lower pattern)))) := by
  refine ⟨?_, fun hhash port body h => readsPlainly_iff hhash h⟩
  simp only [matchesPatterns_singleton hpositive]
  exact patternMatches_wild_iff pattern

/-! ## Samples -/

theorem standsFor_plain {pattern : Text} (h : bracketed? pattern = none) :
    StandsFor pattern 22 pattern := by
  refine .plain fun body digits hported => ?_
  have hsome := (bracketed?_eq_some_iff pattern body digits).mpr hported.bracketed
  cases h.symm.trans hsome

/-- A name with a wildcard and a port. -/
def replicaPattern : Text := "[db-?]:2222".toList

theorem replicaPattern_ported : Ported replicaPattern "db-?".toList [2, 2, 2, 2] :=
  ⟨by decide, by decide, "2222".toList, by decide, by decide, rfl⟩

/-- A pattern for the names of a domain, in a host block, and one with a port. -/
theorem samples_readPlainly :
    "*.Example.com".toList.head? ≠ some '!' ∧ replicaPattern.head? ≠ some '!' ∧
    (∀ name : Text, HostConfig.matchesPatterns name ["*.Example.com".toList] = true ↔
      Wild "*.example.com".toList (Text.lower name)) ∧
    (∀ host : Text, ∃ hit, patternCovers host 2222 replicaPattern = .ok hit ∧
      (hit = true ↔ Wild "db-?".toList (Text.lower host))) := by
  refine ⟨by decide, by decide, ?_, ?_⟩
  · exact (patterns_readPlainly_iff "*.Example.com".toList (by decide)).1.mpr
      (Text.Glob.unbracketed_of_not_mem (by decide))
  · exact ((patterns_readPlainly_iff replicaPattern (by decide)).2 (by decide) 2222 "db-?".toList
      (.ported replicaPattern_ported)).mpr (Or.inl ⟨_, replicaPattern_ported, by decide⟩)

/-- Two letters in brackets. -/
def letterPattern : Text := "[ab]".toList

/-- The letters in brackets are read as a set: the pattern describes one of them, and not
itself. -/
theorem letterPattern_isSet :
    letterPattern.head? ≠ some '!' ∧ ¬ "|1|".toList <+: letterPattern ∧
    StandsFor letterPattern 22 letterPattern ∧
    (HostConfig.matchesPatterns "a".toList [letterPattern] = true ∧
      patternCovers "a".toList 22 letterPattern = .ok true ∧
      ¬ Wild (Text.lower letterPattern) (Text.lower "a".toList)) ∧
    HostConfig.matchesPatterns letterPattern [letterPattern] = false ∧
      patternCovers letterPattern 22 letterPattern = .ok false ∧
      Wild (Text.lower letterPattern) (Text.lower letterPattern) :=
  ⟨by decide, by decide, standsFor_plain rfl, ⟨by decide, rfl, by decide⟩, by decide, rfl,
    by decide⟩

end SshTunnel.KnownHosts
