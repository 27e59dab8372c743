import SshTunnel.Proofs.KnownHosts.KeyLine
import SshTunnel.Proofs.KnownHosts.Trust

/-!
# When a loaded store has a verdict

A port in brackets may have more digits than are read, and loading does not look at it. A store
has no verdict on a host exactly when the search through some entry meets such a port, or a
hashed name while the port asked about cannot be written, which it does unless a negated pattern
has covered the host before.
-/

namespace SshTunnel.KnownHosts

variable {lib : Key.Library}

/-- The search through a list of patterns meets a pattern that a port with too many digits keeps
from an answer: its own, or for a hashed one the port that is asked about. -/
inductive MeetsLongPort (host : Text) (port : Int) : List Text → Prop where
  | here {pattern : Text} {more : List Text} (h : ¬ ShortAt port (bare pattern)) :
      MeetsLongPort host port (pattern :: more)
  | later {pattern : Text} {more : List Text}
      (hgoes : ∀ body, pattern = '!' :: body → ¬ Covers host port body)
      (h : MeetsLongPort host port more) : MeetsLongPort host port (pattern :: more)

/-- Some line of the text that is not for certificate authorities has a list of patterns in
which the search meets such a pattern. -/
def TextMeetsLongPort (t host : Text) (port : Int) : Prop :=
  ∃ line ∈ significantLines t, ∃ m hosts keyType data, LineSays line m hosts keyType data ∧
    m ≠ .certAuthority ∧ MeetsLongPort host port (hostList hosts)

/-! ## One pattern -/

theorem patternCovers_error (host : Text) {port : Int} {pattern : Text}
    (h : ¬ ShortAt port pattern) : ∃ e, patternCovers host port pattern = .error e := by
  by_cases hshort : ShortPort pattern
  · obtain ⟨hhash, hport⟩ : IsHashed pattern ∧ ¬ Text.Numeral.isWritable port = true := by
      simpa [ShortAt, hshort] using h
    exact ⟨_, patternCovers_hashed_error host (Bool.eq_false_iff.mpr hport) hhash⟩
  · obtain ⟨body, digits, hb, hlong⟩ : ∃ body digits, Bracketed pattern body digits ∧
        ¬ digits.length ≤ Text.Numeral.maxDigits := by
      simpa [ShortPort] using hshort
    have hread := (bracketed?_eq_some_iff pattern body digits).mpr hb
    refine ⟨.read digits.length, ?_⟩
    rw [patternCovers, ofText_of_not_hashed (not_hashed_of_bracketed hb), hread]
    simp [HostPattern.covers, Text.Numeral.bounded, hlong, Except.map]

/-! ## Lists of patterns -/

theorem meetsLongPort_cons_iff (host : Text) (port : Int) {pattern : Text} {more : List Text}
    (h : ShortAt port (bare pattern)) : MeetsLongPort host port (pattern :: more) ↔
      (∀ body, pattern = '!' :: body → ¬ Covers host port body) ∧
        MeetsLongPort host port more := by
  constructor
  · intro hmeets
    cases hmeets with
    | here hlong => exact absurd h hlong
    | later hgoes hmore => exact ⟨hgoes, hmore⟩
  · rintro ⟨hgoes, hmore⟩
    exact .later hgoes hmore

/-- A search is given up exactly when it meets a pattern without an answer. -/
theorem searchPatterns_error_iff (host : Text) (port : Int) (found : Bool)
    (patterns : List Text) : (∃ e, searchPatterns host port found patterns = .error e) ↔
      MeetsLongPort host port patterns := by
  induction patterns generalizing found with
  | nil =>
      simp only [searchPatterns, reduceCtorEq, exists_false, false_iff]
      rintro ⟨⟩
  | cons pattern more ih =>
      cases hneg : HostConfig.negated? pattern with
      | some body =>
          have hbare : bare pattern = body := by simp [bare, hneg]
          by_cases hshort : ShortAt port body
          · obtain ⟨hit, hread, hiff⟩ := patternCovers_ok host hshort
            rw [meetsLongPort_cons_iff host port (hbare ▸ hshort), ← ih found]
            obtain rfl := (negated?_eq_some_iff pattern body).mp hneg
            cases hit with
            | true =>
                have hcovers : Covers host port body := hiff.mp rfl
                simp [searchPatterns, hneg, hread, Except.bind, hcovers]
            | false =>
                have hcovers : ¬ Covers host port body := by simpa using hiff
                simp [searchPatterns, hneg, hread, Except.bind, hcovers]
          · obtain ⟨e, hread⟩ := patternCovers_error host hshort
            constructor
            · exact fun _ => .here (hbare ▸ hshort)
            · exact fun _ => ⟨e, by simp [searchPatterns, hneg, hread, Except.bind]⟩
      | none =>
          have hbare : bare pattern = pattern := by simp [bare, hneg]
          by_cases hshort : ShortAt port pattern
          · obtain ⟨hit, hread, -⟩ := patternCovers_ok host hshort
            have hgoes : ∀ body, pattern = '!' :: body → ¬ Covers host port body := by
              rintro body rfl
              cases hneg
            rw [meetsLongPort_cons_iff host port (hbare.symm ▸ hshort), and_iff_right hgoes,
              ← ih (found || hit)]
            simp [searchPatterns, hneg, hread, Except.bind]
          · obtain ⟨e, hread⟩ := patternCovers_error host hshort
            constructor
            · exact fun _ => .here (hbare.symm ▸ hshort)
            · exact fun _ => ⟨e, by simp [searchPatterns, hneg, hread, Except.bind]⟩

/-! ## Entries -/

/-- Entries are gone through up to the first whose search is given up. -/
theorem covering_error_iff (host : Text) (port : Int) (entries : List Entry) :
    (∃ e, covering host port entries = .error e) ↔
      ∃ entry ∈ entries, entry.marker ≠ .certAuthority ∧ MeetsLongPort host port entry.hosts := by
  induction entries with
  | nil => simp [covering]
  | cons entry more ih =>
      simp only [List.mem_cons, exists_eq_or_imp]
      by_cases hcert : entry.marker = .certAuthority
      · have hskip : covering host port (entry :: more) = covering host port more := by
          simp [covering, hcert]
        rw [hskip, ih]
        simp [hcert]
      · rw [← ih, ← searchPatterns_error_iff host port false entry.hosts]
        simp only [covering, if_neg hcert, listCovers]
        cases searchPatterns host port false entry.hosts with
        | error e => simp [Except.bind, hcert]
        | ok hit => cases covering host port more <;> simp [Except.bind, Except.map]

theorem check_error_iff (store : KnownHosts) (host : Text) (port : Int) (key : PublicKey) :
    (∃ e, store.check host port key = .error e) ↔ ∃ entry ∈ store.entries,
      entry.marker ≠ .certAuthority ∧ MeetsLongPort host port entry.hosts := by
  rw [← covering_error_iff, check]
  cases covering host port store.entries <;> simp [Except.map]

/-! ## Texts -/

theorem parse_of_ofText {t : Text} {store : KnownHosts} (h : ofText lib t = .ok store) :
    parse lib t = .ok store.entries := by
  rw [ofText] at h
  cases hparse : parse lib t with
  | error e => simp [hparse] at h
  | ok entries =>
      rw [hparse] at h
      cases h
      rfl

/-- The entries of a text have the hosts of its lines. -/
theorem exists_entry_meets_iff {t : Text} {entries : List Entry} (h : parse lib t = .ok entries)
    (host : Text) (port : Int) : (∃ entry ∈ entries, entry.marker ≠ .certAuthority ∧
      MeetsLongPort host port entry.hosts) ↔ TextMeetsLongPort t host port := by
  constructor
  · rintro ⟨entry, hentry, hmarker, hmeets⟩
    obtain ⟨line, hline, hosts, data, hsays, -, -, hhosts⟩ := exists_line_of_entry h hentry
    exact ⟨line, hline, _, hosts, _, data, hsays, hmarker, hhosts ▸ hmeets⟩
  · rintro ⟨line, hline, m, hosts, keyType, data, hsays, hmarker, hmeets⟩
    obtain ⟨entry, hentry, hosts', data', hsays', -, -, hhosts⟩ := exists_entry_of_line h hline
    obtain ⟨rfl, rfl, -, -⟩ := hsays.unique hsays'
    exact ⟨entry, hentry, hmarker, hhosts ▸ hmeets⟩

/-- A store that was loaded from a text has a verdict on a key exactly when no search meets a
pattern that a port with too many digits keeps from an answer. -/
theorem loaded_verdict_iff {t : Text} {store : KnownHosts} (h : ofText lib t = .ok store) :
    ∀ (host : Text) (port : Int) (key : PublicKey),
      (∃ verdict, store.check host port key = .ok verdict) ↔
        ¬ TextMeetsLongPort t host port := by
  intro host port key
  rw [← exists_entry_meets_iff (parse_of_ofText h), ← check_error_iff store host port key]
  cases store.check host port key <;> simp

/-! ## A port with too many digits -/

/-- A name with a port of one digit more than are read. -/
def longPortName : Text := "[h]:".toList ++ List.replicate (Text.Numeral.maxDigits + 1) '1'

theorem mapM_digitValue?_replicate (n : Nat) :
    (List.replicate n '1').mapM Text.digitValue? = some (List.replicate n 1) := by
  have hone : Text.digitValue? '1' = some 1 := by decide
  induction n with
  | zero => rfl
  | succ n ih => simp [List.replicate_succ, hone, ih]

theorem longPortName_not_short : ¬ ShortPort longPortName := by
  intro h
  have hb : Bracketed longPortName "h".toList
      (List.replicate (Text.Numeral.maxDigits + 1) 1) :=
    ⟨by decide, by decide, _, by simp, mapM_digitValue?_replicate _, Or.inl rfl⟩
  have hlength := h _ _ hb
  rw [List.length_replicate] at hlength
  omega

/-- A line for that name and not for another host. -/
def longPortLine : KeyLine OpenSsh.library where
  hosts := "!g,".toList ++ longPortName
  key := zeroKey
  hosts_ne_nil := by simp
  hosts_not_blank c hc := by
    simp only [longPortName, List.mem_append, List.mem_replicate] at hc
    rcases hc with hc | hc | ⟨-, rfl⟩
    · exact not_blank_of_all (by decide) c hc
    · exact not_blank_of_all (by decide) c hc
    · decide
  not_marker := by simp
  not_comment := by simp
  known := knows_zeroKey

/-- The store of that line. -/
def longPortStore : KnownHosts := ⟨[longPortLine.entry 1], none⟩

theorem longPortStore_loads :
    ofText OpenSsh.library (storeText [longPortLine]) = .ok longPortStore := by
  rw [ofText, parse_storeText]
  rfl

theorem hosts_longPortLine : hostList longPortLine.hosts = ["!g".toList, longPortName] := by
  have hsplit : longPortLine.hosts.splitOn ',' = ["!g".toList, longPortName] := by
    rw [Text.splitOn_eq_pair_iff]
    refine ⟨rfl, by decide, fun h => ?_⟩
    simp [longPortName] at h
  rw [hostList, hsplit]
  simp [longPortName]

theorem shortAt_g (port : Int) : ShortAt port "g".toList :=
  ⟨(shortPort_iff _).mpr (by decide), fun h => absurd h (by decide)⟩

theorem covers_g_iff (host : Text) (port : Int) :
    Covers host port "g".toList ↔ patternCovers host port "g".toList = .ok true := by
  obtain ⟨hit, hread, hiff⟩ := patternCovers_ok host (shortAt_g port)
  rw [hread, ← hiff]
  simp

/-- The store has no verdict on the host of the name. -/
theorem longPortStore_noVerdict :
    ∃ store, ofText OpenSsh.library (storeText [longPortLine]) = .ok store ∧
      ∃ e, store.check "h".toList 22 zeroKey = .error e := by
  refine ⟨longPortStore, longPortStore_loads, ?_⟩
  rw [check_error_iff]
  refine ⟨longPortLine.entry 1, by simp [longPortStore], by simp [KeyLine.entry], ?_⟩
  rw [KeyLine.entry, hosts_longPortLine]
  refine .later ?_ (.here ?_)
  · intro body hbody
    obtain rfl : "g".toList = body := (List.cons.inj hbody).2
    rw [covers_g_iff]
    decide
  · exact fun hshort => longPortName_not_short hshort.1

/-- It has one on the other host, which the search leaves before it comes to the port. -/
theorem longPortStore_verdict :
    ofText OpenSsh.library (storeText [longPortLine]) = .ok longPortStore ∧
      ∃ verdict, longPortStore.check "g".toList 22 zeroKey = .ok verdict := by
  refine ⟨longPortStore_loads, ?_⟩
  rw [loaded_verdict_iff longPortStore_loads "g".toList 22 zeroKey,
    ← exists_entry_meets_iff (parse_of_ofText longPortStore_loads)]
  rintro ⟨entry, hentry, -, hmeets⟩
  obtain rfl : entry = longPortLine.entry 1 := List.mem_singleton.mp hentry
  rw [KeyLine.entry, hosts_longPortLine] at hmeets
  cases hmeets with
  | here hlong => exact hlong (shortAt_g 22)
  | later hgoes _ =>
      apply hgoes "g".toList rfl
      rw [covers_g_iff]
      decide

end SshTunnel.KnownHosts
