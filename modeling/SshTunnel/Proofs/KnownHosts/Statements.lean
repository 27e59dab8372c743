import SshTunnel.Proofs.KnownHosts.Trust
import Mathlib.Data.Finset.Dedup

/-!
# What a store says, apart from how it is written

An entry states which patterns stand for its hosts, the key and the marker. The verdict on a key
follows from the set of these statements, those for certificate authorities left out: neither
the order of entries nor that of patterns has a say, nor do repetitions and line numbers.
-/

namespace SshTunnel.KnownHosts

/-- What an entry states, on whatever line and with its patterns in whatever order. -/
structure Statement where
  hosts : Finset Text
  keyType : Text
  keyData : Bytes
  marker : Marker
deriving DecidableEq

/-- The statement of an entry. -/
def Entry.statement (e : Entry) : Statement :=
  ⟨e.hosts.toFinset, e.keyType, e.keyData, e.marker⟩

/-- The statements of entries that are not for certificate authorities. -/
def statements (entries : List Entry) : Finset Statement :=
  ((entries.filter (·.marker ≠ .certAuthority)).map Entry.statement).toFinset

namespace Statement

/-- The statement is about the host at the port. -/
def IsAbout (s : Statement) (host : Text) (port : Int) : Prop :=
  (∃ p ∈ s.hosts, p.head? ≠ some '!' ∧ Covers host port p) ∧
    ∀ body, '!' :: body ∈ s.hosts → ¬ Covers host port body

/-- The statement revokes the key, for whatever hosts. -/
def Revokes (s : Statement) (key : PublicKey) : Prop :=
  s.marker = .revoked ∧ s.keyData = key.blob

/-- The statement has type and data of the key. -/
def Has (s : Statement) (key : PublicKey) : Prop :=
  s.keyType = key.algorithm ∧ s.keyData = key.blob

end Statement

/-- What statements say about the key of a host at a port. -/
inductive Says (S : Finset Statement) (host : Text) (port : Int) (key : PublicKey) :
    Verdict → Prop where
  | revoked {s : Statement} (hs : s ∈ S) (h : s.Revokes key) : Says S host port key .revoked
  | unknown (hclean : ∀ s ∈ S, ¬ s.Revokes key) (hnone : ∀ s ∈ S, ¬ s.IsAbout host port) :
      Says S host port key .unknown
  | trusted (hclean : ∀ s ∈ S, ¬ s.Revokes key) {s : Statement} (hs : s ∈ S)
      (habout : s.IsAbout host port) (h : s.Has key) : Says S host port key .trusted
  | changed (hclean : ∀ s ∈ S, ¬ s.Revokes key) {s : Statement} (hs : s ∈ S)
      (habout : s.IsAbout host port) (hother : ∀ s ∈ S, s.IsAbout host port → ¬ s.Has key) :
      Says S host port key .changed

/-- Statements say one thing only about a key. -/
theorem Says.unique {S : Finset Statement} {host : Text} {port : Int} {key : PublicKey}
    {verdict verdict' : Verdict} (h : Says S host port key verdict)
    (h' : Says S host port key verdict') : verdict = verdict' := by
  cases h with
  | revoked hs hrevokes =>
      cases h' with
      | revoked => rfl
      | unknown hclean => exact absurd hrevokes (hclean _ hs)
      | trusted hclean => exact absurd hrevokes (hclean _ hs)
      | changed hclean => exact absurd hrevokes (hclean _ hs)
  | unknown hclean hnone =>
      cases h' with
      | revoked hs hrevokes => exact absurd hrevokes (hclean _ hs)
      | unknown => rfl
      | trusted _ hs habout => exact absurd habout (hnone _ hs)
      | changed _ hs habout => exact absurd habout (hnone _ hs)
  | trusted hclean hs habout hhas =>
      cases h' with
      | revoked hs hrevokes => exact absurd hrevokes (hclean _ hs)
      | unknown _ hnone => exact absurd habout (hnone _ hs)
      | trusted => rfl
      | changed _ _ _ hother => exact absurd hhas (hother _ hs habout)
  | changed hclean hs habout hother =>
      cases h' with
      | revoked hs hrevokes => exact absurd hrevokes (hclean _ hs)
      | unknown _ hnone => exact absurd habout (hnone _ hs)
      | trusted _ hs habout hhas => exact absurd hhas (hother _ hs habout)
      | changed => rfl

/-! ## Entries and their statements -/

theorem mem_statements {entries : List Entry} {s : Statement} : s ∈ statements entries ↔
    ∃ e ∈ entries, e.marker ≠ .certAuthority ∧ e.statement = s := by
  simp [statements, and_assoc]

theorem Entry.statement_mem {entries : List Entry} {e : Entry} (he : e ∈ entries)
    (hcert : e.marker ≠ .certAuthority) : e.statement ∈ statements entries :=
  mem_statements.mpr ⟨e, he, hcert, rfl⟩

theorem Entry.statement_isAbout_iff (e : Entry) (host : Text) (port : Int) :
    e.statement.IsAbout host port ↔ ListCovers host port e.hosts := by
  simp only [Statement.IsAbout, Entry.statement, List.mem_toFinset, ListCovers]

theorem Entry.statement_has_iff (e : Entry) (key : PublicKey) :
    e.statement.Has key ↔ e.hasKey key = true := by
  simp [Statement.Has, Entry.statement, Entry.hasKey]

/-- Some entry revokes the key just when some statement does. -/
theorem any_revoked_iff (entries : List Entry) (key : PublicKey) :
    (entries.any fun e => e.marker = .revoked && e.keyData = key.blob) = true ↔
      ∃ s ∈ statements entries, s.Revokes key := by
  simp only [List.any_eq_true, Bool.and_eq_true, decide_eq_true_eq]
  constructor
  · rintro ⟨e, he, hm, hdata⟩
    exact ⟨e.statement, Entry.statement_mem he (by simp [hm]), hm, hdata⟩
  · rintro ⟨s, hs, hm, hdata⟩
    obtain ⟨e, he, -, rfl⟩ := mem_statements.mp hs
    exact ⟨e, he, hm, hdata⟩

/-- Entries for certificate authorities are passed over. -/
theorem covering_filter (host : Text) (port : Int) (entries : List Entry) :
    covering host port (entries.filter (·.marker ≠ .certAuthority))
      = covering host port entries := by
  induction entries with
  | nil => rfl
  | cons entry more ih =>
      by_cases hcert : entry.marker = .certAuthority
      · rw [List.filter_cons_of_neg (by simp [hcert]), ih, covering, if_pos hcert]
      · rw [List.filter_cons_of_pos (by simp [hcert]), covering, covering, if_neg hcert,
          if_neg hcert, ih]

/-- The entries that cover a host, as long as no port stands in the way of the statements. -/
theorem covering_of_statements (host : Text) {port : Int} {entries : List Entry}
    (h : ∀ s ∈ statements entries, ∀ p ∈ s.hosts, ShortAt port (bare p)) :
    ∃ covered, covering host port entries = .ok covered ∧ ∀ e, e ∈ covered ↔
      e ∈ entries ∧ e.marker ≠ .certAuthority ∧ ListCovers host port e.hosts := by
  have hshort : ∀ e ∈ entries.filter (·.marker ≠ .certAuthority), ∀ p ∈ e.hosts,
      ShortAt port (bare p) := by
    intro e he p hp
    obtain ⟨hmem, hcert⟩ := List.mem_filter.mp he
    exact h e.statement (Entry.statement_mem hmem (by simpa using hcert)) p
      (List.mem_toFinset.mpr hp)
  obtain ⟨covered, hcovered, hmem⟩ := covering_ok host hshort
  rw [covering_filter] at hcovered
  refine ⟨covered, hcovered, fun e => ?_⟩
  rw [hmem, List.mem_filter, decide_eq_true_iff]
  tauto

/-! ## Verdicts -/

/-- The verdict of a store is what its statements say. -/
theorem check_says (store : KnownHosts) (host : Text) {port : Int} (key : PublicKey)
    (h : ∀ s ∈ statements store.entries, ∀ p ∈ s.hosts, ShortAt port (bare p)) :
    ∃ verdict, store.check host port key = .ok verdict ∧
      Says (statements store.entries) host port key verdict := by
  obtain ⟨covered, hcovered, hmem⟩ := covering_of_statements host h
  refine ⟨judge store.entries covered key, by simp [check, hcovered, Except.map], ?_⟩
  have hin : ∀ s ∈ statements store.entries, s.IsAbout host port →
      ∃ e ∈ covered, e.statement = s := by
    intro s hs habout
    obtain ⟨e, he, hcert, rfl⟩ := mem_statements.mp hs
    exact ⟨e, (hmem e).mpr ⟨he, hcert, (e.statement_isAbout_iff host port).mp habout⟩, rfl⟩
  have hout : ∀ e ∈ covered, e.statement ∈ statements store.entries ∧
      e.statement.IsAbout host port := by
    intro e he
    obtain ⟨hentry, hcert, hcovers⟩ := (hmem e).mp he
    exact ⟨Entry.statement_mem hentry hcert, (e.statement_isAbout_iff host port).mpr hcovers⟩
  rw [judge]
  by_cases hrevoked :
      (store.entries.any fun e => e.marker = .revoked && e.keyData = key.blob) = true
  · rw [if_pos hrevoked]
    obtain ⟨s, hs, hrevokes⟩ := (any_revoked_iff store.entries key).mp hrevoked
    exact .revoked hs hrevokes
  · rw [if_neg hrevoked]
    have hclean : ∀ s ∈ statements store.entries, ¬ s.Revokes key := by
      intro s hs hrevokes
      exact hrevoked ((any_revoked_iff store.entries key).mpr ⟨s, hs, hrevokes⟩)
    cases covered with
    | nil =>
        refine .unknown hclean fun s hs habout => ?_
        obtain ⟨e, he, -⟩ := hin s hs habout
        cases he
    | cons first more =>
        rw [List.isEmpty_cons, if_neg Bool.false_ne_true]
        by_cases hany : (first :: more).any (·.hasKey key) = true
        · rw [if_pos hany]
          obtain ⟨e, he, hhas⟩ := List.any_eq_true.mp hany
          obtain ⟨hs, habout⟩ := hout e he
          exact .trusted hclean hs habout ((e.statement_has_iff key).mpr hhas)
        · rw [if_neg hany]
          obtain ⟨hs, habout⟩ := hout first List.mem_cons_self
          refine .changed hclean hs habout fun s hs habout hhas => hany ?_
          obtain ⟨e, he, rfl⟩ := hin s hs habout
          exact List.any_eq_true.mpr ⟨e, he, (e.statement_has_iff key).mp hhas⟩

/-- Stores with the same statements give the same verdict on every key, at every port that
stands in the way of no pattern. -/
theorem check_eq_of_statements_eq {store store' : KnownHosts}
    (hsame : statements store.entries = statements store'.entries) :
    ∀ (host : Text) (port : Int) (key : PublicKey),
      (∀ s ∈ statements store.entries, ∀ p ∈ s.hosts, ShortAt port (bare p)) → ∃ verdict,
        store.check host port key = .ok verdict ∧ store'.check host port key = .ok verdict := by
  intro host port key hshort
  obtain ⟨verdict, hcheck, hsays⟩ := check_says store host key hshort
  rw [hsame] at hsays hshort
  obtain ⟨verdict', hcheck', hsays'⟩ := check_says store' host key hshort
  obtain rfl : verdict = verdict' := hsays.unique hsays'
  exact ⟨verdict, hcheck, hcheck'⟩

/-- Two entries for the key of a host, and one that revokes it for others. -/
def sampleEntries : List Entry :=
  [⟨["db".toList, "!db.old".toList], "ssh-ed25519".toList, [1], .none, 1⟩,
    ⟨["[db]:2222".toList], "ssh-ed25519".toList, [2], .none, 2⟩,
    ⟨["*".toList], "ssh-rsa".toList, [3], .revoked, 3⟩]

/-- The same entries in another order, one of them twice, with patterns repeated and with an
entry for a certificate authority in between. -/
def rewrittenEntries : List Entry :=
  [⟨["*".toList], "ssh-rsa".toList, [3], .revoked, 7⟩,
    ⟨["!db.old".toList, "db".toList, "db".toList], "ssh-ed25519".toList, [1], .none, 9⟩,
    ⟨["*".toList], "ssh-ed25519".toList, [1], .certAuthority, 4⟩,
    ⟨["[db]:2222".toList], "ssh-ed25519".toList, [2], .none, 5⟩,
    ⟨["db".toList, "!db.old".toList], "ssh-ed25519".toList, [1], .none, 9⟩]

theorem rewrittenEntries_sameVerdicts :
    statements sampleEntries = statements rewrittenEntries ∧
    (∀ port, ∀ s ∈ statements sampleEntries, ∀ p ∈ s.hosts, ShortAt port (bare p)) ∧
    ∀ (host : Text) (port : Int) (key : PublicKey), ∃ verdict,
      KnownHosts.check ⟨sampleEntries, none⟩ host port key = .ok verdict ∧
        KnownHosts.check ⟨rewrittenEntries, none⟩ host port key = .ok verdict := by
  have hhosts : (["!db.old".toList, "db".toList, "db".toList] : List Text).toFinset
      = ["db".toList, "!db.old".toList].toFinset := by
    ext p
    simp [or_comm]
  have hsame : statements sampleEntries = statements rewrittenEntries := by
    ext s
    simp only [mem_statements, sampleEntries, rewrittenEntries, List.mem_cons,
      List.not_mem_nil, or_false, exists_eq_or_imp, exists_eq_left, Entry.statement, hhosts]
    simp only [ne_eq, reduceCtorEq, not_false_eq_true, not_true_eq_false, true_and, false_and]
    tauto
  have hread : ∀ e ∈ sampleEntries, ∀ p ∈ e.hosts,
      ShortPort (bare p) ∧ ¬ IsHashed (bare p) := by
    decide
  have hshort : ∀ port, ∀ s ∈ statements sampleEntries, ∀ p ∈ s.hosts,
      ShortAt port (bare p) := by
    intro port s hs p hp
    obtain ⟨e, he, -, rfl⟩ := mem_statements.mp hs
    obtain ⟨hport, hhash⟩ := hread e he p (List.mem_toFinset.mp hp)
    exact ⟨hport, fun h => absurd h hhash⟩
  exact ⟨hsame, hshort, fun host port key =>
    @check_eq_of_statements_eq ⟨sampleEntries, none⟩ ⟨rewrittenEntries, none⟩ hsame host port key
      (hshort port)⟩

end SshTunnel.KnownHosts
