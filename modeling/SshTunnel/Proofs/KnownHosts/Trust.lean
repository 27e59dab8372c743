import SshTunnel.KnownHosts.Store
import SshTunnel.Proofs.KnownHosts.Line
import SshTunnel.Proofs.KnownHosts.Pattern

/-!
# When a store trusts a key

`Trusts` says it of the text of a store: no revocation of the key anywhere, and an unmarked
line that covers the host with exactly this key. The verdict of the loaded store agrees with
it, since an entry that is revoked and covers the host is a revocation first of all.
-/

namespace SshTunnel.KnownHosts

/-- The text of a store trusts the key of a host at a port: no line with the marker for
revoked keys carries the blob, and an unmarked line for the host carries type and blob. -/
def Trusts (t name : Text) (port : Int) (key : PublicKey) : Prop :=
  (∀ line ∈ significantLines t, ∀ hosts keyType data,
      LineSays line .revoked hosts keyType data → Base64.decode data ≠ .ok key.blob) ∧
    ∃ line ∈ significantLines t, ∃ hosts data,
      LineSays line .none hosts key.algorithm data ∧
        Base64.decode data = .ok key.blob ∧ ListCovers name port (hostList hosts)

/-- No port in brackets in the text has more digits than are read, and the port asked about has
no more than are written if the text has a hashed name. -/
def ShortPorts (t : Text) (port : Int) : Prop :=
  ∀ line ∈ significantLines t, ∀ m hosts keyType data, LineSays line m hosts keyType data →
    ∀ p ∈ hostList hosts, ShortAt port (bare p)

/-- The number of port digits decides it for one pattern. -/
theorem shortPort_iff (pattern : Text) :
    ShortPort pattern ↔
      (bracketed? pattern).all (fun parts => parts.2.length ≤ Text.Numeral.maxDigits) = true := by
  unfold ShortPort
  simp only [← bracketed?_eq_some_iff]
  cases bracketed? pattern with
  | none => simp
  | some parts => simp [Prod.ext_iff]

instance (pattern : Text) : Decidable (ShortPort pattern) :=
  decidable_of_iff _ (shortPort_iff pattern).symm

instance (pattern : Text) : Decidable (IsHashed pattern) :=
  decidable_of_iff _ List.isPrefixOf_iff_prefix

instance (port : Int) (pattern : Text) : Decidable (ShortAt port pattern) :=
  inferInstanceAs (Decidable (_ ∧ _))

variable {lib : Key.Library}

/-! ## Entries -/

theorem covering_ok (host : Text) {port : Int} {entries : List Entry}
    (h : ∀ e ∈ entries, ∀ p ∈ e.hosts, ShortAt port (bare p)) :
    ∃ covered, covering host port entries = .ok covered ∧ ∀ e, e ∈ covered ↔
      e ∈ entries ∧ e.marker ≠ .certAuthority ∧ ListCovers host port e.hosts := by
  induction entries with
  | nil => exact ⟨[], rfl, by simp⟩
  | cons entry more ih =>
      obtain ⟨rest, hrest, hmem⟩ := ih fun e he => h e (by simp [he])
      by_cases hcert : entry.marker = .certAuthority
      · refine ⟨rest, by simp [covering, hcert, hrest], fun e => ?_⟩
        rw [hmem, List.mem_cons]
        constructor
        · rintro ⟨he, hm, hc⟩
          exact ⟨Or.inr he, hm, hc⟩
        · rintro ⟨rfl | he, hm, hc⟩
          · exact absurd hcert hm
          · exact ⟨he, hm, hc⟩
      · obtain ⟨hit, hread, hiff⟩ := listCovers_ok host (h entry (by simp))
        refine ⟨if hit then entry :: rest else rest, ?_, fun e => ?_⟩
        · simp [covering, hcert, hread, hrest, Except.bind, Except.map]
        · cases hit with
          | true =>
              have hcov : ListCovers host port entry.hosts := hiff.mp rfl
              simp only [↓reduceIte, List.mem_cons, hmem]
              constructor
              · rintro (rfl | ⟨he, hm, hc⟩)
                · exact ⟨Or.inl rfl, hcert, hcov⟩
                · exact ⟨Or.inr he, hm, hc⟩
              · rintro ⟨rfl | he, hm, hc⟩
                · exact Or.inl rfl
                · exact Or.inr ⟨he, hm, hc⟩
          | false =>
              have hcov : ¬ ListCovers host port entry.hosts := by simpa using hiff
              simp only [Bool.false_eq_true, ↓reduceIte, List.mem_cons, hmem]
              constructor
              · rintro ⟨he, hm, hc⟩
                exact ⟨Or.inr he, hm, hc⟩
              · rintro ⟨rfl | he, hm, hc⟩
                · exact absurd hc hcov
                · exact ⟨he, hm, hc⟩

theorem judge_eq_trusted_iff (entries covered : List Entry) (key : PublicKey) :
    judge entries covered key = .trusted ↔
      (∀ e ∈ entries, e.marker = .revoked → e.keyData ≠ key.blob) ∧
        ∃ e ∈ covered, e.keyType = key.algorithm ∧ e.keyData = key.blob := by
  by_cases hrevoked :
      (entries.any fun e => e.marker = .revoked && e.keyData = key.blob) = true
  · have hno : ¬ ∀ e ∈ entries, e.marker = .revoked → e.keyData ≠ key.blob := by
      obtain ⟨e, he, hboth⟩ := List.any_eq_true.mp hrevoked
      simp only [Bool.and_eq_true, decide_eq_true_eq] at hboth
      exact fun hall => hall e he hboth.1 hboth.2
    simp only [judge, if_pos hrevoked, reduceCtorEq, false_iff]
    exact fun h => hno h.1
  · have hall : ∀ e ∈ entries, e.marker = .revoked → e.keyData ≠ key.blob := by
      intro e he hm hkey
      exact hrevoked (List.any_eq_true.mpr ⟨e, he, by simp [hm, hkey]⟩)
    rw [judge, if_neg hrevoked]
    by_cases hempty : covered.isEmpty = true
    · have hnil : covered = [] := by simpa using hempty
      simp [hnil]
    · rw [if_neg hempty]
      by_cases hkey : covered.any (·.hasKey key) = true
      · rw [if_pos hkey]
        obtain ⟨e, he, hboth⟩ := List.any_eq_true.mp hkey
        simp only [Entry.hasKey, Bool.and_eq_true, decide_eq_true_eq] at hboth
        simpa using ⟨hall, e, he, hboth⟩
      · rw [if_neg hkey]
        simp only [reduceCtorEq, false_iff]
        rintro ⟨-, e, he, htype, hdata⟩
        exact hkey (List.any_eq_true.mpr ⟨e, he, by simp [Entry.hasKey, htype, hdata]⟩)

/-- The store gives a verdict, and it is trust exactly when the key is not revoked and an
unmarked entry for the host has it. -/
theorem check_ok (store : KnownHosts) (host : Text) {port : Int} (key : PublicKey)
    (h : ∀ e ∈ store.entries, ∀ p ∈ e.hosts, ShortAt port (bare p)) :
    ∃ verdict, store.check host port key = .ok verdict ∧ (verdict = .trusted ↔
      (∀ e ∈ store.entries, e.marker = .revoked → e.keyData ≠ key.blob) ∧
        ∃ e ∈ store.entries, e.marker = .none ∧ e.keyType = key.algorithm ∧
          e.keyData = key.blob ∧ ListCovers host port e.hosts) := by
  obtain ⟨covered, hcovered, hmem⟩ := covering_ok host h
  refine ⟨judge store.entries covered key, by simp [check, hcovered, Except.map], ?_⟩
  rw [judge_eq_trusted_iff]
  constructor
  · rintro ⟨hall, e, he, htype, hdata⟩
    obtain ⟨hin, hcert, hcov⟩ := (hmem e).mp he
    refine ⟨hall, e, hin, ?_, htype, hdata, hcov⟩
    cases hm : e.marker with
    | none => rfl
    | revoked => exact absurd hdata (hall e hin hm)
    | certAuthority => exact absurd hm hcert
  · rintro ⟨hall, e, hin, hm, htype, hdata, hcov⟩
    exact ⟨hall, e, (hmem e).mpr ⟨hin, by simp [hm], hcov⟩, htype, hdata⟩

/-! ## Texts -/

/-- The patterns of a text are those of its entries. -/
theorem shortPorts_iff {t : Text} {entries : List Entry} (h : parse lib t = .ok entries)
    (port : Int) : ShortPorts t port ↔ ∀ e ∈ entries, ∀ p ∈ e.hosts, ShortAt port (bare p) := by
  constructor
  · intro hports e he p hp
    obtain ⟨line, hline, hosts, data, hsays, -, -, hhosts⟩ := exists_line_of_entry h he
    exact hports line hline _ _ _ _ hsays p (hhosts ▸ hp)
  · intro hports line hline m hosts keyType data hsays p hp
    obtain ⟨e, he, hosts', data', hsays', -, -, hhosts⟩ := exists_entry_of_line h hline
    obtain ⟨-, rfl, -, -⟩ := hsays.unique hsays'
    exact hports e he p (hhosts ▸ hp)

/-- The store that a text writes trusts exactly the keys that the text trusts. -/
theorem check_text {t : Text} {store : KnownHosts} (h : parse lib t = .ok store.entries)
    {port : Int} (hports : ShortPorts t port) (host : Text) (key : PublicKey) :
    ∃ verdict, store.check host port key = .ok verdict ∧
      (verdict = .trusted ↔ Trusts t host port key) := by
  obtain ⟨verdict, hverdict, hiff⟩ :=
    check_ok store host key ((shortPorts_iff h port).mp hports)
  refine ⟨verdict, hverdict, hiff.trans ⟨?_, ?_⟩⟩
  · rintro ⟨hall, e, he, hm, htype, hdata, hcov⟩
    constructor
    · intro line hline hosts keyType data hsays hkey
      obtain ⟨r, hr, hosts', data', hsays', hdata', -, -⟩ := exists_entry_of_line h hline
      obtain ⟨hmarker, -, -, hsame⟩ := hsays.unique hsays'
      refine hall r hr hmarker.symm ?_
      rw [← hsame, hkey] at hdata'
      exact (Except.ok.inj hdata').symm
    · obtain ⟨line, hline, hosts, data, hsays, hdecode, -, hhosts⟩ := exists_line_of_entry h he
      rw [hm, htype] at hsays
      rw [hdata] at hdecode
      exact ⟨line, hline, hosts, data, hsays, hdecode, hhosts ▸ hcov⟩
  · rintro ⟨hall, line, hline, hosts, data, hsays, hdecode, hcov⟩
    constructor
    · intro r hr hm hkey
      obtain ⟨line', hline', hosts', data', hsays', hdecode', -, -⟩ := exists_line_of_entry h hr
      rw [hm] at hsays'
      exact hall line' hline' _ _ _ hsays' (hkey ▸ hdecode')
    · obtain ⟨e, he, hosts', data', hsays', hdecode', -, hhosts⟩ := exists_entry_of_line h hline
      obtain ⟨hmarker, rfl, htype, rfl⟩ := hsays.unique hsays'
      rw [hdecode] at hdecode'
      exact ⟨e, he, hmarker.symm, htype.symm, (Except.ok.inj hdecode').symm, hhosts ▸ hcov⟩

end SshTunnel.KnownHosts
