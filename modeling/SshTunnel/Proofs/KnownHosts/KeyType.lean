import SshTunnel.Proofs.KnownHosts.Statements
import SshTunnel.Proofs.KnownHosts.Verdict

/-!
# The type of a key on a line

A line names the type of its key in a field of its own, and the blob names it once more in front
of the key. Loading reads the blob and takes the other field as it is written, while a key is
trusted only for an entry with both. The store trusts the key of an entry for the hosts of the
entry as long as some entry for them has that key under its right type; otherwise it takes the
very same key for a changed one.
-/

namespace SshTunnel.KnownHosts

variable {lib : Key.Library}

/-- The type is the algorithm of the key in the blob. -/
def NamesType (lib : Key.Library) (blob : Bytes) (keyType : Text) : Prop :=
  ∃ key, lib.decodePublic blob = .ok key ∧ keyType = key.algorithm

/-- Some unmarked entry for the host has the blob of the key, under the algorithm of the key. -/
def HoldsTyped (entries : List Entry) (host : Text) (port : Int) (key : PublicKey) : Prop :=
  ∃ e ∈ entries, e.marker = .none ∧ listCovers host port e.hosts = .ok true ∧
    e.keyData = key.blob ∧ e.keyType = key.algorithm

/-! ## The key of an entry -/

/-- A key that is not revoked is trusted for a host of some unmarked entry just when it is held
under its type for that host; else it counts as changed. -/
theorem check_ownKey {store : KnownHosts} {e : Entry} {key : PublicKey} {host : Text} {port : Int}
    (hshort : ∀ e ∈ store.entries, ∀ p ∈ e.hosts, ShortAt port (bare p)) (he : e ∈ store.entries)
    (hmarker : e.marker = .none)
    (hclean : ∀ r ∈ store.entries, r.marker = .revoked → r.keyData ≠ key.blob)
    (hcovers : listCovers host port e.hosts = .ok true) :
    (store.check host port key = .ok .trusted ↔ HoldsTyped store.entries host port key) ∧
      (store.check host port key = .ok .changed ↔ ¬ HoldsTyped store.entries host port key) := by
  obtain ⟨verdict, hverdict, htrusted⟩ := check_ok store host key hshort
  have hholds : verdict = .trusted ↔ HoldsTyped store.entries host port key := by
    rw [htrusted, and_iff_right hclean]
    refine exists_congr fun f => and_congr_right fun hf => and_congr_right fun _ => ?_
    rw [listCovers_eq_true_iff host (hshort f hf)]
    tauto
  -- The key is not revoked, and the host is a known one.
  have hknown : verdict = .trusted ∨ verdict = .changed := by
    have hstatements : ∀ s ∈ statements store.entries, ∀ p ∈ s.hosts, ShortAt port (bare p) := by
      intro s hs p hp
      obtain ⟨f, hf, -, rfl⟩ := mem_statements.mp hs
      exact hshort f hf p (List.mem_toFinset.mp hp)
    obtain ⟨verdict', hverdict', hsays⟩ := check_says store host key hstatements
    obtain rfl := Except.ok.inj (hverdict.symm.trans hverdict')
    cases hsays with
    | revoked hs hrevokes =>
        obtain ⟨r, hr, -, rfl⟩ := mem_statements.mp hs
        exact absurd hrevokes.2 (hclean r hr hrevokes.1)
    | unknown _ hnone =>
        have hmem := Entry.statement_mem he (by simp [hmarker])
        have hcovers' := (listCovers_eq_true_iff host (hshort e he)).mp hcovers
        exact absurd ((e.statement_isAbout_iff host port).mpr hcovers') (hnone _ hmem)
    | trusted => exact Or.inl rfl
    | changed => exact Or.inr rfl
  rw [hverdict, Except.ok.injEq, Except.ok.injEq, ← hholds]
  rcases hknown with rfl | rfl <;> simp

/-- Every entry that loads has a key. Unless that is revoked, it is trusted on a host of an
unmarked entry exactly when some unmarked entry for the host has it under its own algorithm, and
counts as changed otherwise: at every port that no pattern of the text is kept from an answer by.
All entries have their keys under the types that these have exactly when all lines do. -/
theorem ownKey_trusted_iff {t : Text} {store : KnownHosts} (h : ofText lib t = .ok store) :
    (∀ e ∈ store.entries, ∃ key, lib.decodePublic e.keyData = .ok key ∧
      (e.marker = .none →
        (∀ r ∈ store.entries, r.marker = .revoked → r.keyData ≠ key.blob) →
        ∀ (host : Text) (port : Int), ShortPorts t port →
          listCovers host port e.hosts = .ok true →
          (store.check host port key = .ok .trusted ↔ HoldsTyped store.entries host port key) ∧
          (store.check host port key = .ok .changed ↔
            ¬ HoldsTyped store.entries host port key))) ∧
    ((∀ e ∈ store.entries, NamesType lib e.keyData e.keyType) ↔
      ∀ line ∈ significantLines t, ∀ m hosts keyType data, LineSays line m hosts keyType data →
        ∀ blob, Base64.decode data = .ok blob → NamesType lib blob keyType) := by
  have hparse := parse_of_ofText h
  constructor
  · intro e he
    obtain ⟨line, -, hosts, data, -, -, ⟨key, hkey⟩, -⟩ := exists_line_of_entry hparse he
    refine ⟨key, hkey, fun hmarker hclean host port hports hcovers => ?_⟩
    exact check_ownKey ((shortPorts_iff hparse port).mp hports) he hmarker hclean hcovers
  · constructor
    · intro hentries line hline m hosts keyType data hsays blob hblob
      obtain ⟨e, he, hosts', data', hsays', hdata, -, -⟩ := exists_entry_of_line hparse hline
      obtain ⟨-, -, rfl, rfl⟩ := hsays.unique hsays'
      obtain rfl := Except.ok.inj (hblob.symm.trans hdata)
      exact hentries e he
    · intro hlines e he
      obtain ⟨line, hline, hosts, data, hsays, hdata, -, -⟩ := exists_line_of_entry hparse he
      exact hlines line hline _ _ _ _ hsays _ hdata

/-! ## A key under another type -/

/-- A line for a key, under the type of another algorithm. -/
def mistypedLine (hosts : Text) : Text :=
  hosts ++ " ssh-rsa ".toList ++ Base64.encode zeroKey.blob ++ ['\n']

/-- The entry of that line. -/
def mistypedEntry (hosts : List Text) : Entry :=
  ⟨hosts, "ssh-rsa".toList, zeroKey.blob, .none, 1⟩

/-- The line loads, and the very key that it writes counts as changed for its host. -/
theorem mistyped_changed :
    ofText OpenSsh.library (mistypedLine "db".toList) =
      .ok ⟨[mistypedEntry ["db".toList]], none⟩ ∧
    OpenSsh.library.decodePublic (mistypedEntry ["db".toList]).keyData = .ok zeroKey ∧
    listCovers "db".toList 22 (mistypedEntry ["db".toList]).hosts = .ok true ∧
    check ⟨[mistypedEntry ["db".toList]], none⟩ "db".toList 22 zeroKey = .ok .changed ∧
    (mistypedEntry ["db".toList]).keyType ≠ zeroKey.algorithm := by
  refine ⟨by decide +kernel, knows_zeroKey.decoded, by decide, by decide +kernel, by decide⟩

/-- The key on a line for two hosts, and once more for one of them under its right type. -/
def retypedText : Text :=
  mistypedLine "db,web".toList ++ "db ssh-ed25519 ".toList ++ Base64.encode zeroKey.blob

/-- The store of these lines. -/
def retypedStore : KnownHosts :=
  ⟨[mistypedEntry ["db".toList, "web".toList],
    ⟨["db".toList], zeroKey.algorithm, zeroKey.blob, .none, 2⟩], none⟩

theorem retypedStore_trusts :
    ofText OpenSsh.library retypedText = .ok retypedStore ∧ ShortPorts retypedText 22 ∧
    retypedStore.check "db".toList 22 zeroKey = .ok .trusted ∧
    retypedStore.check "web".toList 22 zeroKey = .ok .changed := by
  have hload : ofText OpenSsh.library retypedText = .ok retypedStore := by decide +kernel
  have hports : ShortPorts retypedText 22 := by
    rw [shortPorts_iff (parse_of_ofText hload)]
    decide
  obtain ⟨hown, -⟩ := ownKey_trusted_iff hload
  obtain ⟨key, hkey, hverdict⟩ := hown (mistypedEntry ["db".toList, "web".toList])
    List.mem_cons_self
  obtain rfl : zeroKey = key := Except.ok.inj (knows_zeroKey.decoded.symm.trans hkey)
  have hclean : ∀ r ∈ retypedStore.entries, r.marker = .revoked → r.keyData ≠ zeroKey.blob := by
    decide
  refine ⟨hload, hports, ?_, ?_⟩
  · refine (hverdict rfl hclean "db".toList 22 hports (by decide)).1.mpr ?_
    exact ⟨_, List.mem_cons_of_mem _ List.mem_cons_self, rfl, by decide, rfl, rfl⟩
  · refine (hverdict rfl hclean "web".toList 22 hports (by decide)).2.mpr ?_
    rintro ⟨e, he, -, hcovers, -, htype⟩
    have hnot : ∀ e ∈ retypedStore.entries, e.keyType = zeroKey.algorithm →
        listCovers "web".toList 22 e.hosts ≠ .ok true := by decide
    exact hnot e he htype hcovers

end SshTunnel.KnownHosts
