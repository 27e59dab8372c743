import SshTunnel.Proofs.KnownHosts.Loading
import SshTunnel.Proofs.KnownHosts.Trust

/-!
# What a revocation says about other keys

A revoked entry among others rejects its own key for every host. For another key it counts as an
entry for the hosts that it covers: such a host is known, by a key that is not the one asked
about, and where no other entry covers it the verdict becomes that the key has changed.
-/

namespace SshTunnel.KnownHosts

/-! ## Entries that cover a host -/

theorem covering_append (host : Text) (port : Int) (front back : List Entry) :
    covering host port (front ++ back) =
      (covering host port front).bind fun covered =>
        (covering host port back).map (covered ++ ·) := by
  induction front with
  | nil =>
      cases hback : covering host port back <;> simp [covering, hback, Except.bind, Except.map]
  | cons entry more ih =>
      by_cases hcert : entry.marker = .certAuthority
      · simp only [List.cons_append, covering, if_pos hcert, ih]
      · simp only [List.cons_append, covering, if_neg hcert, ih]
        cases listCovers host port entry.hosts with
        | error e => rfl
        | ok hit =>
            cases covering host port more with
            | error e => rfl
            | ok covered => cases covering host port back <;> cases hit <;> rfl

/-- An entry with no port in the way of its patterns joins the entries that cover the host just
when it covers the host itself. -/
theorem covering_cons {e : Entry} (hcert : e.marker ≠ .certAuthority)
    {port : Int} (hshort : ∀ p ∈ e.hosts, ShortAt port (bare p)) (host : Text) :
    ∃ hit, (hit = true ↔ ListCovers host port e.hosts) ∧ ∀ more,
      covering host port (e :: more) =
        (covering host port more).map fun covered => if hit then e :: covered else covered := by
  obtain ⟨hit, hread, hiff⟩ := listCovers_ok host hshort
  refine ⟨hit, hiff, fun more => ?_⟩
  rw [covering, if_neg hcert, hread]
  rfl

/-! ## Verdicts with an entry for another key -/

variable {front back covered uncovered : List Entry} {e : Entry} {key : PublicKey}

/-- An entry for another key is no revocation of this one. -/
theorem judge_insert_entry (h : key.blob ≠ e.keyData) :
    judge (front ++ e :: back) covered key = judge (front ++ back) covered key := by
  simp only [judge, List.any_append, List.any_cons, h.symm, decide_false, Bool.and_false,
    Bool.false_or]

/-- An entry for another key that covers the host makes the host a known one, and changes
nothing when it is known already. -/
theorem judge_insert_covered (h : key.blob ≠ e.keyData) (entries : List Entry) :
    judge entries (covered ++ e :: uncovered) key =
      if judge entries (covered ++ uncovered) key = .unknown then .changed
      else judge entries (covered ++ uncovered) key := by
  have hkey : e.hasKey key = false := by simp [Entry.hasKey, h.symm]
  have hany : (covered ++ e :: uncovered).any (·.hasKey key)
      = (covered ++ uncovered).any (·.hasKey key) := by
    simp only [List.any_append, List.any_cons, hkey, Bool.false_or]
  have hknown : (covered ++ e :: uncovered).isEmpty = false := by simp
  unfold judge
  rw [hany, hknown]
  by_cases hrevoked :
      (entries.any fun e => e.marker = .revoked && e.keyData = key.blob) = true
  · simp only [if_pos hrevoked, reduceCtorEq, ↓reduceIte]
  · simp only [if_neg hrevoked, Bool.false_eq_true, ↓reduceIte]
    by_cases hempty : (covered ++ uncovered).isEmpty = true
    · have hnil : covered ++ uncovered = [] := by simpa using hempty
      simp [hnil]
    · simp only [if_neg hempty]
      split <;> simp

/-- A store with an entry for another key among the others gives the verdict that it would give
without it, but that a host covered by the entry is no unknown one. -/
theorem check_insert (front back : List Entry) (hcert : e.marker ≠ .certAuthority)
    {port : Int} (hshort : ∀ p ∈ e.hosts, ShortAt port (bare p)) (h : key.blob ≠ e.keyData)
    (path : Option Path) (host : Text) :
    ∃ hit, (hit = true ↔ ListCovers host port e.hosts) ∧
      check ⟨front ++ e :: back, path⟩ host port key =
        (check ⟨front ++ back, path⟩ host port key).map fun verdict =>
          if hit = true ∧ verdict = .unknown then .changed else verdict := by
  obtain ⟨hit, hiff, hcons⟩ := covering_cons hcert hshort host
  refine ⟨hit, hiff, ?_⟩
  simp only [check, covering_append, hcons]
  cases covering host port front with
  | error e => rfl
  | ok covered =>
      cases covering host port back with
      | error e => rfl
      | ok uncovered =>
          cases hit with
          | false => simp [Except.bind, Except.map, judge_insert_entry h]
          | true => simp [Except.bind, Except.map, judge_insert_entry h, judge_insert_covered h]

/-- A revocation inserted anywhere leaves the verdict on another key as it is, unless the host
is unknown without it and covered by its patterns: then the key counts as changed. -/
theorem check_insert_revocation (hrevoked : e.marker = .revoked) (h : key.blob ≠ e.keyData) :
    ∀ (front back : List Entry) (path : Option Path) (host : Text) (port : Int),
      (∀ p ∈ e.hosts, ShortAt port (bare p)) →
      (check ⟨front ++ e :: back, path⟩ host port key
          = check ⟨front ++ back, path⟩ host port key ↔
        ¬ (ListCovers host port e.hosts ∧
          check ⟨front ++ back, path⟩ host port key = .ok .unknown)) ∧
      (ListCovers host port e.hosts →
        check ⟨front ++ back, path⟩ host port key = .ok .unknown →
          check ⟨front ++ e :: back, path⟩ host port key = .ok .changed) := by
  intro front back path host port hshort
  have hcert : e.marker ≠ .certAuthority := by simp [hrevoked]
  obtain ⟨hit, hiff, hcheck⟩ := check_insert front back hcert hshort h path host
  rw [hcheck, ← hiff]
  cases check ⟨front ++ back, path⟩ host port key with
  | error e => simp [Except.map]
  | ok verdict =>
      by_cases hchanges : hit = true ∧ verdict = .unknown
      · obtain ⟨rfl, rfl⟩ := hchanges
        simp [Except.map]
      · simp only [Except.map, if_neg hchanges, Except.ok.injEq, true_iff]
        exact ⟨hchanges, fun hhit hunknown => absurd ⟨hhit, hunknown⟩ hchanges⟩

/-! ## A key that is revoked for every host -/

/-- A revocation for all hosts. -/
def revokedEverywhere : Entry := ⟨["*".toList], "ssh-ed25519".toList, [1], .revoked, 1⟩

theorem revokedEverywhere_shortAt : ∀ p ∈ revokedEverywhere.hosts, ShortAt 22 (bare p) := by
  decide

/-- A host that no other entry names has a changed key instead of an unknown one. -/
theorem revokedEverywhere_changed :
    revokedEverywhere.marker = .revoked ∧
    (∀ p ∈ revokedEverywhere.hosts, ShortAt 22 (bare p)) ∧
    zeroKey.blob ≠ revokedEverywhere.keyData ∧
    check ⟨[], none⟩ "db".toList 22 zeroKey = .ok .unknown ∧
    check ⟨[revokedEverywhere], none⟩ "db".toList 22 zeroKey = .ok .changed :=
  ⟨rfl, revokedEverywhere_shortAt, by decide, rfl, by decide⟩

/-- The entry for a key that a host is known by. -/
def knownEntry : Entry := ⟨["db".toList], zeroKey.algorithm, zeroKey.blob, .none, 2⟩

/-- A host that another entry names keeps its verdict, on whichever side of that entry the
revocation stands. -/
theorem knownEntry_stays :
    revokedEverywhere.marker = .revoked ∧
    (∀ p ∈ revokedEverywhere.hosts, ShortAt 22 (bare p)) ∧
    zeroKey.blob ≠ revokedEverywhere.keyData ∧
    check ⟨[knownEntry, revokedEverywhere], none⟩ "db".toList 22 zeroKey = .ok .trusted ∧
    check ⟨[revokedEverywhere, knownEntry], none⟩ "db".toList 22 zeroKey = .ok .trusted := by
  have hkey : zeroKey.blob ≠ revokedEverywhere.keyData := by decide
  have htrusted : check ⟨[knownEntry], none⟩ "db".toList 22 zeroKey = .ok .trusted := by
    decide
  have hknown : ¬ (ListCovers "db".toList 22 revokedEverywhere.hosts ∧
      check ⟨[knownEntry], none⟩ "db".toList 22 zeroKey = .ok .unknown) := by
    rintro ⟨-, hunknown⟩
    cases htrusted.symm.trans hunknown
  refine ⟨rfl, revokedEverywhere_shortAt, hkey, ?_, ?_⟩
  · exact ((check_insert_revocation rfl hkey [knownEntry] [] none "db".toList 22
      revokedEverywhere_shortAt).1.mpr hknown).trans htrusted
  · exact ((check_insert_revocation rfl hkey [] [knownEntry] none "db".toList 22
      revokedEverywhere_shortAt).1.mpr hknown).trans htrusted

end SshTunnel.KnownHosts
