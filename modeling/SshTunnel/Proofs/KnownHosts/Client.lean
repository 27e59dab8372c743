import SshTunnel.Proofs.KnownHosts.Revocation

/-!
# One verdict through every entry point

Verifying a key, and showing it to a client, rest on the verdict of the store. A verdict other
than trusted is reported under a kind of its own, with the host, the port and the fingerprint of
the key, and a client that is shown one key after the other has nothing left of the earlier ones.
-/

namespace SshTunnel.KnownHosts

variable {store : KnownHosts} {host : Text} {port : Int} {key : PublicKey} {verdict : Verdict}

/-- A key that a host at a port presents is not verified: there is a report of this kind that
carries the host, the port and the fingerprint, and its record has all three as well. -/
def Blames (verified : Except Failure Unit) (kind : Report.Kind) (host : Text) (port : Int)
    (key : PublicKey) : Prop :=
  ∃ report, verified = .error (.report report) ∧ report.kind = kind ∧
    report.attributes = [("host".toList, .text host), ("port".toList, .int port),
      ("fingerprint".toList, .text key.fingerprint)] ∧
    report.toRecord = .ok [("error_type".toList, .text kind.name),
      ("message".toList, .text report.message), ("host".toList, .text host),
      ("port".toList, .int port), ("fingerprint".toList, .text key.fingerprint)]

theorem Blames.kind_unique {verified : Except Failure Unit} {kind kind' : Report.Kind}
    (h : Blames verified kind host port key) (h' : Blames verified kind' host port key) :
    kind = kind' := by
  obtain ⟨report, hreport, hkind, -⟩ := h
  obtain ⟨report', hreport', hkind', -⟩ := h'
  obtain rfl : report = report' :=
    Failure.report.inj (Except.error.inj (hreport.symm.trans hreport'))
  exact hkind.symm.trans hkind'

theorem not_blames_ok (kind : Report.Kind) : ¬ Blames (.ok ()) kind host port key := by
  rintro ⟨report, hreport, -⟩
  cases hreport

/-! ## Verifying a key -/

theorem fingerprint_ne_nil (key : PublicKey) : key.fingerprint ≠ [] :=
  List.append_ne_nil_of_left_ne_nil (by decide) _

theorem Verdict.isBlankText_complaint {kind : Report.Kind} {message : Text}
    (h : verdict.complaint host = some (kind, message)) : Text.isBlankText message = false := by
  cases verdict <;> cases h <;>
    exact Text.isBlankText_eq_false (c := 'h') (by simp) (by decide)

theorem verify_trusted (h : store.check host port key = .ok .trusted) :
    store.verify host port key = .ok () := by
  rw [verify, h]
  rfl

/-- A verdict to complain about is reported under its kind, and under no other one. -/
theorem verify_blames {kind : Report.Kind} {message : Text}
    (h : store.check host port key = .ok verdict)
    (hcomplaint : verdict.complaint host = some (kind, message))
    (hport : 1 ≤ port ∧ port ≤ 65535) :
    store.verify host port key ≠ .ok () ∧
      ∀ kind', Blames (store.verify host port key) kind' host port key ↔ kind' = kind := by
  obtain ⟨report, hmade, hkind, hmessage, hattributes, hrecord⟩ :=
    Report.hostKey_report kind host hport (Verdict.isBlankText_complaint hcomplaint)
      (fingerprint_ne_nil key)
  have hverify : store.verify host port key = .error (.report report) := by
    simp only [verify, h, hcomplaint, hmade, Failure.ofMade]
  have hblames : Blames (store.verify host port key) kind host port key :=
    ⟨report, hverify, hkind, hattributes, hmessage ▸ hrecord⟩
  refine ⟨by simp [hverify], fun kind' => ⟨fun h' => h'.kind_unique hblames, ?_⟩⟩
  rintro rfl
  exact hblames

/-- Verifying a key agrees with the verdict on it. -/
theorem verify_agrees (h : store.check host port key = .ok verdict)
    (hport : 1 ≤ port ∧ port ≤ 65535) :
    (store.verify host port key = .ok () ↔ verdict = .trusted) ∧
    (Blames (store.verify host port key) .hostKeyRevoked host port key ↔ verdict = .revoked) ∧
    (Blames (store.verify host port key) .hostKeyMismatch host port key ↔ verdict = .changed) ∧
    (Blames (store.verify host port key) .hostKeyUnknown host port key ↔ verdict = .unknown) := by
  cases verdict with
  | trusted => simp [verify_trusted h, not_blames_ok]
  | unknown =>
      obtain ⟨hfails, hkind⟩ := verify_blames h rfl hport
      simp [hfails, hkind]
  | changed =>
      obtain ⟨hfails, hkind⟩ := verify_blames h rfl hport
      simp [hfails, hkind]
  | revoked =>
      obtain ⟨hfails, hkind⟩ := verify_blames h rfl hport
      simp [hfails, hkind]

/-! ## Showing keys to a client -/

/-- A key that a host at a port presents, and the address that the host was reached at. -/
structure Showing where
  host : Text
  address : Text
  port : Int
  key : PublicKey
  port_pos : 1 ≤ port
  port_le : port ≤ 65535

/-- What the store says about the key that is shown. -/
def Showing.Gets (shown : Showing) (store : KnownHosts) (verdict : Verdict) : Prop :=
  store.check (if shown.host = [] then shown.address else shown.host) shown.port shown.key =
    .ok verdict

theorem isWritable_of_port (hport : 1 ≤ port ∧ port ≤ 65535) :
    Text.Numeral.isWritable port = true :=
  Text.Numeral.isWritable_of_le (by omega)

/-- A store whose ports can be read has a verdict on every key that is shown. -/
theorem exists_verdicts (hshort : ∀ e ∈ store.entries, ∀ p ∈ e.hosts, ShortPort (bare p))
    (showings : List Showing) : ∃ verdicts, List.Forall₂ (·.Gets store ·) showings verdicts := by
  induction showings with
  | nil => exact ⟨[], .nil⟩
  | cons shown more ih =>
      obtain ⟨verdict, hverdict, -⟩ := check_ok store
        (if shown.host = [] then shown.address else shown.host) shown.key
        (fun e he p hp =>
          (hshort e he p hp).shortAt (isWritable_of_port ⟨shown.port_pos, shown.port_le⟩))
      obtain ⟨verdicts, hverdicts⟩ := ih
      exact ⟨verdict :: verdicts, .cons hverdict hverdicts⟩

namespace Client

/-- Shows one key after the other to a client: whether it accepts each one and the verdict that
it remembers then, and the client afterwards. -/
def showAll (client : Client) :
    List Showing → Except Text.Numeral.TooLong (List (Bool × Option Verdict) × Client)
  | [] => .ok ([], client)
  | shown :: more =>
      (client.validate shown.host shown.address shown.port shown.key).bind fun step =>
        (step.2.showAll more).map fun rest => ((step.1, step.2.verdict) :: rest.1, rest.2)

theorem validate_eq {shown : Showing} (h : shown.Gets store verdict) (last : Option Verdict) :
    validate ⟨store, last⟩ shown.host shown.address shown.port shown.key =
      .ok (verdict = .trusted, ⟨store, some verdict⟩) := by
  have hname : nameOf shown.host shown.address =
      if shown.host = [] then shown.address else shown.host := by
    simp [nameOf]
  rw [validate, hname, h]
  rfl

/-- Whatever a client was shown before, it goes by the verdicts of its store. -/
theorem showAll_eq {showings : List Showing} {verdicts : List Verdict}
    (h : List.Forall₂ (·.Gets store ·) showings verdicts) (last : Option Verdict) :
    showAll ⟨store, last⟩ showings =
      .ok (verdicts.map fun verdict => (decide (verdict = .trusted), some verdict),
        ⟨store, verdicts.getLast?.or last⟩) := by
  induction h generalizing last with
  | nil => simp [showAll]
  | @cons shown verdict more verdicts hfirst _ ih =>
      have hlast : verdicts.getLast?.or (some verdict)
          = (verdict :: verdicts).getLast?.or last := by
        rw [List.getLast?_cons]
        cases verdicts.getLast? <;> rfl
      rw [showAll, validate_eq hfirst, ← hlast]
      simp only [Except.bind, ih (some verdict)]
      rfl

end Client

/-- Verifying a key and showing it to a client go by one verdict. The key is verified exactly
when it is trusted, and blamed under one of three kinds exactly as it is revoked, changed or
unknown. A client accepts each key that it is shown exactly when that one is trusted, and
remembers its verdict, whatever it was shown before. -/
theorem entryPoints_agree
    (hshort : ∀ e ∈ store.entries, ∀ p ∈ e.hosts, ShortPort (bare p)) :
    (∀ (host : Text) (port : Int) (key : PublicKey), 1 ≤ port → port ≤ 65535 → ∃ verdict,
      store.check host port key = .ok verdict ∧
      (store.verify host port key = .ok () ↔ verdict = .trusted) ∧
      (Blames (store.verify host port key) .hostKeyRevoked host port key ↔ verdict = .revoked) ∧
      (Blames (store.verify host port key) .hostKeyMismatch host port key ↔ verdict = .changed) ∧
      (Blames (store.verify host port key) .hostKeyUnknown host port key ↔
        verdict = .unknown)) ∧
    ∀ (last : Option Verdict) (showings : List Showing), ∃ verdicts,
      List.Forall₂ (·.Gets store ·) showings verdicts ∧
      Client.showAll ⟨store, last⟩ showings =
        .ok (verdicts.map fun verdict => (decide (verdict = .trusted), some verdict),
          ⟨store, verdicts.getLast?.or last⟩) := by
  constructor
  · intro host port key hpos hle
    obtain ⟨verdict, hverdict, -⟩ := check_ok store host key fun e he p hp =>
      (hshort e he p hp).shortAt (isWritable_of_port ⟨hpos, hle⟩)
    exact ⟨verdict, hverdict, verify_agrees hverdict ⟨hpos, hle⟩⟩
  · intro last showings
    obtain ⟨verdicts, hverdicts⟩ := exists_verdicts hshort showings
    exact ⟨verdicts, hverdicts, Client.showAll_eq hverdicts last⟩

/-- A host with a key, and another key that is revoked for all hosts. -/
def guardedStore : KnownHosts := ⟨[knownEntry, revokedEverywhere], none⟩

/-- The key of that host, shown for its name, and for the address of another host. -/
def twoShowings : List Showing :=
  [⟨"db".toList, "10.0.0.1".toList, 22, zeroKey, by decide, by decide⟩,
    ⟨[], "10.0.0.2".toList, 2222, zeroKey, by decide, by decide⟩]

theorem guardedStore_agrees :
    (∀ e ∈ guardedStore.entries, ∀ p ∈ e.hosts, ShortPort (bare p)) ∧
    guardedStore.verify "db".toList 22 zeroKey = .ok () ∧
    Blames (guardedStore.verify "web".toList 22 zeroKey) .hostKeyMismatch "web".toList 22
      zeroKey ∧
    ∃ after, Client.showAll (.ofStore guardedStore) twoShowings =
      .ok ([(true, some .trusted), (false, some .unknown)], after) := by
  have hshort : ∀ e ∈ guardedStore.entries, ∀ p ∈ e.hosts, ShortPort (bare p) := by decide
  obtain ⟨hverify, hshow⟩ := entryPoints_agree hshort
  refine ⟨hshort, ?_, ?_, ?_⟩
  · obtain ⟨verdict, hverdict, htrusted, -⟩ :=
      hverify "db".toList 22 zeroKey (by decide) (by decide)
    have hcheck : guardedStore.check "db".toList 22 zeroKey = .ok .trusted := by decide
    exact htrusted.mpr (Except.ok.inj (hverdict.symm.trans hcheck))
  · obtain ⟨verdict, hverdict, -, -, hchanged, -⟩ :=
      hverify "web".toList 22 zeroKey (by decide) (by decide)
    have hcheck : guardedStore.check "web".toList 22 zeroKey = .ok .changed := by decide
    exact hchanged.mpr (Except.ok.inj (hverdict.symm.trans hcheck))
  · obtain ⟨verdicts, hverdicts, hall⟩ := hshow none twoShowings
    cases hverdicts with
    | cons hfirst hmore =>
        cases hmore with
        | cons hsecond hnil =>
            cases hnil
            have htrusted : guardedStore.check "db".toList 22 zeroKey = .ok .trusted := by decide
            have hunknown : guardedStore.check "10.0.0.2".toList 2222 zeroKey = .ok .unknown := by
              decide
            obtain rfl := Except.ok.inj (hfirst.symm.trans htrusted)
            obtain rfl := Except.ok.inj (hsecond.symm.trans hunknown)
            exact ⟨_, hall⟩

end SshTunnel.KnownHosts
